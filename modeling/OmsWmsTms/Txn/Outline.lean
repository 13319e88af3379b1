import OmsWmsTms.Txn.System
import OmsWmsTms.Txn.Writes

/-!
# Rely and guarantee for transaction programs

A program is proved against its environment: whatever the other programs commit is in its `rely`,
rows it has locked stay as they are, and each of its own commits must be in its `guar`.  `Safe` says
this statement by statement, with the interference of the environment before each statement, so that
what is proved at one statement needs no separate proof of stability.

* `Safe` : the program keeps its contract from a local state and a database.
* `Safe.bind`, `Safe.mono`, `Safe.weaken`, `Safe.reads` : the rules for composed programs.
* `allSafe_step` : programs whose guarantees are relied on keep their contracts step by step.
* `safe_run_relation` : what every commit does to the committed rows, a run does.
-/

namespace OmsWmsTms

namespace Txn

/-- What a program may assume and must keep, but for its result. -/
structure Contract (K R E : Type) where
  /-- How the committed rows may change between two statements. -/
  rely : Dict K R → Dict K R → Prop
  /-- What a commit does: the local state before it, and the committed rows before and after. -/
  guar : Local K R → Dict K R → Dict K R → Prop
  /-- What holds when an exception is raised. -/
  exc : E → Local K R → Dict K R → Prop
  /-- Whether commits can fail. -/
  mayFail : Prop

variable {K R E A B P : Type} [DecidableEq K] {c : Contract K R E}

/-- The committed rows after the environment has moved: rows that are locked have not changed. -/
def Contract.Env (c : Contract K R E) (l : Local K R) (d d' : Dict K R) : Prop :=
  c.rely d d' ∧ ∀ key ∈ l.locks, d'.get? key = d.get? key

/-- The relations are preorders. -/
class Contract.Preordered (c : Contract K R E) : Prop where
  refl : ∀ d, c.rely d d
  trans : ∀ d d' d'', c.rely d d' → c.rely d' d'' → c.rely d d''

theorem Contract.Env.refl [c.Preordered] (l : Local K R) (d : Dict K R) : c.Env l d d :=
  ⟨Preordered.refl d, fun _ _ => rfl⟩

theorem Contract.Env.trans [c.Preordered] {l : Local K R} {d d' d'' : Dict K R}
    (h : c.Env l d d') (h' : c.Env l d' d'') : c.Env l d d'' :=
  ⟨Preordered.trans _ _ _ h.1 h'.1, fun key hkey => (h'.2 key hkey).trans (h.2 key hkey)⟩

/-- The program `p` keeps the contract from the local state `l` and the committed rows `d`, and
returns with `post`. -/
def Safe (c : Contract K R E) (post : A → Local K R → Dict K R → Prop) :
    Prog K R E A → Local K R → Dict K R → Prop
  | .ret a, l, d => ∀ d', c.Env l d d' → post a l d'
  | .throw e, l, d => ∀ d', c.rely d d' → c.exc e l.abort d'
  | .fresh next, l, d => ∀ n, Safe c post (next n) l d
  | .select query next, l, d => ∀ d', c.Env l d d' →
      Safe c post (next (select query (overlay d' l.pending)))
        (l.see query (select query (overlay d' l.pending))) d'
  | .update key guard change next, l, d => ∀ d', c.Env l d d' →
      ((overlay d' l.pending).get? key = none →
        Safe c post (next false) (l.see (keyQuery key) []) d') ∧
      ∀ row, (overlay d' l.pending).get? key = some row →
        (guard row = true →
          Safe c post (next true) ((l.see (keyQuery key) [(key, row)]).write key (change row)) d') ∧
        (guard row = false → Safe c post (next false) (l.see (keyQuery key) [(key, row)]) d')
  | .insert key row next, l, d => ∀ d', c.Env l d d' →
      ((overlay d' l.pending).get? key = none →
        Safe c post (next true) ((l.see (keyQuery key) []).write key row) d') ∧
      ∀ row', (overlay d' l.pending).get? key = some row' →
        Safe c post (next false) (l.see (keyQuery key) [(key, row')]) d'
  | .commit next, l, d => ∀ d', c.Env l d d' →
      c.guar l d' (overlay d' l.pending) ∧
      Safe c post (next true) (l.commit d') (overlay d' l.pending) ∧
      (c.mayFail → Safe c post (next false) l.abort d')
  | .rollback next, l, d => ∀ d', c.Env l d d' → Safe c post next l.rollback d'

section Rules

variable {post post' : A → Local K R → Dict K R → Prop} {p : Prog K R E A} {l : Local K R}
  {d d' : Dict K R}

/-- The moves of the environment keep what has been proved. -/
theorem Safe.stable [c.Preordered] (h : Safe c post p l d) (henv : c.Env l d d') :
    Safe c post p l d' := by
  induction p with
  | fresh next ih => exact fun n => ih n (h n)
  | throw e => exact fun d'' hrely => h d'' (Contract.Preordered.trans _ _ _ henv.1 hrely)
  | ret a => exact fun d'' henv' => h d'' (henv.trans henv')
  | select query next => exact fun d'' henv' => h d'' (henv.trans henv')
  | update key guard change next => exact fun d'' henv' => h d'' (henv.trans henv')
  | insert key row next => exact fun d'' henv' => h d'' (henv.trans henv')
  | commit next => exact fun d'' henv' => h d'' (henv.trans henv')
  | rollback next => exact fun d'' henv' => h d'' (henv.trans henv')

/-- A weaker result. -/
theorem Safe.mono (h : Safe c post p l d) (hpost : ∀ a l d, post a l d → post' a l d) :
    Safe c post' p l d := by
  induction p generalizing l d with
  | ret a => exact fun d' henv => hpost a l d' (h d' henv)
  | throw e => exact h
  | fresh next ih => exact fun n => ih n (h n)
  | select query next ih => exact fun d' henv => ih _ (h d' henv)
  | update key guard change next ih =>
    exact fun d' henv => ⟨fun hnone => ih _ ((h d' henv).1 hnone), fun row hrow =>
      ⟨fun hg => ih _ (((h d' henv).2 row hrow).1 hg),
        fun hg => ih _ (((h d' henv).2 row hrow).2 hg)⟩⟩
  | insert key row next ih =>
    exact fun d' henv => ⟨fun hnone => ih _ ((h d' henv).1 hnone),
      fun row' hrow => ih _ ((h d' henv).2 row' hrow)⟩
  | commit next ih =>
    exact fun d' henv => ⟨(h d' henv).1, ih _ (h d' henv).2.1,
      fun hfail => ih _ ((h d' henv).2.2 hfail)⟩
  | rollback next ih => exact fun d' henv => ih (h d' henv)

/-- **The rule of consequence**: a contract that assumes more and asks less. -/
theorem Safe.weaken {c' : Contract K R E} (h : Safe c post p l d)
    (hrely : ∀ d d', c'.rely d d' → c.rely d d')
    (hguar : ∀ l d, c.guar l d (overlay d l.pending) → c'.guar l d (overlay d l.pending))
    (hexc : ∀ e l d, c.exc e l d → c'.exc e l d) (hfail : c'.mayFail → c.mayFail) :
    Safe c' post p l d := by
  have henv {l : Local K R} {d d' : Dict K R} (henv : c'.Env l d d') : c.Env l d d' :=
    ⟨hrely _ _ henv.1, henv.2⟩
  induction p generalizing l d with
  | ret a => exact fun d' henv' => h d' (henv henv')
  | throw e => exact fun d' hrely' => hexc _ _ _ (h d' (hrely _ _ hrely'))
  | fresh next ih => exact fun n => ih n (h n)
  | select query next ih => exact fun d' henv' => ih _ (h d' (henv henv'))
  | update key guard change next ih =>
    intro d' henv'
    obtain ⟨hnone, hsome⟩ := h d' (henv henv')
    exact ⟨fun hget => ih _ (hnone hget), fun row hrow =>
      ⟨fun hg => ih _ ((hsome row hrow).1 hg), fun hg => ih _ ((hsome row hrow).2 hg)⟩⟩
  | insert key row next ih =>
    intro d' henv'
    obtain ⟨hnone, hsome⟩ := h d' (henv henv')
    exact ⟨fun hget => ih _ (hnone hget), fun row' hrow => ih _ (hsome row' hrow)⟩
  | commit next ih =>
    intro d' henv'
    obtain ⟨hdone, hnext, hlost⟩ := h d' (henv henv')
    exact ⟨hguar l d' hdone, ih _ hnext, fun hf => ih _ (hlost (hfail hf))⟩
  | rollback next ih => exact fun d' henv' => ih (h d' (henv henv'))

/-- **The rule for programs in sequence.** -/
theorem Safe.bind [c.Preordered] {postB : B → Local K R → Dict K R → Prop}
    {f : A → Prog K R E B} (h : Safe c (fun a l d => Safe c postB (f a) l d) p l d) :
    Safe c postB (p.bind f) l d := by
  induction p generalizing l d with
  | ret a => exact h d (.refl l d)
  | throw e => exact h
  | fresh next ih => exact fun n => ih n (h n)
  | select query next ih => exact fun d' henv => ih _ (h d' henv)
  | update key guard change next ih =>
    exact fun d' henv => ⟨fun hnone => ih _ ((h d' henv).1 hnone), fun row hrow =>
      ⟨fun hg => ih _ (((h d' henv).2 row hrow).1 hg),
        fun hg => ih _ (((h d' henv).2 row hrow).2 hg)⟩⟩
  | insert key row next ih =>
    exact fun d' henv => ⟨fun hnone => ih _ ((h d' henv).1 hnone),
      fun row' hrow => ih _ ((h d' henv).2 row' hrow)⟩
  | commit next ih =>
    exact fun d' henv => ⟨(h d' henv).1, ih _ (h d' henv).2.1,
      fun hfail => ih _ ((h d' henv).2.2 hfail)⟩
  | rollback next ih => exact fun d' henv => ih (h d' henv)

/-- A program with another value. -/
theorem Safe.map [c.Preordered] {Q : Local K R → Prop} {f : A → B}
    (h : Safe c (fun _ l _ => Q l) p l d) : Safe c (fun _ l _ => Q l) (p.map f) l d :=
  Safe.bind (h.mono fun _ _ _ hq _ _ => hq)

/-- **The rule for retries**: what each attempt starts from. -/
theorem Safe.attempts [c.Preordered] {f : ℕ → Prog K R E (A ⊕ A)} (left : ℕ) {i : ℕ}
    {I : ℕ → Local K R → Dict K R → Prop} {Q : A → Local K R → Dict K R → Prop}
    (hstep : ∀ j l d, I j l d → Safe c (fun answer l d => answer.elim
      (fun a => if j = i + left then Q a l d else I (j + 1) l d) (fun a => post a l d))
      (f j) l d)
    (hlast : ∀ a l d, Q a l d → Safe c post (.ret a) l d)
    (hpost : ∀ a l d, post a l d → Safe c post (.ret a) l d) (h : I i l d) :
    Safe c post (Prog.attempts f i left) l d := by
  induction left generalizing i l d with
  | zero =>
    refine Safe.bind ((hstep i l d h).mono ?_)
    rintro (a | a) l d hanswer
    · exact hlast a l d (by simpa using hanswer)
    · exact hpost a l d hanswer
  | succ left ih =>
    refine Safe.bind ((hstep i l d h).mono ?_)
    rintro (a | a) l d hanswer
    · have hnext : I (i + 1) l d := by simpa using hanswer
      refine ih (i := i + 1) (fun j l d hj => ?_) hnext
      rw [Nat.add_right_comm, Nat.add_assoc]
      exact hstep j l d hj
    · exact hpost a l d hanswer

/-- **The rule for reads**: what holds whatever the program has read. -/
theorem Safe.reads (hp : Reads p) {I : Local K R → Dict K R → Prop}
    (hstable : ∀ l d d', I l d → c.Env l d d' → I l d')
    (hsee : ∀ l d query rows, I l d → I (l.see query rows) d)
    (hpost : ∀ a l d, I l d → post a l d)
    (hexc : ∀ e l d d', I l d → c.rely d d' → c.exc e l.abort d')
    (h : I l d) : Safe c post p l d := by
  induction p generalizing l d with
  | ret a => exact fun d' henv => hpost a l d' (hstable l d d' h henv)
  | throw e => exact fun d' hrely => hexc e l d d' h hrely
  | fresh next ih => exact fun n => ih n (hp n) h
  | select query next ih =>
    exact fun d' henv => ih _ (hp _) (hsee l d' query _ (hstable l d d' h henv))
  | update key guard change next ih =>
    -- the guard of an `UPDATE` is never met
    refine fun d' henv => ⟨fun _ => ih _ (hp.2 _) (hsee _ _ _ _ (hstable l d d' h henv)),
      fun row _ => ⟨fun hg => (hp.1 row hg).elim, fun _ => ?_⟩⟩
    exact ih _ (hp.2 _) (hsee _ _ _ _ (hstable l d d' h henv))
  | insert key row next => exact hp.1.elim
  | commit next => exact hp.1.elim
  | rollback next => exact hp.1.elim

end Rules

/-! ### Concurrent runs -/

section Run

variable {post : P → A → Local K R → Dict K R → Prop} {cs : P → Contract K R E}
  {s s' : State P K R E A}

/-- All programs keep their contracts. -/
def AllSafe (cs : P → Contract K R E) (post : P → A → Local K R → Dict K R → Prop)
    (s : State P K R E A) : Prop :=
  ∀ p, Safe (cs p) (post p) (s.procs p).prog (s.procs p).loc s.db

/-- The commits of each program are in the rely of the others. -/
def Compatible (cs : P → Contract K R E) : Prop :=
  ∀ p q, p ≠ q → ∀ l d, (cs p).guar l d (overlay d l.pending) →
    (cs q).rely d (overlay d l.pending)

/-- A program keeps its contract over a statement. -/
theorem Safe.next [c.Preordered] {post : A → Local K R → Dict K R → Prop} {p : Proc K R E A}
    {d : Dict K R} (h : Safe c post p.prog p.loc d) (n : ℕ) :
    Safe c post (p.next d n).2.prog (p.next d n).2.loc (p.next d n).1 := by
  obtain ⟨prog, base, l⟩ := p
  have henv := Contract.Env.refl (c := c) l d
  cases prog with
  | ret a => exact h
  | throw e => exact h
  | fresh next => exact h n
  | select query next => exact h d henv
  | update key guard change next =>
    cases hget : (overlay d l.pending).get? key with
    | none =>
      rw [Proc.next_update_none hget]
      exact (h d henv).1 hget
    | some row =>
      rw [Proc.next_update_some hget]
      split
      · rename_i hg
        exact ((h d henv).2 row hget).1 hg
      · rename_i hg
        exact ((h d henv).2 row hget).2 (Bool.eq_false_iff.2 hg)
  | insert key row next =>
    cases hget : (overlay d l.pending).get? key with
    | none =>
      rw [Proc.next_insert_none hget]
      exact (h d henv).1 hget
    | some row' =>
      rw [Proc.next_insert_some hget]
      exact (h d henv).2 row' hget
  | commit next => exact (h d henv).2.1
  | rollback next => exact h d henv

/-- A commit does what is guaranteed. -/
theorem AllSafe.guar [∀ p, (cs p).Preordered] (hs : AllSafe cs post s) {p : P}
    {next : Bool → Prog K R E A} (hprog : (s.procs p).prog = .commit next) :
    (cs p).guar (s.procs p).loc s.db (overlay s.db (s.procs p).loc.pending) := by
  have hp := hs p
  rw [hprog] at hp
  exact (hp s.db (.refl _ _)).1

variable [DecidableEq P]

/-- **A step keeps all contracts.** -/
theorem allSafe_step [∀ p, (cs p).Preordered] (hcompat : Compatible cs)
    (hfail : ∀ p, (cs p).mayFail) (hexcl : Exclusive s) (hs : AllSafe cs post s) {label : Label P}
    (h : system.step s label s') : AllSafe cs post s' := by
  cases label with
  | run p n =>
    obtain ⟨-, rfl⟩ := h
    intro q
    by_cases hq : q = p
    · subst hq
      simp only [State.update, Function.update_self]
      exact (hs q).next n
    · simp only [State.update, Function.update_of_ne hq]
      refine (hs q).stable ?_
      rcases Proc.next_db s.db n (s.procs p) with hdb | ⟨next, hprog, hnext⟩
      · rw [hdb]
        exact .refl _ _
      · -- the rows that `q` has locked are not among those that `p` commits
        rw [hnext]
        refine ⟨hcompat p q (Ne.symm hq) _ _ (hs.guar hprog), fun key hkey => ?_⟩
        exact get?_overlay_of_notMem (hexcl q p hq key hkey)
  | fail p =>
    obtain ⟨next, hprog, rfl⟩ := h
    intro q
    by_cases hq : q = p
    · subst hq
      simp only [State.update, Function.update_self]
      have hp := hs q
      rw [hprog] at hp
      exact (hp s.db (.refl _ _)).2.2 (hfail q)
    · simp only [State.update, Function.update_of_ne hq]
      exact hs q

/-- **What every commit does to the committed rows, a run does.** -/
theorem safe_run_relation [∀ p, (cs p).Preordered] (hcompat : Compatible cs)
    (hfail : ∀ p, (cs p).mayFail) {T : Dict K R → Dict K R → Prop} (hrefl : ∀ d, T d d)
    (htrans : ∀ d d' d'', T d d' → T d' d'' → T d d'')
    (hT : ∀ p l d, (cs p).guar l d (overlay d l.pending) → T d (overlay d l.pending))
    {d : Dict K R} {progs : P → Prog K R E A}
    (hstart : ∀ p, Safe (cs p) (post p) (progs p) .start d)
    {labels : List (Label P)} (h : system.Run (State.start d progs) labels s) : T d s.db := by
  have hinit : (Exclusive (State.start d progs) ∧ AllSafe cs post (State.start d progs)) ∧
      T d (State.start d progs).db :=
    ⟨⟨exclusive_start d progs, hstart⟩, hrefl d⟩
  refine (h.invariant (I := fun s => (Exclusive s ∧ AllSafe cs post s) ∧ T d s.db) hinit ?_).2
  rintro s label s' ⟨⟨hexcl, hs⟩, hd⟩ hstep
  refine ⟨⟨exclusive_step hexcl hstep, allSafe_step hcompat hfail hexcl hs hstep⟩, ?_⟩
  rcases system_db hstep with hdb | ⟨p, next, -, hprog, hdb, -⟩
  · rwa [hdb]
  · rw [hdb]
    exact htrans _ _ _ hd (hT p _ _ (hs.guar hprog))

end Run

end Txn

end OmsWmsTms
