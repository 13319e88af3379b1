import OmsWmsTms.Txn.Outline
import OmsWmsTms.Txn.Serial
import Mathlib.Logic.Relation

/-!
# Programs that run alone

The weakest precondition of a program that no other program disturbs, over the committed rows and
the rows that its transaction sees.  Exceptions and failed commits lose the writes and nothing else,
so nothing is asked of them.

* `Ensures C post p d w` : every commit of the program is in `C`, and it returns with `post`.
* `ensures_bind` and the lemmas after it : the rules for composed programs and for statements.
* `Ensures.run` : a call that runs to its end.
* `Ensures.crash` : a call that is stopped after any statement.
* `exists_run_exec` : what `Prog.exec` computes is a run of the system of one program;
  `valid_alone` : all reads of such a run are valid.
-/

namespace OmsWmsTms

namespace Txn

variable {K R E A B : Type} [DecidableEq K] {C : Dict K R → Dict K R → Prop}

/-- From the committed rows `d` and the rows `w` that the transaction sees, every commit of the
program is in `C`, and it returns with `post`. -/
def Ensures (C : Dict K R → Dict K R → Prop) (post : A → Dict K R → Dict K R → Prop) :
    Prog K R E A → Dict K R → Dict K R → Prop
  | .ret a, d, w => post a d w
  | .throw _, _, _ => True
  | .fresh next, d, w => ∀ n, Ensures C post (next n) d w
  | .select query next, d, w => Ensures C post (next (select query w)) d w
  | .update key guard change next, d, w =>
    (w.get? key = none → Ensures C post (next false) d w) ∧ ∀ row, w.get? key = some row →
      (guard row = true → Ensures C post (next true) d (w.set key (change row))) ∧
      (guard row = false → Ensures C post (next false) d w)
  | .insert key row next, d, w =>
    (w.get? key = none → Ensures C post (next true) d (w.set key row)) ∧
    (w.get? key ≠ none → Ensures C post (next false) d w)
  | .commit next, d, w => C d w ∧ Ensures C post (next true) w w ∧ Ensures C post (next false) d d
  | .rollback next, d, _ => Ensures C post next d d

section Rules

variable {post post' : A → Dict K R → Dict K R → Prop} {p : Prog K R E A} {d w : Dict K R}

/-- Asking less of the commits and of the end. -/
theorem Ensures.imp {C' : Dict K R → Dict K R → Prop} (h : Ensures C post p d w)
    (hC : ∀ d w, C d w → C' d w) (hpost : ∀ a d w, post a d w → post' a d w) :
    Ensures C' post' p d w := by
  induction p generalizing d w with
  | ret a => exact hpost a d w h
  | throw e => trivial
  | fresh next ih => exact fun n => ih n (h n)
  | select query next ih => exact ih _ h
  | update key guard change next ih =>
    exact ⟨fun hnone => ih _ (h.1 hnone), fun row hrow =>
      ⟨fun hg => ih _ ((h.2 row hrow).1 hg), fun hg => ih _ ((h.2 row hrow).2 hg)⟩⟩
  | insert key row next ih => exact ⟨fun hnone => ih _ (h.1 hnone), fun hsome => ih _ (h.2 hsome)⟩
  | commit next ih => exact ⟨hC _ _ h.1, ih _ h.2.1, ih _ h.2.2⟩
  | rollback next ih => exact ih h

theorem Ensures.mono (h : Ensures C post p d w) (hpost : ∀ a d w, post a d w → post' a d w) :
    Ensures C post' p d w := h.imp (fun _ _ hC => hC) hpost

/-- Asking less of the commits. -/
theorem Ensures.weaken {C' : Dict K R → Dict K R → Prop} (h : Ensures C post p d w)
    (hC : ∀ d w, C d w → C' d w) : Ensures C' post p d w := h.imp hC fun _ _ _ hpost => hpost

/-- **Programs in sequence.** -/
theorem ensures_bind {postB : B → Dict K R → Dict K R → Prop} {f : A → Prog K R E B} :
    Ensures C postB (p.bind f) d w ↔
      Ensures C (fun a d w => Ensures C postB (f a) d w) p d w := by
  induction p generalizing d w with
  | ret a => rfl
  | throw e => rfl
  | fresh next ih => exact forall_congr' fun n => ih n
  | select query next ih => exact ih _
  | update key guard change next ih =>
    exact and_congr (imp_congr_right fun _ => ih _) (forall_congr' fun row =>
      imp_congr_right fun _ => and_congr (imp_congr_right fun _ => ih _)
        (imp_congr_right fun _ => ih _))
  | insert key row next ih =>
    exact and_congr (imp_congr_right fun _ => ih _) (imp_congr_right fun _ => ih _)
  | commit next ih => exact and_congr_right fun _ => and_congr (ih _) (ih _)
  | rollback next ih => exact ih

/-- **Loops**: an invariant of the elements that are left. -/
theorem Ensures.forEach {α : Type} {f : α → Prog K R E Unit}
    {I : List α → Dict K R → Dict K R → Prop}
    (hstep : ∀ a as d w, I (a :: as) d w → Ensures C (fun _ => I as) (f a) d w) (as : List α)
    (h : I as d w) : Ensures C (fun _ => I []) (Prog.forEach as f) d w := by
  induction as generalizing d w with
  | nil => exact h
  | cons a as ih => exact ensures_bind.2 ((hstep a as d w h).mono fun _ _ _ h => ih h)

/-- Loops that pass a value along. -/
theorem Ensures.foldEach {α σ : Type} {f : σ → α → Prog K R E σ}
    {I : List α → σ → Dict K R → Dict K R → Prop}
    (hstep : ∀ a as s d w, I (a :: as) s d w → Ensures C (fun s => I as s) (f s a) d w)
    (as : List α) (s : σ) (h : I as s d w) :
    Ensures C (fun s => I [] s) (Prog.foldEach as s f) d w := by
  induction as generalizing s d w with
  | nil => exact h
  | cons a as ih => exact ensures_bind.2 ((hstep a as s d w h).mono fun s _ _ h => ih s h)

/-- **Programs without a commit**: what their writes preserve. -/
theorem Ensures.writes {ok : K → Option R → R → Prop} (hp : Writes False ok p)
    {I : Dict K R → Prop}
    (hI : ∀ w key row, I w → ok key (w.get? key) row → I (w.set key row)) (hw : I w) :
    Ensures C (fun _ d' w' => d = d' ∧ I w') p d w := by
  induction p generalizing w with
  | ret a => exact ⟨rfl, hw⟩
  | throw e => trivial
  | fresh next ih => exact fun n => ih n (hp n) hw
  | select query next ih => exact ih _ (hp _) hw
  | update key guard change next ih =>
    refine ⟨fun _ => ih _ (hp.2 _) hw, fun row hrow =>
      ⟨fun hg => ih _ (hp.2 _) (hI w key _ hw ?_), fun _ => ih _ (hp.2 _) hw⟩⟩
    rw [hrow]
    exact hp.1 row hg
  | insert key row next ih =>
    refine ⟨fun hnone => ih _ (hp.2 _) (hI w key _ hw ?_), fun _ => ih _ (hp.2 _) hw⟩
    rw [hnone]
    exact hp.1
  | commit next => exact hp.1.elim
  | rollback next => exact hp.1.elim

/-- A program that only reads changes nothing. -/
theorem Ensures.reads (hp : Reads p) : Ensures C (fun _ d' w' => d = d' ∧ w = w') p d w :=
  Ensures.writes hp (I := fun w' => w = w') (fun _ _ _ _ h => h.elim) rfl

end Rules

/-! ### Statements -/

section Statements

variable {d w : Dict K R}

@[simp] theorem ensures_ret {post : A → Dict K R → Dict K R → Prop} {a : A} :
    Ensures C post (.ret a : Prog K R E A) d w ↔ post a d w := Iff.rfl

@[simp] theorem ensures_throw {post : A → Dict K R → Dict K R → Prop} {e : E} :
    Ensures C post (.throw e : Prog K R E A) d w ↔ True := Iff.rfl

@[simp] theorem ensures_query {post : List (K × R) → Dict K R → Dict K R → Prop}
    {q : Query K R} :
    Ensures C post (Prog.query q : Prog K R E _) d w ↔ post (select q w) d w := Iff.rfl

@[simp] theorem ensures_newId {post : ℕ → Dict K R → Dict K R → Prop} :
    Ensures C post (Prog.newId : Prog K R E ℕ) d w ↔ ∀ n, post n d w := Iff.rfl

@[simp] theorem ensures_ofExcept {post : A → Dict K R → Dict K R → Prop} {x : Except E A} :
    Ensures C post (Prog.ofExcept x : Prog K R E A) d w ↔ ∀ a, x = .ok a → post a d w := by
  cases x with
  | error e => exact ⟨fun _ a h => (nomatch h), fun _ => trivial⟩
  | ok a => exact ⟨fun h b hb => by cases hb; exact h, fun h => h a rfl⟩

@[simp] theorem ensures_commitOr {post : Unit → Dict K R → Dict K R → Prop} {e : E} :
    Ensures C post (Prog.commitOr e : Prog K R E Unit) d w ↔ C d w ∧ post () w w :=
  ⟨fun h => ⟨h.1, h.2.1⟩, fun h => ⟨h.1, h.2, trivial⟩⟩

@[simp] theorem ensures_insertOr {post : Unit → Dict K R → Dict K R → Prop} {e : E} {key : K}
    {row : R} : Ensures C post (Prog.insertOr e key row : Prog K R E Unit) d w ↔
      (w.get? key = none → post () d (w.set key row)) :=
  ⟨fun h => h.1, fun h => ⟨h, fun _ => trivial⟩⟩

@[simp] theorem ensures_updateOr {post : Unit → Dict K R → Dict K R → Prop} {e : E} {key : K}
    {change : R → R} : Ensures C post (Prog.updateOr e key change : Prog K R E Unit) d w ↔
      ∀ row, w.get? key = some row → post () d (w.set key (change row)) :=
  ⟨fun h row hrow => (h.2 row hrow).1 rfl,
    fun h => ⟨fun _ => trivial, fun row hrow => ⟨fun _ => h row hrow, fun hg => (nomatch hg)⟩⟩⟩

end Statements

/-! ### Runs -/

section Run

variable {post : A → Dict K R → Dict K R → Prop} {p : Prog K R E A} {d w : Dict K R}

theorem Ensures.exec (h : Ensures C post p d w) (ids : ℕ → ℕ) :
    Relation.ReflTransGen C d (p.exec ⟨d, w, ids⟩).2.committed ∧
    ∀ a, (p.exec ⟨d, w, ids⟩).1 = .ok a →
      post a (p.exec ⟨d, w, ids⟩).2.committed (p.exec ⟨d, w, ids⟩).2.working := by
  induction p generalizing d w ids with
  | ret a => exact ⟨.refl, fun a' ha => by cases ha; exact h⟩
  | throw e => exact ⟨.refl, fun a ha => nomatch ha⟩
  | fresh next ih => exact ih _ (h _) _
  | select query next ih => exact ih _ h _
  | update key guard change next ih =>
    cases hget : w.get? key with
    | none =>
      rw [Prog.exec_update_none (s := ⟨d, w, ids⟩) hget]
      exact ih _ (h.1 hget) _
    | some row =>
      rw [Prog.exec_update_some (s := ⟨d, w, ids⟩) hget]
      split
      · rename_i hg
        exact ih _ ((h.2 row hget).1 hg) _
      · rename_i hg
        exact ih _ ((h.2 row hget).2 (Bool.eq_false_iff.2 hg)) _
  | insert key row next ih =>
    cases hget : w.get? key with
    | none =>
      rw [Prog.exec_insert_none (s := ⟨d, w, ids⟩) hget]
      exact ih _ (h.1 hget) _
    | some row' =>
      rw [Prog.exec_insert_some (s := ⟨d, w, ids⟩) hget]
      exact ih _ (h.2 (by rw [hget]; exact Option.some_ne_none _)) _
  | commit next ih =>
    obtain ⟨hC, hok, -⟩ := h
    obtain ⟨hrel, hpost⟩ := ih true hok ids
    exact ⟨.head hC hrel, hpost⟩
  | rollback next ih => exact ih h _

/-- **A call that runs to its end** commits along `C`, and what it returns satisfies `post`. -/
theorem Ensures.run (h : Ensures C post p d d) (ids : ℕ → ℕ) :
    Relation.ReflTransGen C d (p.run ids d).2 ∧
    ∀ a, (p.run ids d).1 = .ok a → ∃ w, post a (p.run ids d).2 w :=
  ⟨(h.exec ids).1, fun a ha => ⟨_, (h.exec ids).2 a ha⟩⟩

/-- The contract of a program that runs alone. -/
def aloneContract (C : Dict K R → Dict K R → Prop) : Contract K R E where
  rely d d' := d' = d
  guar _ := C
  exc _ _ _ := True
  mayFail := True

instance : (aloneContract C : Contract K R E).Preordered where
  refl _ := rfl
  trans _ _ _ h h' := h'.trans h

/-- Statement by statement, the program keeps the contract. -/
theorem Ensures.safe {l : Local K R} (h : Ensures C post p d (overlay d l.pending)) :
    Safe (aloneContract C) (fun _ _ _ => True) p l d := by
  induction p generalizing l d with
  | ret a => exact fun _ _ => trivial
  | throw e => exact fun _ _ => trivial
  | fresh next ih => exact fun n => ih n (h n)
  | select query next ih =>
    rintro d' ⟨rfl, -⟩
    exact ih _ (l := l.see _ _) h
  | update key guard change next ih =>
    rintro d' ⟨rfl, -⟩
    refine ⟨fun hnone => ih _ (l := l.see _ _) (h.1 hnone), fun row hrow =>
      ⟨fun hg => ih _ ?_, fun hg => ih _ (l := l.see _ _) ((h.2 row hrow).2 hg)⟩⟩
    rw [Local.write, overlay_concat]
    exact (h.2 row hrow).1 hg
  | insert key row next ih =>
    rintro d' ⟨rfl, -⟩
    refine ⟨fun hnone => ih _ ?_, fun row' hrow => ih _ (l := l.see _ _) (h.2 ?_)⟩
    · rw [Local.write, overlay_concat]
      exact h.1 hnone
    · rw [hrow]
      exact Option.some_ne_none _
  | commit next ih =>
    rintro d' ⟨rfl, -⟩
    exact ⟨h.1, ih _ (l := l.commit _) h.2.1, fun _ => ih _ (l := l.abort) h.2.2⟩
  | rollback next ih =>
    rintro d' ⟨rfl, -⟩
    exact ih (l := l.rollback) h

/-- **A call that is stopped after any statement**, or whose commit fails, has committed along
`C`. -/
theorem Ensures.crash (h : Ensures C post p d d) {labels : List (Label Unit)}
    {s : State Unit K R E A} (hrun : system.Run (State.start d fun _ => p) labels s) :
    Relation.ReflTransGen C d s.db := by
  have hcompat : Compatible fun _ : Unit => (aloneContract C : Contract K R E) :=
    fun p q hne => absurd (Subsingleton.elim p q) hne
  have hsafe : ∀ _ : Unit, Safe (aloneContract C) (fun (_ : A) _ _ => True) p .start d :=
    fun _ => h.safe (l := .start)
  exact safe_run_relation hcompat (fun _ => trivial) (fun _ => .refl) (fun _ _ _ => .trans)
    (fun _ _ _ => .single) hsafe hrun

end Run

/-! ### The system of one program -/

section System

variable {d : Dict K R}

/-- A statement of the only program. -/
theorem step_alone (p : Proc K R E A) (n : ℕ) :
    system.step (⟨d, fun _ => p⟩ : State Unit K R E A) (.run () n)
      ⟨(p.next d n).1, fun _ => (p.next d n).2⟩ := by
  refine ⟨fun key _ q hq => absurd (Subsingleton.elim q ()) hq, ?_⟩
  simp only [State.update, State.mk.injEq, true_and]
  funext q
  rw [Subsingleton.elim q (), Function.update_self]

/-- **What a program does when it runs alone is a run of the system.** -/
theorem exists_run_exec (p base : Prog K R E A) (l : Local K R) (d : Dict K R) (ids : ℕ → ℕ) :
    ∃ labels s, system.Run (⟨d, fun _ => ⟨p, base, l⟩⟩ : State Unit K R E A) labels s ∧
      s.db = (p.exec ⟨d, overlay d l.pending, ids⟩).2.committed ∧
      (s.procs ()).prog = Prog.ofExcept (p.exec ⟨d, overlay d l.pending, ids⟩).1 := by
  have hcons {d : Dict K R} {proc : Proc K R E A} (n : ℕ) {x : Except E A × Session K R}
      (h : ∃ labels s, system.Run (⟨(proc.next d n).1, fun _ => (proc.next d n).2⟩ :
        State Unit K R E A) labels s ∧ s.db = x.2.committed ∧
          (s.procs ()).prog = Prog.ofExcept x.1) :
      ∃ labels s, system.Run (⟨d, fun _ => proc⟩ : State Unit K R E A) labels s ∧
        s.db = x.2.committed ∧ (s.procs ()).prog = Prog.ofExcept x.1 := by
    obtain ⟨labels, s, hrun, h⟩ := h
    exact ⟨_, s, .cons (step_alone proc n) hrun, h⟩
  induction p generalizing base l d ids with
  | ret a => exact ⟨[], _, .nil _, rfl, rfl⟩
  | throw e => exact ⟨[], _, .nil _, rfl, rfl⟩
  | fresh next ih => exact hcons (ids 0) (ih _ _ _ _ _)
  | select query next ih => exact hcons 0 (ih _ _ (l.see _ _) _ _)
  | update key guard change next ih =>
    refine hcons 0 ?_
    cases hget : (overlay d l.pending).get? key with
    | none =>
      rw [Prog.exec_update_none (s := ⟨d, overlay d l.pending, ids⟩) hget,
        Proc.next_update_none hget]
      exact ih _ _ (l.see _ _) _ _
    | some row =>
      rw [Prog.exec_update_some (s := ⟨d, overlay d l.pending, ids⟩) hget,
        Proc.next_update_some hget]
      split
      · -- what the session works on are the committed rows with the pending writes
        have h := ih true base ((l.see (keyQuery key) [(key, row)]).write key (change row)) d ids
        rwa [Local.write, overlay_concat] at h
      · exact ih _ _ (l.see _ _) _ _
  | insert key row next ih =>
    refine hcons 0 ?_
    cases hget : (overlay d l.pending).get? key with
    | none =>
      rw [Prog.exec_insert_none (s := ⟨d, overlay d l.pending, ids⟩) hget,
        Proc.next_insert_none hget]
      have h := ih true base ((l.see (keyQuery key) []).write key row) d ids
      rwa [Local.write, overlay_concat] at h
    | some row' =>
      rw [Prog.exec_insert_some (s := ⟨d, overlay d l.pending, ids⟩) hget,
        Proc.next_insert_some hget]
      exact ih _ _ (l.see _ _) _ _
  | commit next ih => exact hcons 0 (ih _ _ (l.commit d) _ _)
  | rollback next ih => exact hcons 0 (ih _ l.rollback _ _)

/-- **All reads of a program that runs alone are valid.** -/
theorem valid_alone {p : Prog K R E A} {labels : List (Label Unit)} {s : State Unit K R E A}
    (h : system.Run (State.start d fun _ => p) labels s) :
    ∀ o ∈ (s.procs ()).loc.observed, o.Valid s.db := by
  have hinit : Exclusive (State.start d fun _ : Unit => p) ∧
      (∀ q, Coherent ((State.start d fun _ : Unit => p).procs q)) ∧
      ∀ o ∈ ((State.start d fun _ : Unit => p).procs ()).loc.observed, o.Valid d :=
    ⟨exclusive_start _ _, fun _ => .of_begin rfl rfl, fun o ho => by cases ho⟩
  refine (h.invariant (I := fun s => Exclusive s ∧ (∀ q, Coherent (s.procs q)) ∧
    ∀ o ∈ (s.procs ()).loc.observed, o.Valid s.db) hinit ?_).2.2
  rintro s label s' ⟨hexcl, hcoh, hvalid⟩ hstep
  refine ⟨exclusive_step hexcl hstep, coherent_step hcoh hstep, fun o ho => ?_⟩
  exact valid_step hexcl (hcoh ()) hstep ho (hvalid o)
    fun q hq => absurd (Subsingleton.elim q ()) hq

end System

end Txn

end OmsWmsTms
