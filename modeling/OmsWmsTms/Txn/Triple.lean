import OmsWmsTms.Txn.Writes

/-!
# Triples for programs that run alone

Pre- and postconditions over the whole session: the committed rows, the rows that the transaction
sees, and the identifiers that are still to be made.  An exception loses the writes of the open
transaction, so all that is asked of it is an invariant of the committed rows.

* `Triple I P p Q` : from a session in `P`, the program returns in `Q` or raises, with the committed
  rows in `I`.
* `Triple.bind` and the rules after it : composed programs, loops and statements.
* `Triple.run`, `Triple.run_ok` : a call on a database.
-/

namespace OmsWmsTms

namespace Txn

variable {K R E A B : Type} [DecidableEq K]

/-- From a session in `P`, the program returns in `Q` or raises; the committed rows stay in `I`. -/
def Triple (I : Dict K R → Prop) (P : Session K R → Prop) (p : Prog K R E A)
    (Q : A → Session K R → Prop) : Prop :=
  ∀ s, I s.committed → P s →
    I (p.exec s).2.committed ∧ ∀ a, (p.exec s).1 = .ok a → Q a (p.exec s).2

namespace Triple

variable {I : Dict K R → Prop} {P P' : Session K R → Prop} {Q Q' : A → Session K R → Prop}
  {p : Prog K R E A}

/-- **The rule of consequence.** -/
theorem conseq (h : Triple I P p Q) (hP : ∀ s, P' s → P s) (hQ : ∀ a s, Q a s → Q' a s) :
    Triple I P' p Q' :=
  fun s hI hs => ⟨(h s hI (hP s hs)).1, fun a ha => hQ a _ ((h s hI (hP s hs)).2 a ha)⟩

/-- A precondition that is not about the session. -/
theorem assume {φ : Prop} (h : φ → Triple I P p Q) : Triple I (fun s => φ ∧ P s) p Q :=
  fun s hI hs => h hs.1 s hI hs.2

/-- A precondition for some value, which the program does not depend on. -/
theorem exists_pre {ι : Sort*} {P : ι → Session K R → Prop} (h : ∀ i, Triple I (P i) p Q) :
    Triple I (fun s => ∃ i, P i s) p Q := by
  rintro s hI ⟨i, hs⟩
  exact h i s hI hs

/-- **Programs in sequence.** -/
theorem bind {QB : B → Session K R → Prop} {f : A → Prog K R E B} (h : Triple I P p Q)
    (hf : ∀ a, Triple I (Q a) (f a) QB) : Triple I P (p.bind f) QB := by
  intro s hI hs
  obtain ⟨hcommitted, hpost⟩ := h s hI hs
  rw [Prog.exec_bind]
  cases hexec : p.exec s with
  | mk answer s' =>
    rw [hexec] at hcommitted hpost
    cases answer with
    | error e => exact ⟨hcommitted, fun b hb => nomatch hb⟩
    | ok a => exact hf a s' hcommitted (hpost a rfl)

/-- A program with another value. -/
theorem map {QB : B → Session K R → Prop} {f : A → B} (h : Triple I P p Q)
    (hQ : ∀ a s, Q a s → QB (f a) s) : Triple I P (p.map f) QB :=
  h.bind fun a s hI hs => ⟨hI, fun b hb => by cases hb; exact hQ a s hs⟩

/-- **Loops**: an invariant of the elements that are left and of the value passed along. -/
theorem foldEach {α σ : Type} {f : σ → α → Prog K R E σ} {J : List α → σ → Session K R → Prop}
    (hstep : ∀ a as v, Triple I (J (a :: as) v) (f v a) (J as)) (as : List α) (v : σ) :
    Triple I (J as v) (Prog.foldEach as v f) (J []) := by
  induction as generalizing v with
  | nil => exact fun s hI hs => ⟨hI, fun v' hv => by cases hv; exact hs⟩
  | cons a as ih => exact (hstep a as v).bind fun v' => ih v'

/-- Loops without a value. -/
theorem forEach {α : Type} {f : α → Prog K R E Unit} {J : List α → Session K R → Prop}
    (hstep : ∀ a as, Triple I (J (a :: as)) (f a) fun _ => J as) (as : List α) :
    Triple I (J as) (Prog.forEach as f) fun _ => J [] := by
  induction as with
  | nil => exact fun s hI hs => ⟨hI, fun _ _ => hs⟩
  | cons a as ih => exact (hstep a as).bind fun _ => ih

/-! ### Statements -/

theorem ret {a : A} (h : ∀ s, P s → Q a s) : Triple I P (.ret a : Prog K R E A) Q :=
  fun s hI hs => ⟨hI, fun b hb => by cases hb; exact h s hs⟩

theorem throw {e : E} : Triple I P (.throw e : Prog K R E A) Q :=
  fun _ hI _ => ⟨hI, fun _ h => nomatch h⟩

theorem query {q : Query K R} {Q : List (K × R) → Session K R → Prop}
    (h : ∀ s, P s → Q (select q s.working) s) : Triple I P (Prog.query q : Prog K R E _) Q :=
  fun s hI hs => ⟨hI, fun a ha => by cases ha; exact h s hs⟩

theorem newId {Q : ℕ → Session K R → Prop}
    (h : ∀ s, P s → Q (s.ids 0) { s with ids := fun n => s.ids (n + 1) }) :
    Triple I P (Prog.newId : Prog K R E ℕ) Q :=
  fun s hI hs => ⟨hI, fun a ha => by cases ha; exact h s hs⟩

theorem ofExcept {x : Except E A} (h : ∀ a, x = .ok a → ∀ s, P s → Q a s) :
    Triple I P (Prog.ofExcept x) Q := by
  cases x with
  | error e => exact throw
  | ok a => exact ret (h a rfl)

theorem insertOr {e : E} {key : K} {row : R} {Q : Unit → Session K R → Prop}
    (h : ∀ s, P s → s.working.get? key = none →
      Q () { s with working := s.working.set key row }) :
    Triple I P (Prog.insertOr e key row) Q := by
  intro s hI hs
  cases hget : s.working.get? key with
  | none =>
    rw [Prog.exec_insertOr_none hget]
    exact ⟨hI, fun _ _ => h s hs hget⟩
  | some row' =>
    rw [Prog.exec_insertOr_some hget]
    exact ⟨hI, fun _ ha => nomatch ha⟩

theorem updateOr {e : E} {key : K} {change : R → R} {Q : Unit → Session K R → Prop}
    (h : ∀ s row, P s → s.working.get? key = some row →
      Q () { s with working := s.working.set key (change row) }) :
    Triple I P (Prog.updateOr e key change) Q := by
  intro s hI hs
  cases hget : s.working.get? key with
  | none =>
    rw [Prog.updateOr, Prog.exec_update_none hget]
    exact ⟨hI, fun _ ha => by cases ha⟩
  | some row =>
    rw [Prog.exec_updateOr hget]
    exact ⟨hI, fun _ _ => h s row hs hget⟩

theorem commitOr {e : E} {Q : Unit → Session K R → Prop}
    (h : ∀ s, P s → I s.working ∧ Q () { s with committed := s.working }) :
    Triple I P (Prog.commitOr e : Prog K R E Unit) Q :=
  fun s _ hs => ⟨(h s hs).1, fun _ _ => (h s hs).2⟩

/-- **Programs that do not end their transaction** keep what their writes preserve. -/
theorem writes {ok : K → Option R → R → Prop} (hp : Writes False ok p) {J : Dict K R → Prop}
    (hJ : ∀ w key row, J w → ok key (w.get? key) row → J (w.set key row)) :
    Triple I (fun s => J s.working) p fun _ s => J s.working := by
  induction p with
  | ret a => exact ret fun _ h => h
  | throw e => exact throw
  | fresh next ih => exact newId (fun _ h => h) |>.bind fun n => ih n (hp n)
  | select q next ih => exact query (fun _ h => h) |>.bind fun rows => ih rows (hp rows)
  | update key guard change next ih =>
    intro s hI hs
    cases hget : s.working.get? key with
    | none =>
      rw [Prog.exec_update_none hget]
      exact ih false (hp.2 false) s hI hs
    | some row =>
      rw [Prog.exec_update_some hget]
      split_ifs with hg
      · refine ih true (hp.2 true) _ hI (hJ _ _ _ hs ?_)
        rw [hget]
        exact hp.1 row hg
      · exact ih false (hp.2 false) s hI hs
  | insert key row next ih =>
    intro s hI hs
    cases hget : s.working.get? key with
    | none =>
      rw [Prog.exec_insert_none hget]
      refine ih true (hp.2 true) _ hI (hJ _ _ _ hs ?_)
      rw [hget]
      exact hp.1
    | some row' =>
      rw [Prog.exec_insert_some hget]
      exact ih false (hp.2 false) s hI hs
  | commit next => exact hp.1.elim
  | rollback next => exact hp.1.elim

/-- **A call on a database** keeps the invariant. -/
theorem run {d : Dict K R} {ids : ℕ → ℕ} (h : Triple I P p Q) (hd : I d) (hP : P ⟨d, d, ids⟩) :
    I (p.run ids d).2 :=
  (h ⟨d, d, ids⟩ hd hP).1

/-- What holds when a call returns. -/
theorem run_ok {d d' : Dict K R} {ids : ℕ → ℕ} {a : A} (h : Triple I P p Q) (hd : I d)
    (hP : P ⟨d, d, ids⟩) (hrun : p.run ids d = (.ok a, d')) : ∃ s, s.committed = d' ∧ Q a s := by
  have hexec : (p.exec ⟨d, d, ids⟩).1 = .ok a := congrArg Prod.fst hrun
  have hcommitted : (p.exec ⟨d, d, ids⟩).2.committed = d' := congrArg Prod.snd hrun
  exact ⟨_, hcommitted, (h ⟨d, d, ids⟩ hd hP).2 a hexec⟩

end Triple

end Txn

end OmsWmsTms
