import OmsWmsTms.Txn.Program

/-!
# When a call returns

A program that runs alone returns or raises.  Statement by statement, the conditions under which it
returns add up to one that decides which of the two it does.

* `Decides P p φ Q` : from a session in `P`, the program returns with `Q` if `φ` holds, and raises
  otherwise.
* `Decides.bind` and the rules after it : composed programs, loops and statements.
* `Decides.returns_iff` : a call on a database.
-/

namespace OmsWmsTms

namespace Txn

variable {K R E A B : Type} [DecidableEq K]

/-- From a session in `P`, the program returns with `Q` if `φ` holds, and raises otherwise. -/
def Decides (P : Session K R → Prop) (p : Prog K R E A) (φ : Prop)
    (Q : A → Session K R → Prop) : Prop :=
  ∀ s, P s → (φ → ∃ a s', p.exec s = (.ok a, s') ∧ Q a s') ∧
    (¬ φ → ∃ e s', p.exec s = (.error e, s'))

namespace Decides

variable {P P' : Session K R → Prop} {φ ψ : Prop} {Q Q' : A → Session K R → Prop}
  {p : Prog K R E A}

/-- **The rule of consequence**; the condition may be rephrased with the precondition. -/
theorem conseq (h : Decides P p φ Q) (hP : ∀ s, P' s → P s) (hφ : ∀ s, P' s → (φ ↔ ψ))
    (hQ : ∀ a s, Q a s → Q' a s) : Decides P' p ψ Q' := by
  intro s hs
  obtain ⟨hok, herror⟩ := h s (hP s hs)
  rw [← hφ s hs]
  refine ⟨fun hφ => ?_, herror⟩
  obtain ⟨a, s', hexec, hpost⟩ := hok hφ
  exact ⟨a, s', hexec, hQ a s' hpost⟩

/-- A precondition that is not about the session. -/
theorem assume {χ : Prop} (h : χ → Decides P p φ Q) : Decides (fun s => χ ∧ P s) p φ Q :=
  fun s hs => h hs.1 s hs.2

/-- **Programs in sequence.** -/
theorem bind {QB : B → Session K R → Prop} {f : A → Prog K R E B} (h : Decides P p φ Q)
    (hf : ∀ a, Decides (Q a) (f a) ψ QB) : Decides P (p.bind f) (φ ∧ ψ) QB := by
  intro s hs
  obtain ⟨hok, herror⟩ := h s hs
  by_cases hφ : φ
  · obtain ⟨a, s', hexec, hpost⟩ := hok hφ
    rw [Prog.exec_bind_of_ok hexec]
    obtain ⟨hok', herror'⟩ := hf a s' hpost
    exact ⟨fun h => hok' h.2, fun h => herror' fun hψ => h ⟨hφ, hψ⟩⟩
  · obtain ⟨e, s', hexec⟩ := herror hφ
    exact ⟨fun h => absurd h.1 hφ, fun _ => ⟨e, s', Prog.exec_bind_of_error hexec⟩⟩

/-- After a program that returns. -/
theorem bind_true {QB : B → Session K R → Prop} {f : A → Prog K R E B} (h : Decides P p True Q)
    (hf : ∀ a, Decides (Q a) (f a) ψ QB) : Decides P (p.bind f) ψ QB :=
  (h.bind hf).conseq (fun _ hs => hs) (fun _ _ => by rw [true_and]) fun _ _ h => h

/-- **Loops**, with an invariant of the elements that are left. -/
theorem forEach {α : Type} {J : List α → Session K R → Prop} {f : α → Prog K R E Unit}
    {cond : α → Prop} (hf : ∀ a as, Decides (J (a :: as)) (f a) (cond a) fun _ => J as)
    (as : List α) : Decides (J as) (Prog.forEach as f) (∀ a ∈ as, cond a) fun _ => J [] := by
  induction as with
  | nil =>
    exact fun s hs => ⟨fun _ => ⟨(), s, rfl, hs⟩, fun h => absurd (fun _ ha => by cases ha) h⟩
  | cons a as ih =>
    exact ((hf a as).bind fun _ => ih).conseq (fun _ hs => hs)
      (fun _ _ => List.forall_mem_cons.symm) fun _ _ h => h

/-- Loops of programs that return. -/
theorem forEach_true {α : Type} {J : List α → Session K R → Prop} {f : α → Prog K R E Unit}
    (hf : ∀ a as, Decides (J (a :: as)) (f a) True fun _ => J as) (as : List α) :
    Decides (J as) (Prog.forEach as f) True fun _ => J [] := by
  have hall : Decides (J as) (Prog.forEach as f) (∀ a ∈ as, True) fun _ => J [] := forEach hf as
  exact hall.conseq (fun _ hs => hs) (fun _ _ => iff_of_true (fun _ _ => trivial) trivial)
    fun _ _ h => h

/-- Loops that pass a value along. -/
theorem foldEach {α σ : Type} {J : List α → σ → Session K R → Prop} {f : σ → α → Prog K R E σ}
    {cond : α → Prop} (hf : ∀ a as v, Decides (J (a :: as) v) (f v a) (cond a) (J as))
    (as : List α) (v : σ) :
    Decides (J as v) (Prog.foldEach as v f) (∀ a ∈ as, cond a) (J []) := by
  induction as generalizing v with
  | nil =>
    exact fun s hs => ⟨fun _ => ⟨v, s, rfl, hs⟩, fun h => absurd (fun _ ha => by cases ha) h⟩
  | cons a as ih =>
    exact ((hf a as v).bind fun v' => ih v').conseq (fun _ hs => hs)
      (fun _ _ => List.forall_mem_cons.symm) fun _ _ h => h

/-! ### Statements -/

theorem ret {a : A} (h : ∀ s, P s → Q a s) : Decides P (.ret a : Prog K R E A) True Q :=
  fun s hs => ⟨fun _ => ⟨a, s, rfl, h s hs⟩, fun h => absurd trivial h⟩

theorem throw {e : E} : Decides P (.throw e : Prog K R E A) False Q :=
  fun s _ => ⟨False.elim, fun _ => ⟨e, s, rfl⟩⟩

theorem query {q : Query K R} {Q : List (K × R) → Session K R → Prop}
    (h : ∀ s, P s → Q (select q s.working) s) :
    Decides P (Prog.query q : Prog K R E _) True Q :=
  fun s hs => ⟨fun _ => ⟨_, s, rfl, h s hs⟩, fun h => absurd trivial h⟩

theorem newId {Q : ℕ → Session K R → Prop}
    (h : ∀ s, P s → Q (s.ids 0) { s with ids := fun n => s.ids (n + 1) }) :
    Decides P (Prog.newId : Prog K R E ℕ) True Q :=
  fun s hs => ⟨fun _ => ⟨_, _, rfl, h s hs⟩, fun h => absurd trivial h⟩

theorem ofExcept {x : Except E A} (h : ∀ a, x = .ok a → ∀ s, P s → Q a s) :
    Decides P (Prog.ofExcept x) (∃ a, x = .ok a) Q := by
  intro s hs
  cases x with
  | ok a => exact ⟨fun _ => ⟨a, s, rfl, h a rfl s hs⟩, fun hnot => absurd ⟨a, rfl⟩ hnot⟩
  | error e =>
    refine ⟨fun hok => ?_, fun _ => ⟨e, s, rfl⟩⟩
    obtain ⟨a, ha⟩ := hok
    cases ha

theorem insertOr {e : E} {key : K} {row : R} {Q : Unit → Session K R → Prop}
    (hφ : ∀ s, P s → (φ ↔ s.working.get? key = none))
    (h : ∀ s, P s → s.working.get? key = none →
      Q () { s with working := s.working.set key row }) :
    Decides P (Prog.insertOr e key row) φ Q := by
  intro s hs
  rw [hφ s hs]
  refine ⟨fun hnone => ⟨(), _, Prog.exec_insertOr_none hnone, h s hs hnone⟩, fun hsome => ?_⟩
  obtain ⟨row', hget⟩ := Option.ne_none_iff_exists'.1 hsome
  exact ⟨e, s, Prog.exec_insertOr_some hget⟩

theorem updateOr {e : E} {key : K} {change : R → R} {Q : Unit → Session K R → Prop}
    (h : ∀ s, P s → ∃ row, s.working.get? key = some row ∧
      Q () { s with working := s.working.set key (change row) }) :
    Decides P (Prog.updateOr e key change) True Q := by
  intro s hs
  obtain ⟨row, hget, hpost⟩ := h s hs
  exact ⟨fun _ => ⟨(), _, Prog.exec_updateOr hget, hpost⟩, fun h => absurd trivial h⟩

theorem commitOr {e : E} {Q : Unit → Session K R → Prop}
    (h : ∀ s, P s → Q () { s with committed := s.working }) :
    Decides P (Prog.commitOr e : Prog K R E Unit) True Q :=
  fun s hs => ⟨fun _ => ⟨(), _, rfl, h s hs⟩, fun h => absurd trivial h⟩

/-- **A call on a database.** -/
theorem run {d : Dict K R} {ids : ℕ → ℕ} (h : Decides P p φ Q) (hP : P ⟨d, d, ids⟩) :
    (φ → ∃ a s, p.run ids d = (.ok a, s.committed) ∧ Q a s) ∧
      (¬ φ → ∃ e d', p.run ids d = (.error e, d')) := by
  obtain ⟨hok, herror⟩ := h ⟨d, d, ids⟩ hP
  refine ⟨fun hφ => ?_, fun hφ => ?_⟩
  · obtain ⟨a, s', hexec, hpost⟩ := hok hφ
    exact ⟨a, s', by rw [Prog.run, hexec], hpost⟩
  · obtain ⟨e, s', hexec⟩ := herror hφ
    exact ⟨e, s'.committed, by rw [Prog.run, hexec]⟩

/-- **A call on a database returns exactly when the condition holds.** -/
theorem returns_iff {d : Dict K R} {ids : ℕ → ℕ} (h : Decides P p φ Q) (hP : P ⟨d, d, ids⟩) :
    (∃ a d', p.run ids d = (.ok a, d')) ↔ φ := by
  obtain ⟨hok, herror⟩ := h.run hP
  constructor
  · rintro ⟨a, d', hrun⟩
    by_contra hnot
    obtain ⟨e, d'', hrun'⟩ := herror hnot
    rw [hrun] at hrun'
    cases hrun'
  · intro hφ
    obtain ⟨a, s', hrun, -⟩ := hok hφ
    exact ⟨a, s'.committed, hrun⟩

end Decides

end Txn

end OmsWmsTms
