import OmsWmsTms.Txn.Decides
import OmsWmsTms.Txn.ThrowsOnly

/-!
# Which exception a call ends with

A program that runs alone returns, or raises an exception of one of two sorts.

* `Sorts X P p φ ψ Q` : from a session in `P`, the program returns with `Q` if `φ` holds, and raises
  otherwise: an exception in `X` if `ψ` holds, and one outside if not.
* `Sorts.bind` and the rules after it : composed programs and loops.
-/

namespace OmsWmsTms

namespace Txn

variable {K R E E' A B : Type}

variable [DecidableEq K]

/-- From a session in `P`, the program returns with `Q` if `φ` holds; otherwise it raises, an
exception in `X` exactly if `ψ` holds. -/
def Sorts (X : E → Prop) (P : Session K R → Prop) (p : Prog K R E A) (φ ψ : Prop)
    (Q : A → Session K R → Prop) : Prop :=
  ∀ s, P s → (φ → ∃ a s', p.exec s = (.ok a, s') ∧ Q a s') ∧
    (¬ φ → ∃ e s', p.exec s = (.error e, s') ∧ (X e ↔ ψ))

/-- The first element that a condition does not hold of is in `stop`. -/
def StopsAt {α : Type} (cond stop : α → Prop) (l : List α) : Prop :=
  ∃ before a after, l = before ++ a :: after ∧ (∀ b ∈ before, cond b) ∧ ¬ cond a ∧ stop a

theorem stopsAt_cons {α : Type} {cond stop : α → Prop} {a : α} {l : List α} :
    StopsAt cond stop (a :: l) ↔ ¬ cond a ∧ stop a ∨ cond a ∧ StopsAt cond stop l := by
  constructor
  · rintro ⟨before, b, after, heq, hbefore, hb⟩
    cases before with
    | nil =>
      obtain ⟨rfl, -⟩ := List.cons.inj heq
      exact .inl hb
    | cons c before =>
      obtain ⟨rfl, rfl⟩ := List.cons.inj heq
      obtain ⟨hc, hbefore⟩ := List.forall_mem_cons.1 hbefore
      exact .inr ⟨hc, before, b, after, rfl, hbefore, hb⟩
  · rintro (ha | ⟨ha, before, b, after, rfl, hbefore, hb⟩)
    · exact ⟨[], a, l, rfl, List.forall_mem_nil _, ha⟩
    · exact ⟨a :: before, b, after, rfl, List.forall_mem_cons.2 ⟨ha, hbefore⟩, hb⟩

theorem StopsAt.not_forall {α : Type} {cond stop : α → Prop} {l : List α}
    (h : StopsAt cond stop l) : ¬ ∀ a ∈ l, cond a := by
  obtain ⟨before, a, after, rfl, -, ha, -⟩ := h
  exact fun hall => ha (hall a (List.mem_append_right _ List.mem_cons_self))

namespace Sorts

variable {X : E → Prop} {P P' : Session K R → Prop} {φ φ' ψ ψ' : Prop}
  {Q Q' : A → Session K R → Prop} {p : Prog K R E A}

/-- **The rule of consequence**; the conditions may be rephrased with the precondition. -/
theorem conseq (h : Sorts X P p φ ψ Q) (hP : ∀ s, P' s → P s) (hφ : ∀ s, P' s → (φ ↔ φ'))
    (hψ : ∀ s, P' s → ¬ φ → (ψ ↔ ψ')) (hQ : ∀ a s, Q a s → Q' a s) : Sorts X P' p φ' ψ' Q' := by
  intro s hs
  obtain ⟨hok, herror⟩ := h s (hP s hs)
  rw [← hφ s hs]
  refine ⟨fun hφ => ?_, fun hφ => ?_⟩
  · obtain ⟨a, s', hexec, hpost⟩ := hok hφ
    exact ⟨a, s', hexec, hQ a s' hpost⟩
  · obtain ⟨e, s', hexec, he⟩ := herror hφ
    exact ⟨e, s', hexec, he.trans (hψ s hs hφ)⟩

/-- A program with one sort of exceptions. -/
theorem of_decides {f : E' → E} {p : Prog K R E' A} (h : Decides P p φ Q)
    (hp : ThrowsOnly (fun e => ¬ X (f e)) p) : Sorts X P (p.mapError f) φ False Q := by
  intro s hs
  obtain ⟨hok, herror⟩ := h s hs
  refine ⟨fun hφ => ?_, fun hφ => ?_⟩
  · obtain ⟨a, s', hexec, hpost⟩ := hok hφ
    exact ⟨a, s', by rw [Prog.exec_mapError, hexec]; rfl, hpost⟩
  · obtain ⟨e, s', hexec⟩ := herror hφ
    refine ⟨f e, s', by rw [Prog.exec_mapError, hexec]; rfl, iff_false_intro ?_⟩
    exact hp.exec s (congrArg Prod.fst hexec)

/-- **Programs in sequence.** -/
theorem bind {QB : B → Session K R → Prop} {f : A → Prog K R E B} (h : Sorts X P p φ ψ Q)
    (hf : ∀ a, Sorts X (Q a) (f a) φ' ψ' QB) :
    Sorts X P (p.bind f) (φ ∧ φ') (¬ φ ∧ ψ ∨ φ ∧ ψ') QB := by
  intro s hs
  obtain ⟨hok, herror⟩ := h s hs
  by_cases hφ : φ
  · obtain ⟨a, s', hexec, hpost⟩ := hok hφ
    obtain ⟨hok', herror'⟩ := hf a s' hpost
    rw [Prog.exec_bind_of_ok hexec]
    refine ⟨fun h => hok' h.2, fun h => ?_⟩
    obtain ⟨e, s'', hexec', he⟩ := herror' fun hφ' => h ⟨hφ, hφ'⟩
    exact ⟨e, s'', hexec', by simpa [hφ] using he⟩
  · obtain ⟨e, s', hexec, he⟩ := herror hφ
    refine ⟨fun h => absurd h.1 hφ, fun _ => ⟨e, s', Prog.exec_bind_of_error hexec, ?_⟩⟩
    simpa [hφ] using he

/-- **Loops**, with an invariant of the elements that are left. -/
theorem forEach {α : Type} {J : List α → Session K R → Prop} {f : α → Prog K R E Unit}
    {cond stop : α → Prop}
    (hf : ∀ a as, Sorts X (J (a :: as)) (f a) (cond a) (stop a) fun _ => J as) (as : List α) :
    Sorts X (J as) (Prog.forEach as f) (∀ a ∈ as, cond a) (StopsAt cond stop as)
      fun _ => J [] := by
  induction as with
  | nil =>
    exact fun s hs => ⟨fun _ => ⟨(), s, rfl, hs⟩, fun h => absurd (List.forall_mem_nil _) h⟩
  | cons a as ih =>
    exact ((hf a as).bind fun _ => ih).conseq (fun _ hs => hs)
      (fun _ _ => List.forall_mem_cons.symm) (fun _ _ _ => stopsAt_cons.symm) fun _ _ h => h

/-- A computation whose exceptions are all of one sort. -/
theorem ofExcept {x : Except E A} (h : ∀ a, x = .ok a → ∀ s, P s → Q a s)
    (he : ∀ e, x = .error e → (X e ↔ ψ)) :
    Sorts X P (Prog.ofExcept x) (∃ a, x = .ok a) ψ Q := by
  intro s hs
  cases x with
  | ok a => exact ⟨fun _ => ⟨a, s, rfl, h a rfl s hs⟩, fun hnot => absurd ⟨a, rfl⟩ hnot⟩
  | error e =>
    refine ⟨fun hok => ?_, fun _ => ⟨e, s, rfl, he e rfl⟩⟩
    obtain ⟨a, ha⟩ := hok
    cases ha

theorem ret {a : A} (h : ∀ s, P s → Q a s) : Sorts X P (.ret a : Prog K R E A) True ψ Q :=
  fun s hs => ⟨fun _ => ⟨a, s, rfl, h s hs⟩, fun h => absurd trivial h⟩

theorem throw {e : E} (he : X e) : Sorts X P (.throw e : Prog K R E A) False True Q :=
  fun s _ => ⟨False.elim, fun _ => ⟨e, s, rfl, iff_true_intro he⟩⟩

end Sorts

end Txn

end OmsWmsTms
