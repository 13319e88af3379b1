import Mathlib.Logic.Basic
import Mathlib.Data.Nat.Init
import Mathlib.Data.Option.Basic

/-!
# Unbounded loops

A `while` loop is given by its round: from a state, the round either continues in a new state or
leaves the loop with a result.  `Loop.run round fuel` makes at most `fuel` rounds; `none` says that
they were not enough.

* `Loop.run_rule` : the invariant rule, for the result of a loop that is left.
* `Loop.run_total` : the variant rule, which bounds the rounds of the loop.
* `Loop.run_mono`, `Loop.run_det` : the result does not depend on the number of rounds allowed.
-/

namespace OmsWmsTms

namespace Loop

variable {σ β : Type*}

/-- At most `fuel` rounds of a loop. -/
def run (round : σ → σ ⊕ β) : ℕ → σ → Option β
  | 0, _ => none
  | fuel + 1, s =>
    match round s with
    | .inl s' => run round fuel s'
    | .inr b => some b

variable {round : σ → σ ⊕ β}

/-- **The invariant rule.** -/
theorem run_rule {I : σ → Prop} {Q : β → Prop} (hnext : ∀ s s', I s → round s = .inl s' → I s')
    (hexit : ∀ s b, I s → round s = .inr b → Q b) {fuel : ℕ} {s : σ} {b : β} (hs : I s)
    (h : run round fuel s = some b) : Q b := by
  induction fuel generalizing s with
  | zero => cases h
  | succ fuel ih =>
    unfold run at h
    split at h
    · exact ih (hnext _ _ hs ‹_›) h
    · cases h
      exact hexit _ _ hs ‹_›

/-- **The variant rule.**  `I n s` says that at most `n` units of work are left in the state `s`;
a loop of which every round does some work is left. -/
theorem run_total {I : ℕ → σ → Prop}
    (hnext : ∀ n s s', I n s → round s = .inl s' → ∃ n' < n, I n' s') {n fuel : ℕ} {s : σ}
    (hs : I n s) (hfuel : n < fuel) : ∃ b, run round fuel s = some b := by
  induction fuel generalizing n s with
  | zero => omega
  | succ fuel ih =>
    unfold run
    split
    · rename_i s' heq
      obtain ⟨n', hlt, hs'⟩ := hnext _ _ _ hs heq
      exact ih hs' (by omega)
    · exact ⟨_, rfl⟩

theorem run_mono {fuel fuel' : ℕ} (hle : fuel ≤ fuel') {s : σ} {b : β}
    (h : run round fuel s = some b) : run round fuel' s = some b := by
  induction fuel generalizing fuel' s with
  | zero => cases h
  | succ fuel ih =>
    cases fuel' with
    | zero => omega
    | succ fuel' =>
      unfold run at h ⊢
      split at h
      · exact ih (by omega) h
      · exact h

theorem run_det {fuel fuel' : ℕ} {s : σ} {b b' : β} (h : run round fuel s = some b)
    (h' : run round fuel' s = some b') : b = b' := by
  have h₁ := run_mono (Nat.le_max_left fuel fuel') h
  have h₂ := run_mono (Nat.le_max_right fuel fuel') h'
  rw [h₁] at h₂
  exact Option.some.inj h₂

end Loop

end OmsWmsTms
