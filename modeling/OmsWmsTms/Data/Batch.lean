import Mathlib.Data.List.Basic
import Mathlib.Data.Nat.Notation

/-!
# Batches

A batch is worked through item by item; an item that fails is put on a list, and the next one is
taken.

* `Batch.loop` : the loop and its report.
* `Batch.atomic` : an item in a transaction of its own, which changes the store or fails.
* `Batch.Isolated` : what a batch leaves and reports is what it would if every item were in a
  transaction of its own.
* `Batch.exists_kept` : then the store is the one that the items leave which do not fail.
-/

namespace OmsWmsTms

namespace Batch

variable {α σ D E X : Type}

/-- What is reported: the number of successes, and the errors under the numbers of their items. -/
structure Report (E : Type) where
  success : ℕ := 0
  errors : List (ℕ × E) := []
deriving DecidableEq

namespace Report

/-- A report with one more item in front. -/
def cons (number : ℕ) (answer : Except E Unit) (report : Report E) : Report E :=
  match answer with
  | .ok () => { report with success := report.success + 1 }
  | .error e => { report with errors := (number, e) :: report.errors }

/-- The numbers of the items that have failed. -/
def failed (report : Report E) : List ℕ := report.errors.map Prod.fst

variable (number : ℕ) (report : Report E)

@[simp] theorem success_cons_ok :
    (report.cons number (.ok ())).success = report.success + 1 := rfl

@[simp] theorem failed_cons_ok : (report.cons number (.ok ())).failed = report.failed := rfl

@[simp] theorem success_cons_error (e : E) :
    (report.cons number (.error e)).success = report.success := rfl

@[simp] theorem failed_cons_error (e : E) :
    (report.cons number (.error e)).failed = number :: report.failed := rfl

end Report

/-- **The loop**: `step` works on the item with a number, and the numbers go up from the first
one. -/
def loop (step : ℕ → α → σ → Except E Unit × σ) : ℕ → List α → σ → Report E × σ
  | _, [], s => ({}, s)
  | number, a :: l, s =>
    let (answer, s) := step number a s
    let (report, s) := loop step (number + 1) l s
    (report.cons number answer, s)

/-- An item that changes the store or fails. -/
def atomic (alone : ℕ → α → D → Except E D) (number : ℕ) (a : α) (d : D) : Except E Unit × D :=
  match alone number a d with
  | .ok d' => (.ok (), d')
  | .error e => (.error e, d)

section Loop

variable {step : ℕ → α → σ → Except E Unit × σ} {number : ℕ} {a : α} {l : List α} {s s' : σ}
  {e : E}

theorem loop_cons_ok (h : step number a s = (.ok (), s')) :
    loop step number (a :: l) s =
      ((loop step (number + 1) l s').1.cons number (.ok ()), (loop step (number + 1) l s').2) := by
  rw [loop, h]

theorem loop_cons_error (h : step number a s = (.error e, s')) :
    loop step number (a :: l) s =
      ((loop step (number + 1) l s').1.cons number (.error e),
        (loop step (number + 1) l s').2) := by
  rw [loop, h]

/-- **Every item is counted.** -/
theorem success_add_length (step : ℕ → α → σ → Except E Unit × σ) (number : ℕ) (l : List α)
    (s : σ) : (loop step number l s).1.success + (loop step number l s).1.failed.length =
      l.length := by
  induction l generalizing number s with
  | nil => rfl
  | cons a l ih =>
    have hrest (s' : σ) := ih (number + 1) s'
    rcases hstep : step number a s with ⟨e | ⟨⟩, s'⟩
    · rw [loop_cons_error hstep, Report.success_cons_error, Report.failed_cons_error,
        List.length_cons, List.length_cons, ← hrest s', Nat.add_assoc]
    · rw [loop_cons_ok hstep, Report.success_cons_ok, Report.failed_cons_ok, List.length_cons,
        ← hrest s', Nat.add_right_comm]

/-- An invariant of the states. -/
theorem loop_invariant {P : σ → Prop} (hstep : ∀ number a s, P s → P (step number a s).2)
    (number : ℕ) (l : List α) (hs : P s) : P (loop step number l s).2 := by
  induction l generalizing number s with
  | nil => exact hs
  | cons a l ih => exact ih (number + 1) (hstep number a s hs)

/-- A state in which every item fails. -/
theorem failed_of_stuck {P : σ → Prop} (hstep : ∀ number a s, P s →
    ∃ e s', step number a s = (.error e, s') ∧ P s') (number : ℕ) (l : List α) (hs : P s) :
    (loop step number l s).1.failed = List.range' number l.length := by
  induction l generalizing number s with
  | nil => rfl
  | cons a l ih =>
    obtain ⟨e, s', hnext, hs'⟩ := hstep number a s hs
    rw [loop_cons_error hnext, Report.failed_cons_error, ih (number + 1) hs', List.length_cons,
      List.range'_succ]

/-- The numbers that are reported are those of items of the batch. -/
theorem mem_failed_le (step : ℕ → α → σ → Except E Unit × σ) {number m : ℕ} {l : List α} {s : σ}
    (h : m ∈ (loop step number l s).1.failed) : number ≤ m := by
  induction l generalizing number s with
  | nil => cases h
  | cons a l ih =>
    rcases hstep : step number a s with ⟨e | ⟨⟩, s'⟩
    · rw [loop_cons_error hstep, Report.failed_cons_error] at h
      rcases List.mem_cons.1 h with rfl | h
      · exact Nat.le_refl _
      · exact Nat.le_of_succ_le (ih h)
    · rw [loop_cons_ok hstep, Report.failed_cons_ok] at h
      exact Nat.le_of_succ_le (ih h)

end Loop

/-! ### Isolation -/

variable (alone : ℕ → α → D → Except E D)

/-- The items that fail, each in a transaction of its own. -/
def failing (number : ℕ) (l : List α) (d : D) : List ℕ := (loop (atomic alone) number l d).1.failed

/-- The store that the items leave, each in a transaction of its own. -/
def after (number : ℕ) (l : List α) (d : D) : D := (loop (atomic alone) number l d).2

/-- **The items are isolated**: all of them are counted, those are reported to fail which fail on
their own, and the store is what the others leave. -/
def Isolated (number : ℕ) (l : List α) (d : D) (answer : Except X (Report E) × D) : Prop :=
  ∃ report, answer.1 = .ok report ∧
    report.success + report.failed.length = l.length ∧
    report.failed = failing alone number l d ∧
    answer.2 = after alone number l d

section Isolated

variable {alone} {number : ℕ} {a : α} {l : List α} {d d' : D} {e : E}

@[simp] theorem failing_nil (number : ℕ) (d : D) : failing alone number [] d = [] := rfl

@[simp] theorem after_nil (number : ℕ) (d : D) : after alone number [] d = d := rfl

theorem atomic_ok (h : alone number a d = .ok d') : atomic alone number a d = (.ok (), d') := by
  rw [atomic, h]

theorem atomic_error (h : alone number a d = .error e) :
    atomic alone number a d = (.error e, d) := by
  rw [atomic, h]

theorem failing_cons_ok (h : alone number a d = .ok d') :
    failing alone number (a :: l) d = failing alone (number + 1) l d' := by
  rw [failing, loop_cons_ok (atomic_ok h)]
  rfl

theorem after_cons_ok (h : alone number a d = .ok d') :
    after alone number (a :: l) d = after alone (number + 1) l d' := by
  rw [after, loop_cons_ok (atomic_ok h)]
  rfl

theorem failing_cons_error (h : alone number a d = .error e) :
    failing alone number (a :: l) d = number :: failing alone (number + 1) l d := by
  rw [failing, loop_cons_error (atomic_error h)]
  rfl

theorem after_cons_error (h : alone number a d = .error e) :
    after alone number (a :: l) d = after alone (number + 1) l d := by
  rw [after, loop_cons_error (atomic_error h)]
  rfl

/-- All items fail. -/
theorem failing_eq_range'_iff : failing alone number l d = List.range' number l.length ↔
    ∀ item ∈ l.zipIdx number, ∃ e, alone item.2 item.1 d = .error e := by
  induction l generalizing number with
  | nil => simp
  | cons a l ih =>
    rw [List.zipIdx_cons, List.forall_mem_cons, List.length_cons, List.range'_succ]
    cases halone : alone number a d with
    | error e => simp [failing_cons_error halone, ih]
    | ok d' =>
      -- the number of the first item is not reported
      rw [failing_cons_ok halone]
      refine iff_of_false (fun h => ?_) fun h => by simp at h
      have hmem : number ∈ failing alone (number + 1) l d' := h ▸ List.mem_cons_self
      exact absurd (mem_failed_le _ hmem) (Nat.not_succ_le_self _)

/-- Then the store is what it was. -/
theorem after_of_forall_error
    (h : ∀ item ∈ l.zipIdx number, ∃ e, alone item.2 item.1 d = .error e) :
    after alone number l d = d := by
  induction l generalizing number with
  | nil => rfl
  | cons a l ih =>
    rw [List.zipIdx_cons, List.forall_mem_cons] at h
    obtain ⟨⟨e, he⟩, hrest⟩ := h
    rw [after_cons_error he, ih hrest]

end Isolated

/-- **The store is the one that the other items leave**, if those that fail are left out: none of
the others fails then. -/
theorem exists_kept (number : ℕ) (l : List α) (d : D) :
    ∃ kept : List (ℕ × α), kept.Sublist ((List.range' number l.length).zip l) ∧
      (∀ item ∈ kept, item.1 ∉ failing alone number l d) ∧
      kept.length + (failing alone number l d).length = l.length ∧
      kept.foldlM (fun d item => alone item.1 item.2 d) d = .ok (after alone number l d) := by
  induction l generalizing number d with
  | nil => exact ⟨[], .refl _, List.forall_mem_nil _, rfl, rfl⟩
  | cons a l ih =>
    rw [List.length_cons, List.range'_succ, List.zip_cons_cons]
    cases halone : alone number a d with
    | ok d' =>
      obtain ⟨kept, hsub, hnot, hlength, hfold⟩ := ih (number + 1) d'
      rw [failing_cons_ok halone, after_cons_ok halone]
      refine ⟨(number, a) :: kept, hsub.cons_cons _, fun item hitem => ?_, ?_, ?_⟩
      · rcases List.mem_cons.1 hitem with rfl | hitem
        · exact fun hmem => absurd (mem_failed_le _ hmem) (Nat.not_succ_le_self _)
        · exact hnot item hitem
      · rw [List.length_cons]
        omega
      · rw [List.foldlM_cons, halone]
        exact hfold
    | error e =>
      obtain ⟨kept, hsub, hnot, hlength, hfold⟩ := ih (number + 1) d
      rw [failing_cons_error halone, after_cons_error halone]
      refine ⟨kept, hsub.cons _, fun item hitem hmem => ?_, ?_, hfold⟩
      · rcases List.mem_cons.1 hmem with hfirst | hmem
        · -- the numbers of the other items are larger
          have hzip := List.of_mem_zip (hsub.subset hitem)
          rw [hfirst, List.mem_range'_1] at hzip
          omega
        · exact hnot item hitem hmem
      · rw [List.length_cons]
        omega

end Batch

end OmsWmsTms
