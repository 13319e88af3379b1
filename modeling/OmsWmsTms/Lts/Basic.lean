import Mathlib.Logic.Relation

/-!
# Runs of a labelled transition system

The services of the repository are modelled as systems that take one labelled step after
another: a label is a service call with its arguments, or one statement of one of several
concurrent transactions.  A claim about "every run" is a claim about `Lts.Run`, and a claim
about the runs whose steps all meet a condition is a claim about the runs of `Lts.guard`.

* `Lts.Run s ls s'` : the labels `ls`, in this order, lead from `s` to `s'`.
* `Lts.Run.invariant` : a predicate that holds at the start and is preserved by every step holds
  at the end of every run.
* `Lts.guard C` : the same system, taking only the steps whose state and label satisfy `C`.
* `Lts.restrict R` : the same system, taking only the steps in the relation `R`.
* `Lts.ofNext next` : the system of a step function; `Lts.runNext` : some of its steps.
* `Lts.Run.restrict_iff_guard` : the two agree when the condition decides the relation.
* `Lts.Run.end_iff_guard` : what a condition on the steps says about the end of a run.
-/

namespace OmsWmsTms

/-- A labelled transition system: `step s l s'` says that `l` can lead from `s` to `s'`. -/
structure Lts (S L : Type*) where
  /-- The labelled step relation. -/
  step : S → L → S → Prop

namespace Lts

variable {S L : Type*}

/-- The finite runs of a system, with the labels they perform. -/
inductive Run (A : Lts S L) : S → List L → S → Prop
  | nil (s : S) : Run A s [] s
  | cons {s t u : S} {l : L} {ls : List L} : A.step s l t → Run A t ls u → Run A s (l :: ls) u

/-- The system restricted to the steps that meet a condition on the state before the step and on
its label. -/
def guard (A : Lts S L) (C : S → L → Prop) : Lts S L where
  step s l s' := A.step s l s' ∧ C s l

/-- The system restricted to the steps in a relation. -/
def restrict (A : Lts S L) (R : S → L → S → Prop) : Lts S L where
  step s l s' := A.step s l s' ∧ R s l s'

/-- When a condition on the state before a step decides a relation, the runs whose steps meet the
condition are the runs whose steps are in the relation. -/
theorem restrict_eq_guard {A : Lts S L} {R : S → L → S → Prop} {C : S → L → Prop}
    (h : ∀ s l s', A.step s l s' → (R s l s' ↔ C s l)) : A.restrict R = A.guard C := by
  unfold restrict guard
  congr 1
  funext s l s'
  exact propext (and_congr_right (h s l s'))

namespace Run

variable {A : Lts S L} {s t u : S} {l : L} {ls ls' : List L}

theorem single (h : A.step s l t) : A.Run s [l] t := .cons h (.nil t)

theorem append (h : A.Run s ls t) (h' : A.Run t ls' u) : A.Run s (ls ++ ls') u := by
  induction h with
  | nil => exact h'
  | cons hst _ ih => exact .cons hst (ih h')

theorem snoc (h : A.Run s ls t) (h' : A.step t l u) : A.Run s (ls ++ [l]) u :=
  h.append (single h')

/-- **The invariant rule.** -/
theorem invariant {I : S → Prop} (h : A.Run s ls t) (h₀ : I s)
    (hstep : ∀ s l s', I s → A.step s l s' → I s') : I t := by
  induction h with
  | nil => exact h₀
  | cons hst _ ih => exact ih (hstep _ _ _ h₀ hst)

/-- The invariant rule, with the run that leads to each step. -/
theorem invariant_reach {I : S → Prop} (h : A.Run s ls t) (h₀ : I s)
    (hstep : ∀ ls' s' l s'', A.Run s ls' s' → I s' → A.step s' l s'' → I s'') : I t := by
  refine (h.invariant (I := fun s' => (∃ ls', A.Run s ls' s') ∧ I s') ⟨⟨[], .nil s⟩, h₀⟩ ?_).2
  rintro s' l s'' ⟨⟨ls', hrun⟩, hI⟩ hst
  exact ⟨⟨_, hrun.snoc hst⟩, hstep ls' s' l s'' hrun hI hst⟩

/-- A run of a system whose steps are steps of another one. -/
theorem map {M : Type*} {B : Lts S M} {f : L → M} (h : A.Run s ls t)
    (hstep : ∀ s l s', A.step s l s' → B.step s (f l) s') : B.Run s (ls.map f) t := by
  induction h with
  | nil => exact .nil _
  | cons hst _ ih => exact .cons (hstep _ _ _ hst) ih

/-- The invariant rule with the conclusion drawn about a relation to the initial state. -/
theorem relation {R : S → S → Prop} (h : A.Run s ls t) (hrefl : ∀ s, R s s)
    (htrans : ∀ s t u, R s t → R t u → R s u) (hstep : ∀ s l s', A.step s l s' → R s s') :
    R s t := by
  induction h with
  | nil => exact hrefl _
  | cons hst _ ih => exact htrans _ _ _ (hstep _ _ _ hst) ih

/-- **When a condition decides a relation at every state of an invariant** that the steps which meet
it keep, the runs from such a state whose steps are in the relation are those whose steps meet the
condition. -/
theorem restrict_iff_guard {I : S → Prop} {R : S → L → S → Prop} {C : S → L → Prop}
    (hI : ∀ s l s', I s → A.step s l s' → C s l → I s')
    (h : ∀ s l s', I s → A.step s l s' → (R s l s' ↔ C s l)) (hs : I s) :
    (A.restrict R).Run s ls t ↔ (A.guard C).Run s ls t := by
  constructor
  · intro hrun
    induction hrun with
    | nil => exact .nil _
    | cons hst _ ih =>
      have hC := (h _ _ _ hs hst.1).1 hst.2
      exact .cons ⟨hst.1, hC⟩ (ih (hI _ _ _ hs hst.1 hC))
  · intro hrun
    induction hrun with
    | nil => exact .nil _
    | cons hst _ ih =>
      exact .cons ⟨hst.1, (h _ _ _ hs hst.1).2 hst.2⟩ (ih (hI _ _ _ hs hst.1 hst.2))

/-- **When what a step breaks stays broken**, and a condition says which steps do not break it, a
run ends unbroken exactly when all of its steps meet the condition. -/
theorem end_iff_guard {I P : S → Prop} {C : S → L → Prop}
    (hI : ∀ s l s', I s → A.step s l s' → I s')
    (hbroken : ∀ s l s', I s → ¬ P s → A.step s l s' → ¬ P s')
    (hstep : ∀ s l s', I s → P s → A.step s l s' → (P s' ↔ C s l)) (hs : I s) (hP : P s)
    (hrun : A.Run s ls t) : P t ↔ (A.guard C).Run s ls t := by
  constructor
  · intro ht
    induction hrun with
    | nil => exact .nil _
    | @cons s t u l ls hst hrun ih =>
      have hIt := hI _ _ _ hs hst
      have hPt : P t := Classical.byContradiction fun hnot =>
        (hrun.invariant (I := fun s => I s ∧ ¬ P s) ⟨hIt, hnot⟩ fun s l s' h hst =>
          ⟨hI s l s' h.1 hst, hbroken s l s' h.1 h.2 hst⟩).2 ht
      exact .cons ⟨hst, (hstep _ _ _ hs hP hst).1 hPt⟩ (ih hIt hPt ht)
  · intro hguard
    exact (hguard.invariant (I := fun s => I s ∧ P s) ⟨hs, hP⟩ fun s l s' h hst =>
      ⟨hI s l s' h.1 hst.1, (hstep s l s' h.1 h.2 hst.1).2 hst.2⟩).2

/-- A run of the restricted system is a run of the system. -/
theorem of_guard {C : S → L → Prop} (h : (A.guard C).Run s ls t) : A.Run s ls t := by
  induction h with
  | nil => exact .nil _
  | cons hst _ ih => exact .cons hst.1 ih

end Run

/-! ### Step functions -/

/-- The system of a step function. -/
def ofNext (next : S → L → Option S) : Lts S L where
  step s l s' := next s l = some s'

/-- The state after some steps, one after another. -/
def runNext (next : S → L → Option S) (s : S) : List L → Option S
  | [] => some s
  | l :: ls => (next s l).bind fun s' => runNext next s' ls

theorem run_of_runNext {next : S → L → Option S} {s s' : S} {ls : List L}
    (h : runNext next s ls = some s') : (ofNext next).Run s ls s' := by
  induction ls generalizing s with
  | nil =>
    cases h
    exact .nil _
  | cons l ls ih =>
    obtain ⟨t, ht, h⟩ := Option.bind_eq_some_iff.1 h
    exact .cons ht (ih h)

/-- What is read of the state after some steps is read after a run. -/
theorem exists_run_of_map {α : Type*} {next : S → L → Option S} {s : S} {ls : List L} {f : S → α}
    {x : α} (h : (runNext next s ls).map f = some x) :
    ∃ s', (ofNext next).Run s ls s' ∧ f s' = x := by
  obtain ⟨s', hrun, hx⟩ := Option.map_eq_some_iff.1 h
  exact ⟨s', run_of_runNext hrun, hx⟩

end Lts

end OmsWmsTms
