import Mathlib.Data.List.Basic

/-!
# Decorators that may call their function again

A decorator does something, calls the function that it wraps, and does something else; a handler
around all of it may call the function in its stead, or once more.

* `Comp` : computations on a state, which may raise.
* `Decorator`, `apply` : what a decorator does before and after the call.
* `Once` : the function is called at most once, and its outcome is that of the decorated call.
* `Decorator.once_iff`, `Decorator.once_stack_iff` : when that is so, for one decorator, and for one
  on top of another.
-/

namespace OmsWmsTms

universe u

/-! ### Computations -/

/-- A computation on a state, which may raise. -/
@[ext]
structure Comp (S E α : Type u) where
  /-- The outcome, and the state after it. -/
  exec : S → Except E α × S

namespace Comp

variable {S E α β : Type u} {comp : Comp S E α} {s : S} {a : α} {e : E}

instance : Monad (Comp S E) where
  pure a := ⟨fun s => (.ok a, s)⟩
  bind comp next := ⟨fun s =>
    match comp.exec s with
    | (.ok a, s) => (next a).exec s
    | (.error e, s) => (.error e, s)⟩

instance : MonadExcept E (Comp S E) where
  throw e := ⟨fun s => (.error e, s)⟩
  tryCatch comp handler := ⟨fun s =>
    match comp.exec s with
    | (.ok a, s) => (.ok a, s)
    | (.error e, s) => (handler e).exec s⟩

@[simp] theorem exec_pure : (pure a : Comp S E α).exec s = (.ok a, s) := rfl

@[simp] theorem exec_throw : (throw e : Comp S E α).exec s = (.error e, s) := rfl

@[simp] theorem exec_bind {next : α → Comp S E β} : (comp >>= next).exec s =
    match comp.exec s with
    | (.ok a, s) => (next a).exec s
    | (.error e, s) => (.error e, s) := rfl

@[simp] theorem exec_tryCatch {handler : E → Comp S E α} : (tryCatch comp handler).exec s =
    match comp.exec s with
    | (.ok a, s) => (.ok a, s)
    | (.error e, s) => (handler e).exec s := rfl

end Comp

/-! ### Decorators -/

/-- What a decorator has come to when its function is to be called. -/
inductive Prelude (S E α : Type u)
  /-- It does without a call. -/
  | answer (outcome : Except E α) (s : S)
  /-- The function is called within the reach of the handler. -/
  | call (s : S)
  /-- The handler calls the function. -/
  | fallback (s : S)

/-- The state that it has come to. -/
def Prelude.state {S E α : Type u} : Prelude S E α → S
  | .answer _ s | .call s | .fallback s => s

/-- What a decorator does with the outcome of a call within the reach of the handler. -/
inductive After (S : Type u)
  /-- The outcome is that of the decorated call. -/
  | keep (s : S)
  /-- The handler calls the function once more. -/
  | again (s : S)

/-- The state that it has come to. -/
def After.state {S : Type u} : After S → S
  | .keep s | .again s => s

/-- A decorator, as what it does before and after the call. -/
structure Decorator (S E α : Type u) where
  prelude : S → Prelude S E α
  after : Except E α × S → After S

namespace Decorator

variable {S E α : Type u}

/-- The decorated function. -/
def apply (deco : Decorator S E α) (func : Comp S E α) : Comp S E α where
  exec s :=
    match deco.prelude s with
    | .answer outcome s => (outcome, s)
    | .fallback s => func.exec s
    | .call s =>
      match deco.after (func.exec s) with
      | .keep s' => ((func.exec s).1, s')
      | .again s' => func.exec s'

/-- The function is called for the first time in a state. -/
def Starts (deco : Decorator S E α) (s s' : S) : Prop :=
  deco.prelude s = .call s' ∨ deco.prelude s = .fallback s'

/-- The function is called twice. -/
def Repeats (deco : Decorator S E α) (func : Comp S E α) (s : S) : Prop :=
  ∃ s' s'', deco.prelude s = .call s' ∧ deco.after (func.exec s') = .again s''

variable {deco : Decorator S E α} {func : Comp S E α} {s s' : S}

theorem apply_answer {outcome : Except E α} (h : deco.prelude s = .answer outcome s') :
    (deco.apply func).exec s = (outcome, s') := by
  simp only [apply, h]

/-- What the function returns or raises in a call that is not repeated, the decorated call does. -/
theorem apply_fst (hrepeats : ¬ deco.Repeats func s) (hs : deco.Starts s s') :
    ((deco.apply func).exec s).1 = (func.exec s').1 := by
  rcases hs with hcall | hfallback
  · cases hafter : deco.after (func.exec s') with
    | keep s'' => simp only [apply, hcall, hafter]
    | again s'' => exact absurd ⟨s', s'', hcall, hafter⟩ hrepeats
  · simp only [apply, hfallback]

/-- A repeated call, by when the function is called and what the handler catches. -/
theorem repeats_iff {Calls : S → Prop} {Fails : Except E α × S → Prop}
    (hcall : ∀ s', deco.prelude s = .call s' ↔ Calls s')
    (hagain : ∀ ending, (∃ s'', deco.after ending = .again s'') ↔ Fails ending) :
    deco.Repeats func s ↔ ∃ s', Calls s' ∧ Fails (func.exec s') := by
  constructor
  · rintro ⟨s', s'', h, h'⟩
    exact ⟨s', (hcall s').1 h, (hagain _).1 ⟨s'', h'⟩⟩
  · rintro ⟨s', h, h'⟩
    obtain ⟨s'', h''⟩ := (hagain _).2 h'
    exact ⟨s', s'', (hcall s').2 h, h''⟩

end Decorator

/-! ### Counting the calls -/

section Log

variable {S E α : Type u} (log : S → List (Except E α))

/-- Every execution of a function adds its outcome to the log. -/
def Records (func : Comp S E α) : Prop :=
  ∀ s, log (func.exec s).2 = log s ++ [(func.exec s).1]

/-- The logged function is called at most once, and what it returns or raises, the computation
returns or raises. -/
def Once (comp : Comp S E α) (s : S) : Prop :=
  log (comp.exec s).2 = log s ∨ log (comp.exec s).2 = log s ++ [(comp.exec s).1]

/-- The function, with the outcomes of its executions beside the state. -/
def Comp.counted (func : Comp S E α) : Comp (S × List (Except E α)) E α where
  exec s := ((func.exec s.1).1, (func.exec s.1).2, s.2 ++ [(func.exec s.1).1])

theorem Comp.records_counted (func : Comp S E α) : Records Prod.snd func.counted := fun _ => rfl

/-- A decorator writes nothing to the log itself. -/
structure Decorator.Silent (deco : Decorator S E α) : Prop where
  prelude : ∀ s, log (deco.prelude s).state = log s
  after : ∀ ending, log (deco.after ending).state = log ending.2

variable {log} {deco : Decorator S E α} {func : Comp S E α} {s : S}

namespace Decorator

theorem Silent.answer (h : deco.Silent log) {outcome : Except E α} {s' : S}
    (hs : deco.prelude s = .answer outcome s') : log s' = log s := by
  rw [← h.prelude s, hs]
  rfl

theorem Silent.starts (h : deco.Silent log) {s' : S} (hs : deco.Starts s s') :
    log s' = log s := by
  rw [← h.prelude s]
  rcases hs with hs | hs <;> rw [hs] <;> rfl

theorem Silent.keep (h : deco.Silent log) {ending : Except E α × S} {s' : S}
    (hs : deco.after ending = .keep s') : log s' = log ending.2 := by
  rw [← h.after ending, hs]
  rfl

theorem Silent.again (h : deco.Silent log) {ending : Except E α × S} {s' : S}
    (hs : deco.after ending = .again s') : log s' = log ending.2 := by
  rw [← h.after ending, hs]
  rfl

/-- **The ways of a decorated call**: the function is not called, called once with its outcome
kept, or called twice. -/
theorem apply_cases (hsilent : deco.Silent log) (func : Comp S E α) (s : S) :
    (log ((deco.apply func).exec s).2 = log s ∧ (∀ s', ¬ deco.Starts s s') ∧
      ∃ outcome s', deco.prelude s = .answer outcome s' ∧
        (deco.apply func).exec s = (outcome, s')) ∨
    (∃ s', deco.Starts s s' ∧ ¬ deco.Repeats func s ∧
      ((deco.apply func).exec s).1 = (func.exec s').1 ∧
      log ((deco.apply func).exec s).2 = log (func.exec s').2) ∨
    (∃ s' s'', deco.prelude s = .call s' ∧ deco.after (func.exec s') = .again s'' ∧
      log s'' = log (func.exec s').2 ∧ (deco.apply func).exec s = func.exec s'') := by
  cases hprelude : deco.prelude s with
  | answer outcome s' =>
    have hexec : (deco.apply func).exec s = (outcome, s') := apply_answer hprelude
    refine .inl ⟨?_, ?_, outcome, s', rfl, hexec⟩
    · rw [hexec]
      exact hsilent.answer hprelude
    · rintro s₀ (hs | hs) <;> rw [hprelude] at hs <;> cases hs
  | fallback s' =>
    have hexec : (deco.apply func).exec s = func.exec s' := by simp only [apply, hprelude]
    refine .inr (.inl ⟨s', .inr hprelude, ?_, by rw [hexec], by rw [hexec]⟩)
    rintro ⟨s₁, s₂, hcall, -⟩
    rw [hprelude] at hcall
    cases hcall
  | call s' =>
    cases hafter : deco.after (func.exec s') with
    | keep s'' =>
      have hexec : (deco.apply func).exec s = ((func.exec s').1, s'') := by
        simp only [apply, hprelude, hafter]
      refine .inr (.inl ⟨s', .inl hprelude, ?_, by rw [hexec], ?_⟩)
      · rintro ⟨s₁, s₂, hcall, hagain⟩
        rw [hprelude] at hcall
        cases hcall
        rw [hafter] at hagain
        cases hagain
      · rw [hexec]
        exact hsilent.keep hafter
    | again s'' =>
      have hexec : (deco.apply func).exec s = func.exec s'' := by
        simp only [apply, hprelude, hafter]
      exact .inr (.inr ⟨s', s'', rfl, hafter, hsilent.again hafter, hexec⟩)

/-- **A decorated call runs its function at most once**, and keeps its outcome, unless the
handler repeats it. -/
theorem once_iff (hsilent : deco.Silent log) (hfunc : Records log func) :
    Once log (deco.apply func) s ↔ ¬ deco.Repeats func s := by
  rcases apply_cases hsilent func s with
    ⟨hlog, hnot, -⟩ | ⟨s', hstarts, hnot, houtcome, hlog⟩ |
    ⟨s', s'', hcall, hagain, hlog, hexec⟩
  · refine iff_of_true (.inl hlog) ?_
    rintro ⟨s₁, s₂, hcall, -⟩
    exact hnot s₁ (.inl hcall)
  · refine iff_of_true (.inr ?_) hnot
    rw [hlog, hfunc, hsilent.starts hstarts, houtcome]
  · refine iff_of_false ?_ (not_not.2 ⟨s', s'', hcall, hagain⟩)
    have htwice : log ((deco.apply func).exec s).2 =
        log s ++ [(func.exec s').1] ++ [(func.exec s'').1] := by
      rw [hexec, hfunc, hlog, hfunc, hsilent.starts (.inl hcall)]
    rintro (hnone | hone)
    · rw [htwice] at hnone
      simp at hnone
    · rw [htwice] at hone
      simp at hone

/-- What a call whose handler calls the function in its stead, or calls it twice, adds to the
log. -/
theorem apply_log (hsilent : deco.Silent log) (hfunc : Records log func)
    (hcalled : ∀ outcome s', deco.prelude s ≠ .answer outcome s') :
    ∃ earlier, log ((deco.apply func).exec s).2 =
      log s ++ (earlier ++ [((deco.apply func).exec s).1]) := by
  rcases apply_cases hsilent func s with
    ⟨-, -, outcome, s', hprelude, -⟩ | ⟨s', hstarts, -, houtcome, hlog⟩ |
    ⟨s', s'', hcall, -, hlog, hexec⟩
  · exact absurd hprelude (hcalled outcome s')
  · refine ⟨[], ?_⟩
    rw [hlog, hfunc, hsilent.starts hstarts, houtcome, List.nil_append]
  · refine ⟨[(func.exec s').1], ?_⟩
    rw [hexec, hfunc, hlog, hfunc, hsilent.starts (.inl hcall), List.append_assoc]

/-- **Two decorators on one another** run the function at most once, and keep its outcome, unless
one of the handlers repeats its call; the outer one must not repeat a call that the inner one does
without. -/
theorem once_stack_iff {inner : Decorator S E α} (hsilent : deco.Silent log)
    (hinner : inner.Silent log) (hfunc : Records log func)
    (hanswer : ∀ s outcome s', inner.prelude s = .answer outcome s' →
      ∀ s₁ s₂, deco.after (outcome, s₁) ≠ .again s₂) :
    Once log (deco.apply (inner.apply func)) s ↔
      ¬ deco.Repeats (inner.apply func) s ∧ ∀ s', deco.Starts s s' → ¬ inner.Repeats func s' := by
  rcases apply_cases hsilent (inner.apply func) s with
    ⟨hlog, hnot, -⟩ | ⟨s', hstarts, hnot, houtcome, hlog⟩ |
    ⟨s', s'', hcall, hagain, hlog, hexec⟩
  · refine iff_of_true (.inl hlog) ⟨?_, fun s' hs => absurd hs (hnot s')⟩
    rintro ⟨s₁, s₂, hcall, -⟩
    exact hnot s₁ (.inl hcall)
  · have honce : Once log (deco.apply (inner.apply func)) s ↔ Once log (inner.apply func) s' := by
      unfold Once
      rw [hlog, houtcome, hsilent.starts hstarts]
    have hunique : ∀ s₁, deco.Starts s s₁ → s₁ = s' := by
      rintro s₁ (hs | hs) <;> rcases hstarts with hs' | hs' <;> rw [hs] at hs' <;> cases hs' <;> rfl
    rw [honce, once_iff hinner hfunc]
    constructor
    · intro hrepeats
      refine ⟨hnot, fun s₁ hs => ?_⟩
      rw [hunique s₁ hs]
      exact hrepeats
    · exact fun h => h.2 s' hstarts
  · refine iff_of_false ?_ fun h => h.1 ⟨s', s'', hcall, hagain⟩
    have hcalled : ∀ outcome s₁, inner.prelude s' ≠ .answer outcome s₁ := by
      intro outcome s₁ hprelude
      rw [apply_answer hprelude] at hagain
      exact hanswer s' outcome s₁ hprelude _ _ hagain
    obtain ⟨earlier, hfirst⟩ := apply_log hinner hfunc hcalled
    rw [hsilent.starts (.inl hcall)] at hfirst
    unfold Once
    rw [hexec]
    by_cases hsecond : ∃ outcome s₁, inner.prelude s'' = .answer outcome s₁
    · -- the second time the function is not called, and the outcome is not that of the first
      obtain ⟨outcome, s₁, hprelude⟩ := hsecond
      rw [apply_answer hprelude, hinner.answer hprelude, hlog, hfirst]
      rintro (hnone | hone)
      · simp at hnone
      · rw [List.append_cancel_left_eq] at hone
        have heq : ((inner.apply func).exec s').1 = outcome := by
          simpa using congrArg List.getLast? hone
        have hfirst_exec : (inner.apply func).exec s' = (outcome, ((inner.apply func).exec s').2) :=
          Prod.ext heq rfl
        rw [hfirst_exec] at hagain
        exact hanswer s'' outcome s₁ hprelude _ _ hagain
    · obtain ⟨earlier', hlast⟩ := apply_log hinner hfunc
        (fun outcome s₁ hprelude => hsecond ⟨outcome, s₁, hprelude⟩)
      rw [hlast, hlog, hfirst]
      rintro (hnone | hone)
      · simp at hnone
      · have hlength := congrArg List.length hone
        simp at hlength
        omega

end Decorator

end Log

end OmsWmsTms
