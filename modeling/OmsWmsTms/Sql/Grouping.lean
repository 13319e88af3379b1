import Mathlib.Data.List.Basic
import Mathlib.Order.Nat
import Mathlib.Tactic.Tauto

/-!
# Grouped statements with bound values

A `SELECT` with a `GROUP BY`, built from expressions in which each value is a parameter of its own.
The database numbers the parameters as they are rendered and then wants every column of the list to
be grouped; two parameters with one value are two expressions to it.

* `Expr`, `Select` : expressions and statements.
* `Expr.render`, `renderAll` : their parameters, numbered.
* `Expr.Grouped`, `Select.check` : what the database asks of the rendered statement.
* `Expr.GroupedBy` : the same of the statement as it is written; an expression with a value in it
  matches no expression of the `GROUP BY`.
* `Select.passes_iff` : the two agree.
-/

namespace OmsWmsTms

namespace Sql

variable {C V : Type*}

/-! ### Statements -/

/-- An expression over columns, with parameters. -/
inductive Expr (C P : Type*)
  | column (c : C)
  | param (p : P)
  /-- A function of two arguments, or a binary operator. -/
  | call (name : String) (first second : Expr C P)
  | aggregate (name : String) (argument : Expr C P)
deriving DecidableEq

/-- A statement with a `GROUP BY`, whose parameters are values. -/
structure Select (C V : Type*) where
  columns : List (Expr C V)
  conditions : List (Expr C V)
  groupBy : List (Expr C V)
  orderBy : List (Expr C V)
  limit : Option V

/-- The errors of a statement. -/
inductive QueryError
  /-- `ProgrammingError`: the statement is refused. -/
  | programmingError
deriving DecidableEq

/-! ### Rendering -/

/-- Each value gets the next number. -/
def Expr.render : Expr C V → ℕ → Expr C ℕ × ℕ
  | .column c, n => (.column c, n)
  | .param _, n => (.param n, n + 1)
  | .call name first second, n =>
    let first := first.render n
    let second := second.render first.2
    (.call name first.1 second.1, second.2)
  | .aggregate name argument, n =>
    let argument := argument.render n
    (.aggregate name argument.1, argument.2)

/-- Expressions, one after another. -/
def renderAll : List (Expr C V) → ℕ → List (Expr C ℕ) × ℕ
  | [], n => ([], n)
  | e :: es, n =>
    let first := e.render n
    let rest := renderAll es first.2
    (first.1 :: rest.1, rest.2)

/-- Every column of an expression is in an aggregate or in an expression of the `GROUP BY`, or the
primary key of the table is grouped. -/
def Expr.Grouped (key : List C) (groups : List (Expr C ℕ)) : Expr C ℕ → Prop
  | .column c => .column c ∈ groups ∨ ∀ k ∈ key, .column k ∈ groups
  | .param _ => True
  | .call name first second => .call name first second ∈ groups ∨
    first.Grouped key groups ∧ second.Grouped key groups
  | .aggregate _ _ => True

instance Expr.decidableGrouped [DecidableEq C] (key : List C) (groups : List (Expr C ℕ)) :
    (e : Expr C ℕ) → Decidable (e.Grouped key groups)
  | .column c => inferInstanceAs (Decidable (_ ∨ _))
  | .param _ => isTrue trivial
  | .call name first second =>
    have := decidableGrouped key groups first
    have := decidableGrouped key groups second
    inferInstanceAs (Decidable (_ ∨ _ ∧ _))
  | .aggregate _ _ => isTrue trivial

/-- What the database asks of a statement, which it has rendered in the order of its clauses. -/
def Select.Passes (key : List C) (s : Select C V) : Prop :=
  let columns := renderAll s.columns 1
  let conditions := renderAll s.conditions columns.2
  let groups := renderAll s.groupBy conditions.2
  let order := renderAll s.orderBy groups.2
  ∀ e ∈ columns.1 ++ order.1, e.Grouped key groups.1

instance [DecidableEq C] (key : List C) (s : Select C V) : Decidable (s.Passes key) :=
  inferInstanceAs (Decidable (∀ e ∈ _, _))

/-- The check of the database. -/
def Select.check [DecidableEq C] (key : List C) (s : Select C V) : Except QueryError Unit :=
  if s.Passes key then .ok () else .error .programmingError

/-! ### The statement as it is written -/

/-- No value is in the expression. -/
def Expr.ValueFree : Expr C V → Prop
  | .column _ => True
  | .param _ => False
  | .call _ first second => first.ValueFree ∧ second.ValueFree
  | .aggregate _ argument => argument.ValueFree

/-- The columns of an expression are grouped, by expressions without values. -/
def Expr.GroupedBy (key : List C) (groups : List (Expr C V)) : Expr C V → Prop
  | .column c => .column c ∈ groups ∨ ∀ k ∈ key, .column k ∈ groups
  | .param _ => True
  | .call name first second =>
    (Expr.call name first second).ValueFree ∧ .call name first second ∈ groups ∨
      first.GroupedBy key groups ∧ second.GroupedBy key groups
  | .aggregate _ _ => True

variable {e e' : Expr C V} {es : List (Expr C V)} {n m : ℕ}

/-- The numbers go up. -/
theorem Expr.le_render (e : Expr C V) (n : ℕ) : n ≤ (e.render n).2 := by
  induction e generalizing n with
  | column c => exact le_rfl
  | param p => exact Nat.le_succ n
  | call name first second ih₁ ih₂ => exact (ih₁ n).trans (ih₂ _)
  | aggregate name argument ih => exact ih n

theorem le_renderAll (es : List (Expr C V)) (n : ℕ) : n ≤ (renderAll es n).2 := by
  induction es generalizing n with
  | nil => exact le_rfl
  | cons e es ih => exact (e.le_render n).trans (ih _)

/-- **Two renderings are equal** only for one expression, and without a value in it. -/
theorem Expr.render_eq_iff (h : (e.render n).2 ≤ m) :
    (e.render n).1 = (e'.render m).1 ↔ e.ValueFree ∧ e = e' := by
  induction e generalizing e' n m with
  | column c =>
    cases e' <;> simp [render, ValueFree]
  | param p =>
    have hlt : n < m := h
    cases e' <;> simp [render, ValueFree, hlt.ne]
  | call name first second ih₁ ih₂ =>
    cases e' with
    | call name' first' second' =>
      have hsecond : (second.render (first.render n).2).2 ≤ m := h
      have hfirst : (first.render n).2 ≤ m := (second.le_render _).trans hsecond
      simp only [render, ValueFree, call.injEq]
      rw [ih₁ hfirst, ih₂ (hsecond.trans (first'.le_render m))]
      tauto
    | _ => simp [render]
  | aggregate name argument ih =>
    cases e' with
    | aggregate name' argument' =>
      simp only [render, ValueFree, aggregate.injEq]
      rw [ih h]
      tauto
    | _ => simp [render]

/-- What is among the rendered expressions was rendered at some number. -/
theorem mem_renderAll {x : Expr C ℕ} : x ∈ (renderAll es n).1 →
    ∃ e ∈ es, ∃ m, n ≤ m ∧ (e.render m).2 ≤ (renderAll es n).2 ∧ (e.render m).1 = x := by
  induction es generalizing n with
  | nil => exact fun hx => absurd hx List.not_mem_nil
  | cons e es ih =>
    intro hx
    rcases List.mem_cons.1 hx with rfl | hx
    · exact ⟨e, List.mem_cons_self, n, le_rfl, le_renderAll es _, rfl⟩
    · obtain ⟨e', he', m, hm, hend, rfl⟩ := ih hx
      exact ⟨e', List.mem_cons_of_mem _ he', m, (e.le_render n).trans hm, hend, rfl⟩

/-- Every expression is rendered at some number. -/
theorem exists_render_mem (he : e ∈ es) (n : ℕ) :
    ∃ m, n ≤ m ∧ (e.render m).2 ≤ (renderAll es n).2 ∧ (e.render m).1 ∈ (renderAll es n).1 := by
  induction es generalizing n with
  | nil => exact absurd he List.not_mem_nil
  | cons e' es ih =>
    rcases List.mem_cons.1 he with rfl | he
    · exact ⟨n, le_rfl, le_renderAll es _, List.mem_cons_self⟩
    · obtain ⟨m, hm, hend, hmem⟩ := ih he (e'.render n).2
      exact ⟨m, (e'.le_render n).trans hm, hend, List.mem_cons_of_mem _ hmem⟩

/-- An expression and a `GROUP BY` that are rendered apart, in either order. -/
def Apart (e : Expr C V) (n : ℕ) (groups : List (Expr C V)) (m : ℕ) : Prop :=
  (e.render n).2 ≤ m ∨ (renderAll groups m).2 ≤ n

theorem mem_renderAll_iff {groups : List (Expr C V)} (h : Apart e n groups m) :
    (e.render n).1 ∈ (renderAll groups m).1 ↔ e.ValueFree ∧ e ∈ groups := by
  have heq {e' : Expr C V} {m' : ℕ} (hm : m ≤ m') (hend : (e'.render m').2 ≤ (renderAll groups m).2) :
      (e.render n).1 = (e'.render m').1 ↔ e.ValueFree ∧ e = e' := by
    rcases h with h | h
    · exact Expr.render_eq_iff (h.trans hm)
    · rw [eq_comm, Expr.render_eq_iff (hend.trans h), eq_comm (a := e')]
      exact and_congr_left fun heq => heq ▸ Iff.rfl
  constructor
  · intro hmem
    obtain ⟨e', he', m', hm, hend, hx⟩ := mem_renderAll hmem
    obtain ⟨hfree, rfl⟩ := (heq hm hend).1 hx.symm
    exact ⟨hfree, he'⟩
  · rintro ⟨hfree, he⟩
    obtain ⟨m', hm, hend, hmem⟩ := exists_render_mem he m
    exact (heq hm hend).2 ⟨hfree, rfl⟩ ▸ hmem

theorem column_mem_renderAll_iff {groups : List (Expr C V)} {c : C} :
    .column c ∈ (renderAll groups m).1 ↔ .column c ∈ groups :=
  (mem_renderAll_iff (e := .column c) (n := m) (.inl le_rfl)).trans (and_iff_right trivial)

/-- **The check of an expression** says of it, as it is written, that it is grouped. -/
theorem Expr.grouped_render_iff {key : List C} {groups : List (Expr C V)}
    (h : Apart e n groups m) :
    (e.render n).1.Grouped key (renderAll groups m).1 ↔ e.GroupedBy key groups := by
  induction e generalizing n with
  | column c => simp only [render, Grouped, GroupedBy, column_mem_renderAll_iff]
  | param p => exact Iff.rfl
  | call name first second ih₁ ih₂ =>
    have hfirst : Apart first n groups m := by
      rcases h with h | h
      · exact .inl ((second.le_render _).trans h)
      · exact .inr h
    have hsecond : Apart second (first.render n).2 groups m := by
      rcases h with h | h
      · exact .inl h
      · exact .inr (h.trans (first.le_render n))
    have hself := mem_renderAll_iff h
    simp only [render] at hself
    simp only [render, Grouped, GroupedBy]
    rw [hself, ih₁ hfirst, ih₂ hsecond]
  | aggregate name argument ih => exact Iff.rfl

/-- **A statement passes the check exactly when** the columns of its list and of its `ORDER BY` are
grouped, by expressions without values. -/
theorem Select.passes_iff {key : List C} {s : Select C V} :
    s.Passes key ↔ ∀ e ∈ s.columns ++ s.orderBy, e.GroupedBy key s.groupBy := by
  unfold Select.Passes
  dsimp only
  have hcolumns {e : Expr C V} {n : ℕ} (hend : (e.render n).2 ≤ (renderAll s.columns 1).2) :
      Apart e n s.groupBy (renderAll s.conditions (renderAll s.columns 1).2).2 :=
    .inl (hend.trans (le_renderAll _ _))
  simp only [List.mem_append]
  constructor
  · rintro h e (he | he)
    · obtain ⟨n, -, hend, hmem⟩ := exists_render_mem he 1
      exact (Expr.grouped_render_iff (hcolumns hend)).1 (h _ (.inl hmem))
    · obtain ⟨n, hn, -, hmem⟩ := exists_render_mem he (renderAll s.groupBy _).2
      exact (Expr.grouped_render_iff (.inr hn)).1 (h _ (.inr hmem))
  · rintro h x (hx | hx)
    · obtain ⟨e, he, n, -, hend, rfl⟩ := mem_renderAll hx
      exact (Expr.grouped_render_iff (hcolumns hend)).2 (h e (.inl he))
    · obtain ⟨e, he, n, hn, -, rfl⟩ := mem_renderAll hx
      exact (Expr.grouped_render_iff (.inr hn)).2 (h e (.inr he))

theorem Select.check_of_passes [DecidableEq C] {key : List C} {s : Select C V}
    (h : ∀ e ∈ s.columns ++ s.orderBy, e.GroupedBy key s.groupBy) : s.check key = .ok () :=
  if_pos (passes_iff.2 h)

/-- A statement is refused for one expression that is not grouped. -/
theorem Select.check_of_not_groupedBy [DecidableEq C] {key : List C} {s : Select C V}
    {e : Expr C V} (he : e ∈ s.columns ++ s.orderBy) (h : ¬ e.GroupedBy key s.groupBy) :
    s.check key = .error .programmingError :=
  if_neg fun hpasses => h (passes_iff.1 hpasses e he)

end Sql

end OmsWmsTms
