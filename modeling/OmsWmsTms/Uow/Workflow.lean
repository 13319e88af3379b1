import OmsWmsTms.Data.Rows
import OmsWmsTms.Uow.Journal

/-!
# Rows that requests move along a workflow

A request reads a row, checks that the workflow allows the status that it wants, and commits a
change of the row, which may be another one by then.

* `Workflow` : the rows, their changes and the statuses.
* `Cell`, `Cell.Step` : the row of an identifier, and what a commit does to it.
* `Cell.step_insert`, `Cell.step_update` : an `INSERT` and an `UPDATE` of a table.
* `Cell.status_eq` : the status is the one that was given last.
* `Cell.walk` : it has been reached along the workflow all the same.
* `Cell.time_iff` : a column that is set once is set exactly when it has been asked for.
-/

namespace OmsWmsTms

namespace Uow

/-- Rows with a status, and the statuses that may follow it. -/
structure Workflow (Row C S : Type) where
  /-- The row after a change. -/
  write : C → Row → Row
  status : Row → S
  /-- The status that a change sets. -/
  sets : C → Option S
  /-- A row as it is inserted. -/
  New : Row → Prop
  first : S
  edges : S → List S
  status_write : ∀ c row, status (write c row) = (sets c).getD (status row)
  status_new : ∀ row, New row → status row = first

/-- The row of an identifier: which writes insert it, and how the others change it. -/
structure Cell (D W Row C : Type) where
  row? : D → Option Row
  inserts : W → Bool
  change? : W → Option C

namespace Cell

variable {D W E Row C S T I : Type} {flow : Workflow Row C S} {cell : Cell D W Row C}
  {apply : W → D → Except E D} {J : List W → W → Prop} {d₀ d : D} {ws : List W}

/-- The status that a write gives a row. -/
def gives (flow : Workflow Row C S) (cell : Cell D W Row C) (w : W) : Option S :=
  if cell.inserts w then some flow.first else (cell.change? w).bind flow.sets

/-- The status of the row. -/
def status? (flow : Workflow Row C S) (cell : Cell D W Row C) (d : D) : Option S :=
  (cell.row? d).map flow.status

/-- The row is there, and a column of it is set. -/
def IsSet (cell : Cell D W Row C) (time : Row → Option T) (d : D) : Prop :=
  ∃ row, cell.row? d = some row ∧ (time row).isSome

theorem status?_of_row? {row : Row} (hrow : cell.row? d = some row) :
    cell.status? flow d = some (flow.status row) := by
  rw [status?, hrow, Option.map_some]

theorem isSet_iff {time : Row → Option T} {row : Row} (hrow : cell.row? d = some row) :
    cell.IsSet time d ↔ (time row).isSome := by
  simp [IsSet, hrow]

/-- What a commit does to a row. -/
inductive Step (flow : Workflow Row C S) (cell : Cell D W Row C) (w : W) :
    Option Row → Option Row → Prop
  | insert {row : Row} (hw : cell.inserts w) (hchange : cell.change? w = none)
      (hnew : flow.New row) : Step flow cell w none (some row)
  | change {c : C} (row : Row) (hw : ¬ cell.inserts w) (hchange : cell.change? w = some c) :
      Step flow cell w (some row) (some (flow.write c row))
  | keep {row? : Option Row} (hw : ¬ cell.inserts w) (hchange : cell.change? w = none) :
      Step flow cell w row? row?

/-- The commits insert the row, change it or keep it. -/
def Steps (flow : Workflow Row C S) (apply : W → D → Except E D) (cell : Cell D W Row C) : Prop :=
  ∀ w d d', apply w d = .ok d' → cell.Step flow w (cell.row? d) (cell.row? d')

variable {w : W}

theorem gives_of_inserts (hw : cell.inserts w) : cell.gives flow w = some flow.first := if_pos hw

theorem gives_of_change {c : C} (hw : ¬ cell.inserts w) (hchange : cell.change? w = some c) :
    cell.gives flow w = flow.sets c := by
  rw [gives, if_neg hw, hchange, Option.bind_some]

theorem of_gives_eq_some {t : S} (h : cell.gives flow w = some t) :
    (cell.inserts w ∧ t = flow.first) ∨ ∃ c, cell.change? w = some c ∧ flow.sets c = some t := by
  unfold gives at h
  split_ifs at h with hw
  · exact .inl ⟨hw, (Option.some.inj h).symm⟩
  · exact .inr (Option.bind_eq_some_iff.1 h)

/-- **A commit gives the row a status**, or keeps the one that it has. -/
theorem status?_step {d' : D} (h : cell.Step flow w (cell.row? d) (cell.row? d')) :
    cell.status? flow d' = (cell.gives flow w).or (cell.status? flow d) := by
  unfold status?
  generalize cell.row? d = row?, cell.row? d' = row?' at h
  cases h with
  | insert hw _ hnew =>
    rw [gives_of_inserts hw, Option.map_some, flow.status_new _ hnew, Option.some_or]
  | @change c row hw hchange =>
    rw [gives_of_change hw hchange, Option.map_some, Option.map_some, flow.status_write]
    cases flow.sets c <;> rfl
  | keep hw hchange =>
    rw [gives, if_neg hw, hchange, Option.bind_none, Option.none_or]

/-- **The status of a row** is the one that was given last. -/
theorem status_eq (h : History apply J d₀ ws d) (h₀ : cell.row? d₀ = none)
    (hsteps : cell.Steps flow apply) :
    cell.status? flow d = lastGiven (cell.gives flow) ws := by
  refine h.column_eq ?_ ?_
  · rw [status?, h₀, Option.map_none]
  · intro w d d' happly
    exact status?_step (hsteps w d d' happly)

/-! ### Tables -/

section Tables

variable [DecidableEq I] {id : Row → I} {i j : I} {rows new : List Row}

/-- An `INSERT` of rows whose identifiers are new. -/
theorem step_insert (hfresh : ∀ row ∈ new, id row ∉ rows.map id) (hnew : ∀ row ∈ new, flow.New row)
    (hw : cell.inserts w = decide (i ∈ new.map id)) (hchange : cell.change? w = none) :
    cell.Step flow w (rows.find? (id · = i)) ((rows ++ new).find? (id · = i)) := by
  rw [List.find?_append]
  by_cases hmem : i ∈ new.map id
  · rw [decide_eq_true hmem] at hw
    obtain ⟨row, hrow⟩ := Option.ne_none_iff_exists'.1 (mt find?_id_eq_none_iff.1 (not_not.2 hmem))
    have hid : id row = i := by simpa using List.find?_some hrow
    have hmem := List.mem_of_find?_eq_some hrow
    have hold : rows.find? (id · = i) = none := find?_id_eq_none_iff.2 (hid ▸ hfresh row hmem)
    rw [hold, hrow]
    exact .insert hw hchange (hnew row hmem)
  · rw [decide_eq_false hmem] at hw
    rw [find?_id_eq_none_iff.2 hmem, Option.or_none]
    exact .keep (by simp [hw]) hchange

/-- An `UPDATE` of a row that is there. -/
theorem step_update {c : C} (hj : j ∈ rows.map id) (hwrite : ∀ row, id (flow.write c row) = id row)
    (hw : ¬ cell.inserts w) (hchange : cell.change? w = if i = j then some c else none) :
    cell.Step flow w (rows.find? (id · = i))
      ((updateRows id j (flow.write c) rows).find? (id · = i)) := by
  rw [find?_updateRows hwrite]
  by_cases hij : i = j
  · subst hij
    obtain ⟨row, hrow⟩ := Option.ne_none_iff_exists'.1 (mt find?_id_eq_none_iff.1 (not_not.2 hj))
    rw [hrow, Option.map_some, if_pos rfl]
    exact .change row hw (hchange.trans (if_pos rfl))
  · simp only [if_neg hij, Option.map_id']
    exact .keep hw (hchange.trans (if_neg hij))

end Tables

/-! ### The way to a status -/

/-- A write that inserts the row. -/
def Creates (flow : Workflow Row C S) (cell : I → Cell D W Row C) (w : W) (i : I) (s : S) : Prop :=
  (cell i).inserts w ∧ s = flow.first

/-- A write that gives the row a status which follows another. -/
def Moves (flow : Workflow Row C S) (cell : I → Cell D W Row C) (w : W) (i : I) (s t : S) : Prop :=
  (cell i).gives flow w = some t ∧ t ∈ flow.edges s

/-- A way along the workflow. -/
abbrev Walk (flow : Workflow Row C S) (cell : I → Cell D W Row C) : I → List W → S → Prop :=
  Trail (Creates flow cell) (Moves flow cell)

/-- **Every status is reached along the workflow**, when each change that sets a status goes by a
status that the row once had. -/
theorem walk {cell : I → Cell D W Row C} {i : I} {t : S} (h : History apply J d₀ ws d)
    (h₀ : (cell i).row? d₀ = none) (hsteps : (cell i).Steps flow apply)
    (hgoes : ∀ ws w c t, J ws w → (cell i).change? w = some c → flow.sets c = some t →
      ∃ past d'' row, past <+: ws ∧ Committed apply d₀ past d'' ∧ (cell i).row? d'' = some row ∧
        t ∈ flow.edges (flow.status row))
    (ht : (cell i).status? flow d = some t) :
    ∃ trail, trail.Sublist ws ∧ Walk flow cell i trail t := by
  let statusOf (d : D) (i : I) : Option S := (cell i).status? flow d
  replace ht : statusOf d i = some t := ht
  refine h.trail (by simp [statusOf, status?, h₀]) ?_ ht
  intro ws w d d' t hrest hJ happly ht
  have hstep := hsteps w d d' happly
  have hstatus : statusOf d' i = ((cell i).gives flow w).or (statusOf d i) := status?_step hstep
  rw [hstatus, Option.or_eq_some_iff] at ht
  rcases ht with hgives | ⟨-, hold⟩
  · generalize (cell i).row? d = row?, (cell i).row? d' = row?' at hstep
    cases hstep with
    | insert hw =>
      rw [gives_of_inserts hw] at hgives
      cases hgives
      exact .inr (.inl ⟨hw, rfl⟩)
    | change row hw hchange =>
      have hsets := hgives
      rw [gives_of_change hw hchange] at hsets
      obtain ⟨past, d'', row, hpast, hd'', hrow, hedge⟩ := hgoes ws w _ t hJ hchange hsets
      refine .inr (.inr ⟨flow.status row, past, d'', hpast, hd'', ?_, hgives, hedge⟩)
      simp only [statusOf, status?, hrow, Option.map_some]
    | keep hw hchange =>
      rw [gives, if_neg hw, hchange] at hgives
      cases hgives
  · exact .inl hold

/-- **The marks of a way**: what the workflow cannot go round has been given, in this order. -/
theorem Walk.marks_sublist {cell : I → Cell D W Row C} {i : I} {t : S} (marks : S → List S)
    (hfirst : (marks flow.first).Sublist [flow.first])
    (hedges : ∀ s, ∀ t ∈ flow.edges s, (marks t).Sublist (marks s ++ [t])) {trail : List W}
    (h : Walk flow cell i trail t) :
    ((marks t).map some).Sublist (trail.map ((cell i).gives flow)) := by
  refine Trail.marks_sublist ?_ ?_ h
  · rintro w t ⟨hw, rfl⟩
    exact ⟨gives_of_inserts hw, hfirst⟩
  · rintro w s t ⟨hgives, hedge⟩
    exact ⟨hgives, hedges s t hedge⟩

/-- One more status. -/
theorem Walk.marks_move {cell : I → Cell D W Row C} {i : I} {s t : S} (marks : S → List S)
    (hfirst : (marks flow.first).Sublist [flow.first])
    (hedges : ∀ s, ∀ t ∈ flow.edges s, (marks t).Sublist (marks s ++ [t])) {trail : List W}
    (h : Walk flow cell i trail s) (hw : Moves flow cell w i s t) :
    ((marks s ++ [t]).map some).Sublist ((trail ++ [w]).map ((cell i).gives flow)) := by
  rw [List.map_append, List.map_append, List.map_singleton, List.map_singleton, hw.1]
  exact (Walk.marks_sublist marks hfirst hedges h).append (List.Sublist.refl _)

/-! ### A column that is set once -/

/-- **A column that is set once**: by a change that is asked for, unless the row that it goes by has
it already. -/
theorem time_iff (cell : Cell D W Row C) (time : Row → Option T) (sets : C → Option T)
    {asks : W → Prop} (h : History apply J d₀ ws d) (h₀ : cell.row? d₀ = none)
    (hsteps : cell.Steps flow apply)
    (hnew : ∀ row, flow.New row → time row = none)
    (hwrite : ∀ ws w c row, J ws w → cell.change? w = some c →
      time (flow.write c row) = (sets c).or (time row))
    (hasks : ∀ ws w, J ws w → asks w → (∃ c, cell.change? w = some c ∧ (sets c).isSome) ∨
      ∃ past d'' row, past <+: ws ∧ Committed apply d₀ past d'' ∧ cell.row? d'' = some row ∧
        (time row).isSome)
    (honly : ∀ ws w c, J ws w → cell.change? w = some c → (sets c).isSome → asks w) :
    cell.IsSet time d ↔ ∃ w ∈ ws, asks w := by
  refine h.exists_iff (by simp [IsSet, h₀]) ?_ ?_ ?_
  · rintro ws w d d' hJ happly ⟨row, hrow, htime⟩
    have hstep := hsteps w d d' happly
    rw [hrow] at hstep
    unfold IsSet
    generalize cell.row? d' = row?' at hstep ⊢
    cases hstep with
    | change row hw hchange =>
      refine ⟨_, rfl, ?_⟩
      rw [hwrite ws w _ row hJ hchange, Option.isSome_or, htime, Bool.or_true]
    | keep => exact ⟨row, rfl, htime⟩
  · intro ws w d d' hJ happly hw
    rcases hasks ws w hJ hw with ⟨c, hchange, hsets⟩ | ⟨past, d'', row, hpast, hd'', hrow, htime⟩
    · left
      unfold IsSet
      have hstep := hsteps w d d' happly
      generalize cell.row? d = row?, cell.row? d' = row?' at hstep ⊢
      cases hstep with
      | insert _ hnone =>
        rw [hnone] at hchange
        cases hchange
      | change row _ hchange' =>
        cases hchange.symm.trans hchange'
        refine ⟨_, rfl, ?_⟩
        rw [hwrite ws w c row hJ hchange, Option.isSome_or, hsets, Bool.true_or]
      | keep _ hnone =>
        rw [hnone] at hchange
        cases hchange
    · exact .inr ⟨past, d'', hpast, hd'', row, hrow, htime⟩
  · rintro ws w d d' hJ happly ⟨row', hrow', htime⟩
    have hstep := hsteps w d d' happly
    rw [hrow'] at hstep
    unfold IsSet
    generalize cell.row? d = row? at hstep ⊢
    cases hstep with
    | insert _ _ hnew' =>
      rw [hnew _ hnew'] at htime
      cases htime
    | @change c row _ hchange =>
      rw [hwrite ws w c row hJ hchange, Option.isSome_or, Bool.or_eq_true] at htime
      rcases htime with hsets | hold
      · exact .inr (honly ws w c hJ hchange hsets)
      · exact .inl ⟨row, rfl, hold⟩
    | keep => exact .inl ⟨row', rfl, htime⟩

end Cell

end Uow

end OmsWmsTms
