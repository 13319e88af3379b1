import OmsWmsTms.Uow.Program

/-!
# What a journal says

* `Held start adds drops` : after a journal, what held at the start or was added has not been
  dropped since; `History.holds_iff` : when a fact about the database is held.
* `lastGiven`, `History.column_eq` : what the last write on a column has set it to.
* `rowsAfter`, `History.table_eq` : a table whose rows are inserted and then updated.
* `History.strong` : induction over a journal, with its beginnings at hand.
* `History.exists_iff` : what is set once, by requests that do not set it again.
* `Trail`, `History.trail` : when requests go by the statuses that they have read, however stale,
  every status is still reached along the edges of the workflow.
* `Trail.marks_sublist` : what such a trail has gone through.
-/

namespace OmsWmsTms

namespace Uow

/-! ### What has been added and not dropped -/

section Held

variable {W : Type} (start : Prop) (adds drops : W → Prop)

/-- What held at the start, or was added by a write, has not been dropped since. -/
def Held (ws : List W) : Prop :=
  (start ∧ ∀ w ∈ ws, ¬ drops w) ∨
    ∃ before w after, ws = before ++ w :: after ∧ adds w ∧ ∀ w' ∈ after, ¬ drops w'

variable {start adds drops}

@[simp] theorem held_nil : Held start adds drops [] ↔ start := by
  simp [Held]

/-- One more write. -/
theorem held_concat {ws : List W} {w : W} :
    Held start adds drops (ws ++ [w]) ↔ adds w ∨ (Held start adds drops ws ∧ ¬ drops w) := by
  constructor
  · rintro (⟨hstart, hkept⟩ | ⟨before, w', after, hws, hadds, hkept⟩)
    · refine .inr ⟨.inl ⟨hstart, fun w' hw' => hkept w' (List.mem_append_left _ hw')⟩, ?_⟩
      exact hkept w (by simp)
    · rcases List.eq_nil_or_concat after with rfl | ⟨after, last, rfl⟩
      · obtain ⟨-, hw⟩ := List.append_inj' hws rfl
        cases hw
        exact .inl hadds
      · have hsplit : ws ++ [w] = (before ++ w' :: after) ++ [last] := by simp [hws]
        obtain ⟨rfl, hw⟩ := List.append_inj' hsplit rfl
        cases hw
        refine .inr ⟨.inr ⟨before, w', after, rfl, hadds, fun w'' hw'' => ?_⟩, hkept w (by simp)⟩
        exact hkept w'' (by simp [hw''])
  · rintro (hadds | ⟨⟨hstart, hkept⟩ | ⟨before, w', after, rfl, hadds, hkept⟩, hdrops⟩)
    · exact .inr ⟨ws, w, [], rfl, hadds, fun _ h => (by cases h)⟩
    · refine .inl ⟨hstart, fun w' hw' => ?_⟩
      rcases List.mem_append.1 hw' with hold | hnew
      · exact hkept w' hold
      · rwa [List.mem_singleton.1 hnew]
    · refine .inr ⟨before, w', after ++ [w], by simp, hadds, fun w'' hw'' => ?_⟩
      rcases List.mem_append.1 hw'' with hold | hnew
      · exact hkept w'' hold
      · rwa [List.mem_singleton.1 hnew]

end Held

/-- What the last write that sets a column has set it to. -/
def lastGiven {W V : Type} (gives : W → Option V) (ws : List W) : Option V :=
  ws.reverse.findSome? gives

@[simp] theorem lastGiven_nil {W V : Type} (gives : W → Option V) : lastGiven gives [] = none := rfl

@[simp] theorem lastGiven_concat {W V : Type} (gives : W → Option V) (ws : List W) (w : W) :
    lastGiven gives (ws ++ [w]) = (gives w).or (lastGiven gives ws) := by
  unfold lastGiven
  rw [List.reverse_append, List.reverse_singleton, List.singleton_append, List.findSome?_cons]
  cases gives w <;> rfl

section Journal

variable {D W E : Type} {apply : W → D → Except E D} {J : List W → W → Prop} {d₀ d : D}
  {ws : List W}

/-- **A fact that the writes add and drop** is held in the database exactly when the journal says
so. -/
theorem History.holds_iff {holds : D → Prop} {adds drops : W → Prop}
    (h : History apply J d₀ ws d)
    (hstep : ∀ ws w d d', History apply J d₀ ws d → J ws w → apply w d = .ok d' →
      (holds d' ↔ adds w ∨ (holds d ∧ ¬ drops w))) :
    holds d ↔ Held (holds d₀) adds drops ws := by
  induction h with
  | start => exact held_nil.symm
  | commit hrest hJ happly ih => rw [hstep _ _ _ _ hrest hJ happly, held_concat, ih]

/-- **A column that the writes set** is what the last of them has set it to. -/
theorem History.column_eq {V : Type} {column : D → Option V} {gives : W → Option V}
    (h : History apply J d₀ ws d) (h₀ : column d₀ = none)
    (hstep : ∀ w d d', apply w d = .ok d' → column d' = (gives w).or (column d)) :
    column d = lastGiven gives ws := by
  induction h with
  | start => exact h₀
  | commit _ _ happly ih => rw [hstep _ _ _ happly, ih, lastGiven_concat]

/-! ### What has been inserted and updated since -/

section Table

variable {Row : Type} (inserts : W → List Row) (update : W → Row → Row)

/-- A row after the updates of a journal. -/
def updated (ws : List W) (row : Row) : Row := ws.foldl (fun row w => update w row) row

/-- The rows that the writes of a journal insert, each after the updates of the later ones. -/
def rowsAfter : List W → List Row
  | [] => []
  | w :: ws => (inserts w).map (updated update ws) ++ rowsAfter ws

variable {inserts update} {w : W}

@[simp] theorem updated_concat (row : Row) :
    updated update (ws ++ [w]) row = update w (updated update ws row) := by
  unfold updated
  rw [List.foldl_append]
  rfl

/-- What no update changes. -/
theorem map_updated {V : Type} {f : Row → V} (hf : ∀ w row, f (update w row) = f row) (row : Row) :
    f (updated update ws row) = f row := by
  induction ws using List.reverseRecOn with
  | nil => rfl
  | append_singleton ws w ih => rw [updated_concat, hf, ih]

/-- More writes update the rows and insert their own. -/
theorem rowsAfter_append {ws' : List W} : rowsAfter inserts update (ws ++ ws') =
    (rowsAfter inserts update ws).map (updated update ws') ++ rowsAfter inserts update ws' := by
  induction ws with
  | nil => rfl
  | cons w ws ih =>
    have hmap : (inserts w).map (updated update (ws ++ ws')) =
        ((inserts w).map (updated update ws)).map (updated update ws') := by
      rw [List.map_map]
      refine List.map_congr_left fun row _ => ?_
      exact List.foldl_append
    rw [List.cons_append, rowsAfter, rowsAfter, ih, hmap, List.map_append, List.append_assoc]

/-- One more write updates the rows and inserts its own. -/
theorem rowsAfter_concat : rowsAfter inserts update (ws ++ [w]) =
    (rowsAfter inserts update ws).map (update w) ++ inserts w := by
  rw [rowsAfter_append]
  show _ ++ ((inserts w).map (fun row => row) ++ []) = _
  rw [List.map_id', List.append_nil]
  rfl

/-- Where a row comes from. -/
theorem mem_rowsAfter {row : Row} (h : row ∈ rowsAfter inserts update ws) :
    ∃ before w after first, ws = before ++ w :: after ∧ first ∈ inserts w ∧
      row = updated update after first := by
  induction ws with
  | nil => cases h
  | cons w ws ih =>
    rcases List.mem_append.1 h with hnew | hrest
    · obtain ⟨first, hfirst, rfl⟩ := List.mem_map.1 hnew
      exact ⟨[], w, ws, first, rfl, hfirst, rfl⟩
    · obtain ⟨before, w', after, first, rfl, hfirst, hrow⟩ := ih hrest
      exact ⟨w :: before, w', after, first, rfl, hfirst, hrow⟩

/-- **A table whose rows are inserted and then updated** has the rows that the journal says. -/
theorem History.table_eq {table : D → List Row} (h : History apply J d₀ ws d)
    (h₀ : table d₀ = [])
    (hstep : ∀ w d d', apply w d = .ok d' → table d' = (table d).map (update w) ++ inserts w) :
    table d = rowsAfter inserts update ws := by
  induction h with
  | start => exact h₀
  | commit _ _ happly ih => rw [hstep _ _ _ happly, ih, rowsAfter_concat]

end Table

/-- **Induction over a journal**, with what is true of all of its beginnings at hand. -/
theorem History.strong {P : List W → D → Prop} (h : History apply J d₀ ws d) (h₀ : P [] d₀)
    (hstep : ∀ ws w d d', History apply J d₀ ws d →
      (∀ past d'', past <+: ws → Committed apply d₀ past d'' → P past d'') → J ws w →
      apply w d = .ok d' → P (ws ++ [w]) d') : P ws d := by
  suffices hall : ∀ past d', past <+: ws → Committed apply d₀ past d' → P past d' from
    hall ws d List.prefix_rfl h.committed
  induction h with
  | start =>
    intro past d' hpast hd'
    obtain rfl := List.prefix_nil.1 hpast
    rwa [hd'.nil_eq]
  | @commit ws w d d' hrest hJ happly ih =>
    intro past d'' hpast hd''
    rcases List.prefix_concat_iff.1 hpast with rfl | hpast
    · have hlast : Committed apply d₀ (ws ++ [w]) d' := .commit hrest.committed trivial happly
      obtain rfl := hd''.unique hlast
      exact hstep _ _ _ _ hrest ih hJ happly
    · exact ih past d'' hpast hd''

/-- A history says more of its writes. -/
theorem History.imp {J' : List W → W → Prop} (h : History apply J d₀ ws d)
    (himp : ∀ ws w d, History apply J d₀ ws d → J ws w → J' ws w) : History apply J' d₀ ws d := by
  induction h with
  | start => exact .start
  | commit hrest hJ happly ih => exact .commit ih (himp _ _ _ hrest hJ) happly

/-- What no write takes away stays. -/
theorem History.holds_of_prefix {holds : D → Prop} {past : List W} {d'' : D}
    (h : History apply J d₀ ws d)
    (hkeeps : ∀ ws w d d', J ws w → apply w d = .ok d' → holds d → holds d') (hpast : past <+: ws)
    (hd'' : Committed apply d₀ past d'') (hholds : holds d'') : holds d := by
  induction h with
  | start =>
    obtain rfl := List.prefix_nil.1 hpast
    rwa [hd''.nil_eq] at hholds
  | commit hrest hJ happly ih =>
    rcases List.prefix_concat_iff.1 hpast with rfl | hpast
    · have hlast : Committed apply d₀ _ _ := .commit hrest.committed trivial happly
      rwa [hlast.unique hd'']
    · exact hkeeps _ _ _ _ hJ happly (ih hpast)

/-- **What is set once**, by the first of the writes that ask for it: such a write sets it, unless
it goes by a moment at which it was set. -/
theorem History.exists_iff {holds : D → Prop} {asks : W → Prop} (h : History apply J d₀ ws d)
    (h₀ : ¬ holds d₀)
    (hkeeps : ∀ ws w d d', J ws w → apply w d = .ok d' → holds d → holds d')
    (hsets : ∀ ws w d d', J ws w → apply w d = .ok d' → asks w → holds d' ∨
      ∃ past d'', past <+: ws ∧ Committed apply d₀ past d'' ∧ holds d'')
    (honly : ∀ ws w d d', J ws w → apply w d = .ok d' → holds d' → holds d ∨ asks w) :
    holds d ↔ ∃ w ∈ ws, asks w := by
  induction h with
  | start => simp [h₀]
  | @commit ws w d d' hrest hJ happly ih =>
    have hconcat : (∃ w' ∈ ws ++ [w], asks w') ↔ (∃ w' ∈ ws, asks w') ∨ asks w := by
      simp [or_and_right, exists_or]
    rw [hconcat, ← ih]
    constructor
    · exact honly ws w d d' hJ happly
    · rintro (hholds | hasks)
      · exact hkeeps ws w d d' hJ happly hholds
      · rcases hsets ws w d d' hJ happly hasks with hholds | ⟨past, d'', hpast, hd'', hholds⟩
        · exact hholds
        · exact hkeeps ws w d d' hJ happly (hrest.holds_of_prefix hkeeps hpast hd'' hholds)

/-- How an item has come to a status: a write creates it, others move it on, each from the status
that the one before has led to. -/
inductive Trail {I S : Type} (creates : W → I → S → Prop) (moves : W → I → S → S → Prop) (i : I) :
    List W → S → Prop
  | create {w : W} {s : S} : creates w i s → Trail creates moves i [w] s
  | move {trail : List W} {w : W} {s t : S} :
    Trail creates moves i trail s → moves w i s t → Trail creates moves i (trail ++ [w]) t

/-- **Every status is reached along a trail**, whose writes stand in the journal in this order, when
each write that gives an item a status creates the item or goes by a status that the item once had:
also when other writes come in between, so that the statuses which follow one another in the
database need not be those of the trail. -/
theorem History.trail {I S : Type} {status : D → I → Option S} {creates : W → I → S → Prop}
    {moves : W → I → S → S → Prop} {i : I} {t : S} (h : History apply J d₀ ws d)
    (h₀ : status d₀ i = none)
    (hstep : ∀ ws w d d' t, History apply J d₀ ws d → J ws w → apply w d = .ok d' →
      status d' i = some t → status d i = some t ∨ creates w i t ∨ ∃ s past d'', past <+: ws ∧
        Committed apply d₀ past d'' ∧ status d'' i = some s ∧ moves w i s t)
    (ht : status d i = some t) : ∃ trail, trail.Sublist ws ∧ Trail creates moves i trail t := by
  refine h.strong (P := fun ws d => ∀ t, status d i = some t →
    ∃ trail, trail.Sublist ws ∧ Trail creates moves i trail t) ?_ ?_ t ht
  · intro t ht
    rw [h₀] at ht
    cases ht
  · intro ws w d d' hrest hpasts hJ happly t ht
    rcases hstep ws w d d' t hrest hJ happly ht with hold | hcreates |
      ⟨s, past, d'', hpast, hd'', hs, hmoves⟩
    · obtain ⟨trail, hsub, htrail⟩ := hpasts ws d List.prefix_rfl hrest.committed t hold
      exact ⟨trail, hsub.trans (List.sublist_append_left _ _), htrail⟩
    · exact ⟨[w], List.sublist_append_right _ _, .create hcreates⟩
    · obtain ⟨trail, hsub, htrail⟩ := hpasts past d'' hpast hd'' s hs
      exact ⟨trail ++ [w], (hsub.trans hpast.sublist).append (List.Sublist.refl _),
        .move htrail hmoves⟩

/-- **The marks of a trail**: the statuses which it takes to reach another are given in this order,
when a move adds at most the status that it leads to. -/
theorem Trail.marks_sublist {I S : Type} {creates : W → I → S → Prop}
    {moves : W → I → S → S → Prop} {i : I} {gives : W → Option S} {marks : S → List S}
    {trail : List W} {t : S}
    (hcreates : ∀ w t, creates w i t → gives w = some t ∧ (marks t).Sublist [t])
    (hmoves : ∀ w s t, moves w i s t → gives w = some t ∧ (marks t).Sublist (marks s ++ [t]))
    (h : Trail creates moves i trail t) : ((marks t).map some).Sublist (trail.map gives) := by
  induction h with
  | @create w t hw =>
    obtain ⟨hgives, hmarks⟩ := hcreates w t hw
    rw [List.map_singleton, hgives]
    exact hmarks.map some
  | @move trail w s t _ hw ih =>
    obtain ⟨hgives, hmarks⟩ := hmoves w s t hw
    have happend : ((marks s).map some ++ [some t]).Sublist (trail.map gives ++ [some t]) :=
      ih.append (List.Sublist.refl _)
    rw [List.map_append, List.map_singleton, hgives]
    refine List.Sublist.trans ?_ happend
    rw [← List.map_singleton, ← List.map_append]
    exact hmarks.map some

end Journal

end Uow

end OmsWmsTms
