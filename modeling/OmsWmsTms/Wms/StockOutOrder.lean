import Mathlib.Data.Int.ConditionallyCompleteOrder
import Mathlib.Data.String.Basic
import OmsWmsTms.Data.Sort
import OmsWmsTms.Wms.Adjust

/-!
# The order of the batches, twice

`_pick_batches` orders the batches in the database, `stock_out` of `src/wms/service.py` sorts them
by Python keys.  The two orders are to agree on what comes first.

* `keyLt`, `sortBatches` : the sort of `stock_out`.
* `keyLe`, `sortBatches_eq_orderBy` : the preorder of its keys.
* `sortBatches_eq_none_iff` : when the keys cannot be compared.
* `Before`, `OrdersAgree` : what `ORDER BY` puts first, the sort puts first.
-/

namespace OmsWmsTms

namespace Wms

/-! ### The sort of `stock_out` -/

/-- `date.max`. -/
def dateMax : ℤ := 2932896

example : civil dateMax = (9999, 12, 31) := by decide

/-- `expiry_date or date.max`. -/
def Inventory.expiryKey (inv : Inventory) : ℤ := inv.expiryDate.getD dateMax

/-- `received_at or datetime.min`. -/
def Inventory.receivedKey (inv : Inventory) : WithBot ℤ := inv.receivedAt

/-- `batch_no or ""`. -/
def Inventory.batchKey (inv : Inventory) : String := inv.batchNo.getD ""

/-- `datetime.min` is naive, the times of the column are aware; the two do not compare. -/
def naive (t : WithBot ℤ) : Bool := t = ⊥

/-- The values of one type always compare. -/
def alike {α : Type} (_ : α) : Unit := ()

/-- `sort_fefo`. -/
def sortFefo (inv : Inventory) : ℤ × WithBot ℤ := (inv.expiryKey, inv.receivedKey)

/-- `sort_fifo`. -/
def sortFifo (inv : Inventory) : WithBot ℤ × String := (inv.receivedKey, inv.batchKey)

/-- The key of the strategy `batch`; `reverse=True` reverses each comparison. -/
def sortBatch (inv : Inventory) : Stringᵒᵈ := OrderDual.toDual inv.batchKey

/-- `<` of the keys of two batches. -/
def keyLt (strategy : String) (a b : Inventory) : Option Bool :=
  if strategy = "fefo" then ListSort.tupleLt alike naive (sortFefo a) (sortFefo b)
  else if strategy = "fifo" then ListSort.tupleLt naive alike (sortFifo a) (sortFifo b)
  else ListSort.valueLt alike (sortBatch a) (sortBatch b)

/-- `batches.sort`. -/
def sortBatches (strategy : String) (batches : List Inventory) : Option (List Inventory) :=
  ListSort.sort (keyLt strategy) batches

/-! ### The preorder of the keys -/

/-- `≤` of the keys of two batches. -/
def keyLe (strategy : String) (a b : Inventory) : Prop :=
  if strategy = "fefo" then toLex (sortFefo a) ≤ toLex (sortFefo b)
  else if strategy = "fifo" then toLex (sortFifo a) ≤ toLex (sortFifo b)
  else sortBatch a ≤ sortBatch b

instance (strategy : String) : DecidableRel (keyLe strategy) := fun _ _ =>
  inferInstanceAs (Decidable (ite _ _ _))

instance (strategy : String) : IsTrans Inventory (keyLe strategy) where
  trans := by
    intro a b c hab hbc
    unfold keyLe at *
    split_ifs at * with hfefo hfifo
    · exact le_trans hab hbc
    · exact le_trans hab hbc
    · exact le_trans hab hbc

instance (strategy : String) : Std.Total (keyLe strategy) where
  total := by
    intro a b
    unfold keyLe
    split_ifs with hfefo hfifo
    · exact le_total _ _
    · exact le_total _ _
    · exact le_total _ _

theorem compares_keyLt (strategy : String) :
    ListSort.Compares (keyLt strategy) (keyLe strategy) := by
  unfold keyLt keyLe
  split_ifs with hfefo hfifo
  · exact ListSort.compares_tupleLt.key sortFefo
  · exact ListSort.compares_tupleLt.key sortFifo
  · exact ListSort.compares_valueLt.key sortBatch

/-! ### Keys that cannot be compared -/

/-- The keys of two batches can be compared: where the times of their receipt decide, both have one
or neither has. -/
def KeysCompare (strategy : String) (a b : Inventory) : Prop :=
  if strategy = "fefo" then
    a.expiryKey = b.expiryKey → (a.receivedAt = none ↔ b.receivedAt = none)
  else if strategy = "fifo" then a.receivedAt = none ↔ b.receivedAt = none
  else True

instance (strategy : String) (a b : Inventory) : Decidable (KeysCompare strategy a b) :=
  inferInstanceAs (Decidable (ite _ _ _))

theorem naive_eq_iff {a b : Inventory} :
    naive a.receivedKey = naive b.receivedKey ↔ (a.receivedAt = none ↔ b.receivedAt = none) :=
  decide_eq_decide

theorem keyLt_eq_none_iff {strategy : String} {a b : Inventory} :
    keyLt strategy a b = none ↔ ¬ KeysCompare strategy a b := by
  have hreceived := (naive_eq_iff (a := a) (b := b)).not
  unfold keyLt KeysCompare
  split_ifs with hfefo hfifo
  · rw [ListSort.tupleLt_eq_none_iff, Classical.not_imp, ← hreceived]
    exact or_iff_right fun h => h rfl
  · rw [ListSort.tupleLt_eq_none_iff, ← hreceived]
    exact or_iff_left fun h => h.2 rfl
  · rw [ListSort.valueLt_eq_none_iff]
    exact not_congr (iff_of_true rfl trivial)

/-- When the keys of the batches can be compared, the sort is that of the preorder. -/
theorem sortBatches_eq_orderBy {strategy : String} {batches : List Inventory}
    (h : ∀ a ∈ batches, ∀ b ∈ batches, KeysCompare strategy a b) :
    sortBatches strategy batches = some (orderBy (keyLe strategy) batches) := by
  refine ListSort.sort_eq_orderBy (compares_keyLt strategy) fun a ha b hb hnone => ?_
  exact keyLt_eq_none_iff.1 hnone (h b hb a ha)

/-- The sort raises exactly if some two keys cannot be compared. -/
theorem sortBatches_eq_none_iff {strategy : String} {batches : List Inventory} :
    sortBatches strategy batches = none ↔
      ¬ ∀ a ∈ batches, ∀ b ∈ batches, KeysCompare strategy a b := by
  rw [sortBatches, ListSort.sort_eq_none_iff (compares_keyLt strategy)]
  push Not
  constructor
  · rintro ⟨a, ha, b, hb, hnone⟩
    exact ⟨b, hb, a, ha, keyLt_eq_none_iff.1 hnone⟩
  · rintro ⟨a, ha, b, hb, hkeys⟩
    exact ⟨b, hb, a, ha, keyLt_eq_none_iff.2 hkeys⟩

/-! ### The two orders -/

/-- `ORDER BY` of `_pick_batches` puts `a` strictly before `b`. -/
def Before (rt : Runtime) (strategy : String) (a b : Inventory) : Prop :=
  batchOrder rt strategy a b = true ∧ batchOrder rt strategy b a = false

/-- What `ORDER BY` of `_pick_batches` puts strictly before a batch, the sort of `stock_out` puts
before it as well. -/
def OrdersAgree (rt : Runtime) (strategy : String) (batches : List Inventory) : Prop :=
  ∀ a ∈ batches, ∀ b ∈ batches, Before rt strategy a b →
    ∃ sorted, sortBatches strategy batches = some sorted ∧ [a, b].Sublist sorted

/-- `lt`, with nothing behind everything. -/
def Precedes {α : Type} (lt : α → α → Prop) (x y : Option α) : Prop :=
  ∃ i, x = some i ∧ ∀ j, y = some j → lt i j

theorem nullsLast_strict_iff {α : Type} {le : α → α → Bool} {x y : Option α} :
    nullsLast le x y = true ∧ nullsLast le y x = false ↔
      Precedes (fun i j => le i j = true ∧ le j i = false) x y := by
  cases x <;> cases y <;> simp [nullsLast, Precedes]

theorem thenBy_strict_iff {α : Type} {le le' : α → α → Bool} {a b : α} :
    thenBy le le' a b = true ∧ thenBy le le' b a = false ↔
      (le a b = true ∧ le b a = false) ∨
        (le a b = true ∧ le b a = true) ∧ le' a b = true ∧ le' b a = false := by
  unfold thenBy
  cases le a b <;> cases le b a <;> cases le' a b <;> simp

theorem intLe_strict_iff {i j : ℤ} : decide (i ≤ j) = true ∧ decide (j ≤ i) = false ↔ i < j := by
  rw [decide_eq_true_eq, decide_eq_false_iff_not]
  omega

theorem nullsLast_tied_iff {x y : Option ℤ} :
    nullsLast (fun i j : ℤ => i ≤ j) x y = true ∧ nullsLast (fun i j : ℤ => i ≤ j) y x = true ↔
      x = y := by
  cases x <;> cases y <;> simp [nullsLast]
  omega

/-- The collation puts one text strictly before another one. -/
def CollateLt (rt : Runtime) (x y : String) : Prop :=
  rt.collate x y = true ∧ rt.collate y x = false

theorem before_iff {rt : Runtime} {strategy : String} {a b : Inventory} :
    Before rt strategy a b ↔
      if strategy = "fefo" then
        Precedes (· < ·) a.expiryDate b.expiryDate ∨
          a.expiryDate = b.expiryDate ∧ Precedes (· < ·) a.receivedAt b.receivedAt
      else if strategy = "fifo" then
        Precedes (· < ·) a.receivedAt b.receivedAt ∨
          a.receivedAt = b.receivedAt ∧ Precedes (CollateLt rt) a.batchNo b.batchNo
      else Precedes (CollateLt rt) a.batchNo b.batchNo := by
  unfold Before batchOrder
  split_ifs with hfefo hfifo
  · rw [thenBy_strict_iff, nullsLast_strict_iff, nullsLast_tied_iff, nullsLast_strict_iff]
    simp only [intLe_strict_iff]
  · rw [thenBy_strict_iff, nullsLast_strict_iff, nullsLast_tied_iff, nullsLast_strict_iff]
    simp only [intLe_strict_iff]
    rfl
  · exact nullsLast_strict_iff

theorem precedes_none {α : Type} {lt : α → α → Prop} {x y : Option α} (hx : x ≠ none)
    (hy : y = none) : Precedes lt x y := by
  obtain ⟨i, rfl⟩ := Option.ne_none_iff_exists'.1 hx
  subst hy
  exact ⟨i, rfl, fun j hj => absurd hj (Option.some_ne_none j).symm⟩

/-- One of two values is there and the other one is not. -/
theorem precedes_or_precedes {α : Type} {lt : α → α → Prop} {x y : Option α}
    (h : ¬ (x = none ↔ y = none)) : Precedes lt x y ∨ Precedes lt y x := by
  by_cases hx : x = none
  · exact .inr (precedes_none (fun hy => h (iff_of_true hx hy)) hx)
  · refine .inl (precedes_none hx ?_)
    by_contra hy
    exact h (iff_of_false hx hy)

/-- Of two batches that cannot be compared, `ORDER BY` puts one strictly before the other. -/
theorem before_or_before (rt : Runtime) {strategy : String} {a b : Inventory}
    (h : ¬ KeysCompare strategy a b) : Before rt strategy a b ∨ Before rt strategy b a := by
  rw [before_iff, before_iff]
  unfold KeysCompare at h
  split_ifs at * with hfefo hfifo
  · obtain ⟨hkey, hreceived⟩ := Classical.not_imp.1 h
    by_cases hexpiry : a.expiryDate = b.expiryDate
    · exact (precedes_or_precedes hreceived).imp (fun h => .inr ⟨hexpiry, h⟩)
        fun h => .inr ⟨hexpiry.symm, h⟩
    · -- one expires on the last day, the other one does not expire
      refine (precedes_or_precedes fun hnone => ?_).imp .inl .inl
      refine hexpiry ?_
      unfold Inventory.expiryKey at hkey
      cases ha : a.expiryDate with
      | none => rw [hnone.1 ha]
      | some day =>
        cases hb : b.expiryDate with
        | none => exact absurd (hnone.2 hb) (ha ▸ Option.some_ne_none day)
        | some day' =>
          rw [ha, hb] at hkey
          exact congrArg some hkey
  · exact (precedes_or_precedes h).imp .inl .inl
  · exact absurd trivial h

/-- The sort of `stock_out` puts `a` before `b`. -/
def SortsBefore (strategy : String) (batches : List Inventory) (a b : Inventory) : Prop :=
  keyLe strategy a b ∧ (keyLe strategy b a → [a, b].Sublist batches)

theorem ordersAgree_iff_sortsBefore {rt : Runtime} {strategy : String} {batches : List Inventory} :
    OrdersAgree rt strategy batches ↔ ∀ a ∈ batches, ∀ b ∈ batches, KeysCompare strategy a b ∧
      (Before rt strategy a b → SortsBefore strategy batches a b) := by
  by_cases hkeys : ∀ a ∈ batches, ∀ b ∈ batches, KeysCompare strategy a b
  · have hsort := sortBatches_eq_orderBy hkeys
    refine forall₂_congr fun a ha => forall₂_congr fun b hb => ?_
    rw [SortsBefore, ← pair_sublist_orderBy_iff ha hb, and_iff_right (hkeys a ha b hb), hsort]
    exact imp_congr_right fun _ => ⟨fun ⟨_, h, hsub⟩ => Option.some_inj.1 h ▸ hsub,
      fun hsub => ⟨_, rfl, hsub⟩⟩
  · have hraise := sortBatches_eq_none_iff.2 hkeys
    refine iff_of_false (fun hagree => ?_) fun h => hkeys fun a ha b hb => (h a ha b hb).1
    push Not at hkeys
    obtain ⟨a, ha, b, hb, hab⟩ := hkeys
    have hsome : ∀ a ∈ batches, ∀ b ∈ batches, ¬ Before rt strategy a b := by
      intro a ha b hb hbefore
      obtain ⟨sorted, h, -⟩ := hagree a ha b hb hbefore
      rw [hraise] at h
      exact Option.some_ne_none sorted h.symm
    rcases before_or_before rt hab with h | h
    · exact hsome a ha b hb h
    · exact hsome b hb a ha h

/-! ### When they agree -/

/-- The strategy `fefo`: on the last day, a batch that expires is not behind one that does not. -/
def FefoAgrees (batches : List Inventory) (a b : Inventory) : Prop :=
  ∀ day, a.expiryDate = some day → b.expiryDate = none →
    day < dateMax ∨ day = dateMax ∧ a.receivedKey ≤ b.receivedKey ∧
      (a.receivedKey = b.receivedKey → [a, b].Sublist batches)

/-- The strategy `fifo`: of the batches received at one time, the texts are ordered alike, and one
with a number is not behind one without: its number is empty, and it is read first. -/
def FifoAgrees (rt : Runtime) (batches : List Inventory) (a b : Inventory) : Prop :=
  a.receivedAt = b.receivedAt → ∀ x, a.batchNo = some x →
    (∀ y, b.batchNo = some y → CollateLt rt x y → x < y) ∧
      (b.batchNo = none → x = "" ∧ [a, b].Sublist batches)

/-- The strategy `batch`: the sort goes down, so that the texts are to be ordered the other way
round; a batch with an empty number is read before one without a number. -/
def BatchAgrees (rt : Runtime) (batches : List Inventory) (a b : Inventory) : Prop :=
  ∀ x, a.batchNo = some x →
    (∀ y, b.batchNo = some y → CollateLt rt x y → y < x) ∧
      (b.batchNo = none → x = "" → [a, b].Sublist batches)

/-- The condition on two batches. -/
def PairAgrees (rt : Runtime) (strategy : String) (batches : List Inventory) (a b : Inventory) :
    Prop :=
  if strategy = "fefo" then FefoAgrees batches a b
  else if strategy = "fifo" then FifoAgrees rt batches a b
  else BatchAgrees rt batches a b

theorem le_and_tied_iff {α : Type*} [LinearOrder α] {x y : α} {p : Prop} :
    x ≤ y ∧ (y ≤ x → p) ↔ x < y ∨ x = y ∧ p := by
  rcases lt_trichotomy x y with h | h | h
  · exact iff_of_true ⟨h.le, fun hle => absurd h hle.not_gt⟩ (.inl h)
  · subst h
    simp
  · refine iff_of_false (fun hle => hle.1.not_gt h) ?_
    rintro (hlt | heq)
    · exact hlt.not_gt h
    · exact h.ne' heq.1

theorem sortsBefore_iff {strategy : String} {batches : List Inventory} {a b : Inventory} :
    SortsBefore strategy batches a b ↔
      if strategy = "fefo" then
        toLex (sortFefo a) < toLex (sortFefo b) ∨ sortFefo a = sortFefo b ∧ [a, b].Sublist batches
      else if strategy = "fifo" then
        toLex (sortFifo a) < toLex (sortFifo b) ∨ sortFifo a = sortFifo b ∧ [a, b].Sublist batches
      else sortBatch a < sortBatch b ∨ sortBatch a = sortBatch b ∧ [a, b].Sublist batches := by
  unfold SortsBefore keyLe
  split_ifs with hfefo hfifo
  · exact le_and_tied_iff
  · exact le_and_tied_iff
  · exact le_and_tied_iff

section Keys

variable {inv a b : Inventory} {day : ℤ} {x : String}

theorem Inventory.expiryKey_of_some (h : inv.expiryDate = some day) : inv.expiryKey = day := by
  rw [Inventory.expiryKey, h, Option.getD_some]

theorem Inventory.expiryKey_of_none (h : inv.expiryDate = none) : inv.expiryKey = dateMax := by
  rw [Inventory.expiryKey, h, Option.getD_none]

theorem Inventory.batchKey_of_some (h : inv.batchNo = some x) : inv.batchKey = x := by
  rw [Inventory.batchKey, h, Option.getD_some]

theorem Inventory.batchKey_of_none (h : inv.batchNo = none) : inv.batchKey = "" := by
  rw [Inventory.batchKey, h, Option.getD_none]

/-- Times of receipt that can be compared are ordered alike. -/
theorem receivedKey_lt (hkeys : a.receivedAt = none ↔ b.receivedAt = none)
    (h : Precedes (· < ·) a.receivedAt b.receivedAt) : a.receivedKey < b.receivedKey := by
  obtain ⟨time, ha, hlt⟩ := h
  obtain ⟨time', hb⟩ : ∃ time', b.receivedAt = some time' := by
    refine Option.ne_none_iff_exists'.1 fun hb => ?_
    exact Option.some_ne_none time (ha ▸ hkeys.2 hb)
  rw [Inventory.receivedKey, Inventory.receivedKey, ha, hb]
  exact WithBot.coe_lt_coe.2 (hlt time' hb)

end Keys

/-- The strategy `fefo`, for two batches whose keys can be compared. -/
theorem fefoAgrees_iff {batches : List Inventory} {a b : Inventory}
    (hkeys : a.expiryKey = b.expiryKey → (a.receivedAt = none ↔ b.receivedAt = none)) :
    (Precedes (· < ·) a.expiryDate b.expiryDate ∨
        a.expiryDate = b.expiryDate ∧ Precedes (· < ·) a.receivedAt b.receivedAt →
      toLex (sortFefo a) < toLex (sortFefo b) ∨
        sortFefo a = sortFefo b ∧ [a, b].Sublist batches) ↔ FefoAgrees batches a b := by
  rw [Prod.Lex.toLex_lt_toLex, Prod.ext_iff]
  simp only [sortFefo]
  constructor
  · intro h day ha hb
    have hkeyA : a.expiryKey = day := Inventory.expiryKey_of_some ha
    have hkeyB : b.expiryKey = dateMax := Inventory.expiryKey_of_none hb
    have hbefore := h (.inl (precedes_none (ha ▸ Option.some_ne_none day) hb))
    rw [hkeyA, hkeyB] at hbefore
    rcases hbefore with (hlt | ⟨heq, hlt⟩) | ⟨⟨heq, htied⟩, hsub⟩
    · exact .inl hlt
    · exact .inr ⟨heq, hlt.le, fun htied => absurd htied hlt.ne⟩
    · exact .inr ⟨heq, htied.le, fun _ => hsub⟩
  · rintro h (⟨day, ha, hlt⟩ | ⟨hexpiry, time, ha, hlt⟩)
    · have hkeyA : a.expiryKey = day := Inventory.expiryKey_of_some ha
      cases hb : b.expiryDate with
      | some day' =>
        have hkeyB : b.expiryKey = day' := Inventory.expiryKey_of_some hb
        rw [hkeyA, hkeyB]
        exact .inl (.inl (hlt day' hb))
      | none =>
        have hkeyB : b.expiryKey = dateMax := Inventory.expiryKey_of_none hb
        rw [hkeyA, hkeyB]
        rcases h day ha hb with hday | ⟨heq, hle, hsub⟩
        · exact .inl (.inl hday)
        · rcases hle.lt_or_eq with hlt | htied
          · exact .inl (.inr ⟨heq, hlt⟩)
          · exact .inr ⟨⟨heq, htied⟩, hsub htied⟩
    · have hkey : a.expiryKey = b.expiryKey := by rw [Inventory.expiryKey, hexpiry]; rfl
      exact .inl (.inr ⟨hkey, receivedKey_lt (hkeys hkey) ⟨time, ha, hlt⟩⟩)

theorem not_lt_empty (x : String) : ¬ x < "" := by
  rw [String.lt_iff_toList_lt]
  exact List.not_lt_nil _

theorem CollateLt.ne {rt : Runtime} {x y : String} (h : CollateLt rt x y) : x ≠ y := by
  rintro rfl
  exact Bool.false_ne_true (h.2.symm.trans h.1)

/-- The strategy `fifo`, for two batches whose keys can be compared. -/
theorem fifoAgrees_iff {rt : Runtime} {batches : List Inventory} {a b : Inventory}
    (hkeys : a.receivedAt = none ↔ b.receivedAt = none) :
    (Precedes (· < ·) a.receivedAt b.receivedAt ∨
        a.receivedAt = b.receivedAt ∧ Precedes (CollateLt rt) a.batchNo b.batchNo →
      toLex (sortFifo a) < toLex (sortFifo b) ∨
        sortFifo a = sortFifo b ∧ [a, b].Sublist batches) ↔ FifoAgrees rt batches a b := by
  rw [Prod.Lex.toLex_lt_toLex, Prod.ext_iff]
  simp only [sortFifo]
  constructor
  · intro h hreceived x ha
    have hkeyA : a.batchKey = x := Inventory.batchKey_of_some ha
    have hirrefl : ¬ a.receivedKey < b.receivedKey := by
      rw [Inventory.receivedKey, Inventory.receivedKey, hreceived]
      exact lt_irrefl _
    refine ⟨fun y hb hlt => ?_, fun hb => ?_⟩
    · have hkeyB : b.batchKey = y := Inventory.batchKey_of_some hb
      have hbefore := h (.inr ⟨hreceived, x, ha, fun z hz => by
        rwa [← Option.some_inj.1 (hb.symm.trans hz)]⟩)
      rw [hkeyA, hkeyB] at hbefore
      rcases hbefore with (hreceived | ⟨-, hlt⟩) | ⟨⟨-, heq⟩, -⟩
      · exact absurd hreceived hirrefl
      · exact hlt
      · exact absurd heq hlt.ne
    · have hkeyB : b.batchKey = "" := Inventory.batchKey_of_none hb
      have hbefore := h (.inr ⟨hreceived, precedes_none (ha ▸ Option.some_ne_none x) hb⟩)
      rw [hkeyA, hkeyB] at hbefore
      rcases hbefore with (hreceived | ⟨-, hlt⟩) | ⟨⟨-, heq⟩, hsub⟩
      · exact absurd hreceived hirrefl
      · exact absurd hlt (not_lt_empty x)
      · exact ⟨heq, hsub⟩
  · rintro h (⟨time, ha, hlt⟩ | ⟨hreceived, x, ha, hlt⟩)
    · exact .inl (.inl (receivedKey_lt hkeys ⟨time, ha, hlt⟩))
    · have hkeyA : a.batchKey = x := Inventory.batchKey_of_some ha
      have htied : a.receivedKey = b.receivedKey := by
        rw [Inventory.receivedKey, Inventory.receivedKey, hreceived]
      obtain ⟨hsome, hnone⟩ := h hreceived x ha
      cases hb : b.batchNo with
      | some y =>
        have hkeyB : b.batchKey = y := Inventory.batchKey_of_some hb
        rw [hkeyA, hkeyB]
        exact .inl (.inr ⟨htied, hsome y hb (hlt y hb)⟩)
      | none =>
        have hkeyB : b.batchKey = "" := Inventory.batchKey_of_none hb
        rw [hkeyA, hkeyB]
        exact .inr ⟨⟨htied, (hnone hb).1⟩, (hnone hb).2⟩

/-- The strategy `batch`. -/
theorem batchAgrees_iff {rt : Runtime} {batches : List Inventory} {a b : Inventory} :
    (Precedes (CollateLt rt) a.batchNo b.batchNo →
      sortBatch a < sortBatch b ∨ sortBatch a = sortBatch b ∧ [a, b].Sublist batches) ↔
        BatchAgrees rt batches a b := by
  constructor
  · intro h x ha
    have hkeyA : a.batchKey = x := Inventory.batchKey_of_some ha
    refine ⟨fun y hb hlt => ?_, fun hb hx => ?_⟩
    · have hkeyB : b.batchKey = y := Inventory.batchKey_of_some hb
      have hbefore := h ⟨x, ha, fun z hz => by rwa [← Option.some_inj.1 (hb.symm.trans hz)]⟩
      rw [sortBatch, sortBatch, hkeyA, hkeyB] at hbefore
      rcases hbefore with hgt | ⟨heq, -⟩
      · exact OrderDual.toDual_lt_toDual.1 hgt
      · exact absurd (OrderDual.toDual_inj.1 heq) hlt.ne
    · have hkeyB : b.batchKey = "" := Inventory.batchKey_of_none hb
      have hbefore := h (precedes_none (ha ▸ Option.some_ne_none x) hb)
      rw [sortBatch, sortBatch, hkeyA, hkeyB, hx] at hbefore
      exact (hbefore.resolve_left (lt_irrefl _)).2
  · rintro h ⟨x, ha, hlt⟩
    have hkeyA : a.batchKey = x := Inventory.batchKey_of_some ha
    obtain ⟨hsome, hnone⟩ := h x ha
    cases hb : b.batchNo with
    | some y =>
      have hkeyB : b.batchKey = y := Inventory.batchKey_of_some hb
      rw [sortBatch, sortBatch, hkeyA, hkeyB]
      exact .inl (OrderDual.toDual_lt_toDual.2 (hsome y hb (hlt y hb)))
    | none =>
      have hkeyB : b.batchKey = "" := Inventory.batchKey_of_none hb
      rw [sortBatch, sortBatch, hkeyA, hkeyB, OrderDual.toDual_lt_toDual, OrderDual.toDual_inj]
      -- every other text is above the empty one
      rcases lt_trichotomy "" x with hx | hx | hx
      · exact .inl hx
      · exact .inr ⟨hx.symm, hnone hb hx.symm⟩
      · exact absurd hx (not_lt_empty x)

/-- The sort of `stock_out` agrees with `_pick_batches` exactly if no two keys raise and the last
day, the missing numbers and the collation do not come between them. -/
theorem ordersAgree_iff {rt : Runtime} {strategy : String} {batches : List Inventory} :
    OrdersAgree rt strategy batches ↔ ∀ a ∈ batches, ∀ b ∈ batches,
      KeysCompare strategy a b ∧ PairAgrees rt strategy batches a b := by
  rw [ordersAgree_iff_sortsBefore]
  refine forall₂_congr fun a _ => forall₂_congr fun b _ => and_congr_right fun hkeys => ?_
  rw [before_iff, sortsBefore_iff]
  unfold KeysCompare at hkeys
  unfold PairAgrees
  split_ifs at * with hfefo hfifo
  · exact fefoAgrees_iff hkeys
  · exact fifoAgrees_iff hkeys
  · exact batchAgrees_iff

/-! ### Two batches -/

theorem tenPieces_fits : Int.natAbs 100000 < 10 ^ 20 := by decide

/-- A batch of ten pieces. -/
def tenPieces (id : Uuid) (batchNo : Option String) (receivedAt : Option ℤ) : Inventory where
  id := id
  warehouseId := 1
  locationId := none
  skuId := 2
  batchNo := batchNo
  quantity := ⟨100000, tenPieces_fits⟩
  lockedQty := 0
  version := 0
  expiryDate := none
  manufacturingDate := none
  receivedAt := receivedAt
  isDeleted := false
  createdAt := 0
  updatedAt := 0

/-- The texts in the order of their code points. -/
def codePoints : Runtime where
  collate := fun x y => x ≤ y
  lazyLoads := false

/-- A batch that was received, and one of which this is not known. -/
def unknownReceipt : List Inventory :=
  [tenPieces 3 (some "A") (some 0), tenPieces 4 (some "B") none]

/-- The sort by the time of receipt raises, while `ORDER BY` puts the second one last. -/
theorem unknownReceipt_not_ordersAgree : ¬ OrdersAgree codePoints "fifo" unknownReceipt := by
  intro h
  have hraise : sortBatches "fifo" unknownReceipt = none := rfl
  obtain ⟨sorted, hsorted, -⟩ := h _ List.mem_cons_self _ (.tail _ (.head _)) ⟨rfl, rfl⟩
  rw [hraise] at hsorted
  exact Option.some_ne_none sorted hsorted.symm

end Wms

end OmsWmsTms
