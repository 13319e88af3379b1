import Mathlib.Data.Prod.Lex
import OmsWmsTms.Data.OrderBy

/-!
# Sorting with comparisons that may raise

`list.sort`: a stable sort that asks only for `<`, and that fails when a comparison raises.

* `ListSort.sort` : the sort.
* `ListSort.sort_eq_orderBy` : when no two items raise, it is the sort of a total preorder.
* `ListSort.sort_eq_none_iff` : it fails exactly if some two items raise.
* `ListSort.valueLt`, `ListSort.tupleLt` : `<` of values of several kinds, and of pairs of them;
  `ListSort.compares_valueLt` and `ListSort.compares_tupleLt` : the preorders that they are of.
* `pair_sublist_orderBy_iff` : what comes before what in a sorted list.
-/

namespace OmsWmsTms

variable {α : Type*}

namespace ListSort

/-- Insert an item into sorted items, in front of those that are not smaller. -/
def insert (lt : α → α → Option Bool) (a : α) : List α → Option (List α)
  | [] => some [a]
  | b :: rest =>
    match lt b a with
    | none => none
    | some true => (insert lt a rest).map (b :: ·)
    | some false => some (a :: b :: rest)

/-- `list.sort`; a comparison is `none` when it raises. -/
def sort (lt : α → α → Option Bool) : List α → Option (List α)
  | [] => some []
  | a :: rest => (sort lt rest).bind (insert lt a)

/-- What the `<` of a type has to do with a total preorder `r`. -/
structure Compares (lt : α → α → Option Bool) (r : α → α → Prop) : Prop where
  /-- A comparison that does not raise is that of the preorder. -/
  agrees : ∀ a b v, lt b a = some v → (v = true ↔ ¬ r a b)
  /-- An item can be compared with itself. -/
  self : ∀ a, lt a a ≠ none
  /-- The order of the two items does not matter. -/
  symm : ∀ a b, lt a b = none → lt b a = none
  /-- An item in front of one that cannot be compared with `a` is smaller than `a`, or cannot be
  compared with it either. -/
  gap : ∀ a b c, lt b a = none → lt b c ≠ none → r c b → lt c a ≠ some false

section

variable {lt : α → α → Option Bool} {r : α → α → Prop} [DecidableRel r]

/-- Inserting, when no comparison raises. -/
theorem insert_eq_orderedInsert (h : Compares lt r) {a : α} {rows : List α}
    (hrows : ∀ b ∈ rows, lt b a ≠ none) : insert lt a rows = some (rows.orderedInsert r a) := by
  induction rows with
  | nil => rfl
  | cons b rest ih =>
    have hb : lt b a ≠ none := hrows b List.mem_cons_self
    have hrest : insert lt a rest = some (rest.orderedInsert r a) :=
      ih fun c hc => hrows c (List.mem_cons_of_mem b hc)
    obtain ⟨v, hv⟩ := Option.ne_none_iff_exists'.1 hb
    have hr := h.agrees a b v hv
    cases v with
    | true =>
      have hab : ¬ r a b := hr.1 rfl
      rw [insert, hv, List.orderedInsert_of_not_le r _ hab, hrest]
      rfl
    | false =>
      have hab : r a b := by
        by_contra hab
        exact Bool.false_ne_true (hr.2 hab)
      rw [insert, hv, List.orderedInsert_cons_of_le r _ hab]

/-- Sorting, when no comparison raises. -/
theorem sort_eq_orderBy (h : Compares lt r) {rows : List α}
    (hrows : ∀ a ∈ rows, ∀ b ∈ rows, lt b a ≠ none) : sort lt rows = some (orderBy r rows) := by
  induction rows with
  | nil => rfl
  | cons a rest ih =>
    have hrest : sort lt rest = some (orderBy r rest) :=
      ih fun b hb c hc => hrows b (List.mem_cons_of_mem a hb) c (List.mem_cons_of_mem a hc)
    rw [sort, hrest, Option.bind_some]
    exact insert_eq_orderedInsert h fun b hb =>
      hrows a List.mem_cons_self b (List.mem_cons_of_mem a (mem_orderBy.1 hb))

/-- Inserting an item that cannot be compared with one of the items, when the items in front of
that one do not stop the search. -/
theorem insert_eq_none {a b : α} {rows : List α} (hb : b ∈ rows) (hab : lt b a = none)
    (hgap : ∀ c, [c, b].Sublist rows → lt c a ≠ some false) : insert lt a rows = none := by
  induction rows with
  | nil => exact absurd hb List.not_mem_nil
  | cons c rest ih =>
    rcases List.mem_cons.1 hb with rfl | hmem
    · rw [insert, hab]
    · have hc : lt c a ≠ some false :=
        hgap c (List.cons_sublist_cons.2 (List.singleton_sublist.2 hmem))
      have hrest : insert lt a rest = none := ih hmem fun d hdb => hgap d (hdb.cons c)
      cases hv : lt c a with
      | none => rw [insert, hv]
      | some v =>
        cases v with
        | true =>
          rw [insert, hv, hrest]
          rfl
        | false => exact absurd hv hc

variable [IsTrans α r] [Std.Total r]

/-- Sorting fails exactly if some two items cannot be compared. -/
theorem sort_eq_none_iff (h : Compares lt r) (rows : List α) :
    sort lt rows = none ↔ ∃ a ∈ rows, ∃ b ∈ rows, lt b a = none := by
  constructor
  · intro hnone
    by_contra hall
    have hrows : ∀ a ∈ rows, ∀ b ∈ rows, lt b a ≠ none := fun a ha b hb hab =>
      hall ⟨a, ha, b, hb, hab⟩
    rw [sort_eq_orderBy h hrows] at hnone
    exact Option.some_ne_none _ hnone
  · rintro ⟨a, ha, b, hb, hab⟩
    induction rows generalizing a b with
    | nil => exact absurd ha List.not_mem_nil
    | cons c rest ih =>
      by_cases hrest : ∃ a ∈ rest, ∃ b ∈ rest, lt b a = none
      · obtain ⟨a, ha, b, hb, hab⟩ := hrest
        rw [sort, ih a ha b hb hab]
        rfl
      · have hrows : ∀ a ∈ rest, ∀ b ∈ rest, lt b a ≠ none := fun a ha b hb hab =>
          hrest ⟨a, ha, b, hb, hab⟩
        -- the new item is one of the two, and the other one is among the sorted
        obtain ⟨d, hd, hdc⟩ : ∃ d ∈ rest, lt d c = none := by
          rcases List.mem_cons.1 ha with rfl | ha'
          · rcases List.mem_cons.1 hb with rfl | hb'
            · exact absurd hab (h.self b)
            · exact ⟨b, hb', hab⟩
          · rcases List.mem_cons.1 hb with rfl | hb'
            · exact ⟨a, ha', h.symm _ _ hab⟩
            · exact absurd hab (hrows a ha' b hb')
        rw [sort, sort_eq_orderBy h hrows, Option.bind_some]
        refine insert_eq_none (mem_orderBy.2 hd) hdc fun e hed => ?_
        have hle : r e d :=
          List.pairwise_pair.1 ((List.pairwise_insertionSort r rest).sublist hed)
        have he : e ∈ rest := mem_orderBy.1 (hed.subset List.mem_cons_self)
        exact h.gap c d e hdc (hrows e he d hd) hle

end

/-! ### Keys -/

/-- The comparison of two items by a key. -/
theorem Compares.key {β : Type*} {lt : β → β → Option Bool} {r : β → β → Prop}
    (h : Compares lt r) (key : α → β) :
    Compares (fun a b => lt (key a) (key b)) fun a b => r (key a) (key b) where
  agrees := fun a b => h.agrees (key a) (key b)
  self := fun a => h.self (key a)
  symm := fun a b => h.symm (key a) (key b)
  gap := fun a b c => h.gap (key a) (key b) (key c)

section

variable [LinearOrder α] {κ : Type*} [DecidableEq κ]

/-- `<` of two values, which raises unless they are of one kind. -/
def valueLt (kind : α → κ) (a b : α) : Option Bool :=
  if kind a = kind b then some (decide (a < b)) else none

variable {kind : α → κ}

theorem valueLt_eq_none_iff {a b : α} : valueLt kind a b = none ↔ kind a ≠ kind b := by
  rw [valueLt]
  split_ifs with h <;> simp [h]

theorem valueLt_eq_some_iff {a b : α} {v : Bool} :
    valueLt kind a b = some v ↔ kind a = kind b ∧ v = decide (a < b) := by
  rw [valueLt]
  split_ifs with h <;> simp [h, eq_comm]

theorem compares_valueLt : Compares (valueLt kind) (· ≤ ·) where
  agrees := by
    intro a b v h
    rw [(valueLt_eq_some_iff.1 h).2, decide_eq_true_eq, not_le]
  self := by
    intro a h
    exact valueLt_eq_none_iff.1 h rfl
  symm := by
    intro a b h
    exact valueLt_eq_none_iff.2 (valueLt_eq_none_iff.1 h).symm
  gap := by
    intro a b c hab hbc _ hca
    have hkind : kind b = kind c := by
      by_contra hne
      exact hbc (valueLt_eq_none_iff.2 hne)
    exact valueLt_eq_none_iff.1 hab (hkind.trans (valueLt_eq_some_iff.1 hca).1)

variable {β : Type*} [LinearOrder β] {κ' : Type*} [DecidableEq κ']

/-- `<` of two pairs: the first entries that differ decide. -/
def tupleLt (kind : α → κ) (kind' : β → κ') (a b : α × β) : Option Bool :=
  if a.1 = b.1 then valueLt kind' a.2 b.2 else valueLt kind a.1 b.1

variable {kind' : β → κ'}

theorem tupleLt_eq_none_iff {a b : α × β} : tupleLt kind kind' a b = none ↔
    kind a.1 ≠ kind b.1 ∨ a.1 = b.1 ∧ kind' a.2 ≠ kind' b.2 := by
  rw [tupleLt]
  split_ifs with h
  · rw [valueLt_eq_none_iff]
    exact ⟨fun hne => .inr ⟨h, hne⟩, fun hor => (hor.resolve_left fun hne => hne (h ▸ rfl)).2⟩
  · rw [valueLt_eq_none_iff]
    exact ⟨.inl, fun hor => hor.resolve_right fun hand => h hand.1⟩

theorem tupleLt_eq_some {a b : α × β} {v : Bool} (h : tupleLt kind kind' a b = some v) :
    v = decide (toLex a < toLex b) := by
  have hlex := Prod.Lex.toLex_lt_toLex (x := a) (y := b)
  rw [tupleLt] at h
  split_ifs at h with heq
  · rw [(valueLt_eq_some_iff.1 h).2, decide_eq_decide, hlex, heq]
    exact ⟨fun hlt => .inr ⟨rfl, hlt⟩, fun hor => (hor.resolve_left (lt_irrefl _)).2⟩
  · rw [(valueLt_eq_some_iff.1 h).2, decide_eq_decide, hlex]
    exact ⟨.inl, fun hor => hor.resolve_right fun hand => heq hand.1⟩

theorem compares_tupleLt :
    Compares (tupleLt kind kind') fun a b => toLex a ≤ toLex b where
  agrees := by
    intro a b v h
    rw [tupleLt_eq_some h, decide_eq_true_eq, not_le]
  self := by
    intro a h
    rcases tupleLt_eq_none_iff.1 h with hne | hne
    · exact hne rfl
    · exact hne.2 rfl
  symm := by
    intro a b h
    refine tupleLt_eq_none_iff.2 ?_
    rcases tupleLt_eq_none_iff.1 h with hne | hne
    · exact .inl hne.symm
    · exact .inr ⟨hne.1.symm, hne.2.symm⟩
  gap := by
    intro a b c hab hbc hcb hca
    have hlt : ¬ toLex c < toLex a := of_decide_eq_false (tupleLt_eq_some hca).symm
    have hca' : ¬ (kind c.1 ≠ kind a.1 ∨ c.1 = a.1 ∧ kind' c.2 ≠ kind' a.2) := by
      rw [← tupleLt_eq_none_iff, hca]
      exact Option.some_ne_none false
    have hbc' : ¬ (kind b.1 ≠ kind c.1 ∨ b.1 = c.1 ∧ kind' b.2 ≠ kind' c.2) := by
      rwa [← tupleLt_eq_none_iff]
    push Not at hca' hbc'
    rcases tupleLt_eq_none_iff.1 hab with hne | ⟨heq, hne⟩
    · exact hne (hbc'.1.trans hca'.1)
    · -- `c` is in front of `b` and not in front of `a`, whose first entries are the same
      rw [Prod.Lex.toLex_lt_toLex, not_or] at hlt
      have hfirst : c.1 = b.1 := by
        rcases Prod.Lex.toLex_le_toLex.1 hcb with hcb | hcb
        · exact absurd (heq ▸ hcb) hlt.1
        · exact hcb.1
      exact hne ((hbc'.2 hfirst.symm).trans (hca'.2 (hfirst.trans heq)))

end

end ListSort

/-- Of two items of a list, one comes first. -/
theorem pair_sublist_or {l : List α} {a b : α} (hne : a ≠ b) (ha : a ∈ l) (hb : b ∈ l) :
    [a, b].Sublist l ∨ [b, a].Sublist l := by
  induction l with
  | nil => exact absurd ha List.not_mem_nil
  | cons c rest ih =>
    rcases List.mem_cons.1 ha with rfl | ha'
    · rcases List.mem_cons.1 hb with rfl | hb'
      · exact absurd rfl hne
      · exact .inl (List.cons_sublist_cons.2 (List.singleton_sublist.2 hb'))
    · rcases List.mem_cons.1 hb with rfl | hb'
      · exact .inr (List.cons_sublist_cons.2 (List.singleton_sublist.2 ha'))
      · exact (ih ha' hb').imp (fun h => h.cons c) (fun h => h.cons c)

/-- What comes before what in a sorted list: equal items stay in their order. -/
theorem pair_sublist_orderBy_iff {r : α → α → Prop} [DecidableRel r] [IsTrans α r] [Std.Total r]
    {rows : List α} {a b : α} (ha : a ∈ rows) (hb : b ∈ rows) :
    [a, b].Sublist (orderBy r rows) ↔ r a b ∧ (r b a → [a, b].Sublist rows) := by
  have hsorted : (orderBy r rows).Pairwise r := List.pairwise_insertionSort r rows
  constructor
  · intro h
    have hab : r a b := List.pairwise_pair.1 (hsorted.sublist h)
    refine ⟨hab, fun hba => ?_⟩
    -- the items that are equal to `a` are in the order of the input
    let tied c := decide (r a c) && decide (r c a)
    have hties : (rows.filter tied).Pairwise r := by
      refine List.pairwise_of_forall_mem_list fun c hc d hd => ?_
      have hc' := List.of_mem_filter hc
      have hd' := List.of_mem_filter hd
      simp only [tied, Bool.and_eq_true, decide_eq_true_eq] at hc' hd'
      exact trans_of r hc'.2 hd'.1
    have hfilter : (orderBy r rows).filter tied = rows.filter tied := by
      rw [filter_orderBy, orderBy, hties.insertionSort_eq]
    have hpair : [a, b].filter tied = [a, b] := by
      have haa : r a a := trans_of r hab hba
      simp only [tied, List.filter_cons, haa, hab, hba, decide_true, Bool.and_self, if_true,
        List.filter_nil]
    have htied : [a, b].Sublist (rows.filter tied) := by
      rw [← hpair, ← hfilter]
      exact h.filter tied
    exact htied.trans List.filter_sublist
  · rintro ⟨hab, hties⟩
    by_cases hba : r b a
    · exact List.pair_sublist_insertionSort hab (hties hba)
    · have hne : a ≠ b := by
        rintro rfl
        exact hba hab
      have ha' : a ∈ orderBy r rows := mem_orderBy.2 ha
      have hb' : b ∈ orderBy r rows := mem_orderBy.2 hb
      rcases pair_sublist_or hne ha' hb' with h | h
      · exact h
      · exact absurd (List.pairwise_pair.1 (hsorted.sublist h)) hba

end OmsWmsTms
