import OmsWmsTms.Control.Except
import OmsWmsTms.Oms.Effects
import Mathlib.Algebra.BigOperators.Group.Finset.Basic

/-!
# What a split conserves

`split_order` looks a requested SKU up among the identifiers of the parent's lines, although a
request names a SKU code, and compares no quantity and no total with the parent's.

* `SplitInto` : the child orders that a split has made, with their lines and links;
  `ensures_splitOrder` : what `split_order` commits.
* `Conserves` : the parent is alive, and its children take no more than it has.
* `FitsParent` : the condition on the request.
* `splitOrder_conserves_iff` : an accepted split conserves the order exactly when the request meets
  the condition.
-/

namespace OmsWmsTms

namespace Oms

open Txn (Prog Writes Ensures ensures_bind ensures_insertOr)

/-! ### What a split commits -/

/-- The line of the parent that the code finds for an item. -/
def origLine (parentItems : List OrderItem) (item : SplitItem) : Option OrderItem :=
  parentItems.find? fun oi => skuIdText oi.skuId = item.sku

/-- The SKU of the line that is made for an item. -/
def splitSku (parentItems : List OrderItem) (item : SplitItem) : Option Uuid :=
  (origLine parentItems item).bind OrderItem.skuId

/-- Its price. -/
def splitPrice (parentItems : List OrderItem) (item : SplitItem) : ℚ :=
  ((origLine parentItems item).map fun oi => (oi.unitPrice : ℚ)).getD 0

/-- The total of a child order. -/
def splitTotal (parentItems : List OrderItem) (items : List SplitItem) : ℚ :=
  (items.map fun item => splitPrice parentItems item * item.quantity).sum

/-- The line that is made for an item. -/
structure IsSplitLine (parentItems : List OrderItem) (childId : Uuid) (item : SplitItem)
    (line : OrderItem) : Prop where
  orderId : line.orderId = childId
  skuId : line.skuId = splitSku parentItems item
  quantity : line.quantity = item.quantity
  unitPrice : (line.unitPrice : ℚ) = splitPrice parentItems item

/-- A child order with its lines and its link to the parent. -/
structure Child where
  /-- The order. -/
  order : Order
  /-- The lines. -/
  lines : List OrderItem
  /-- The link. -/
  link : SplitChildOrder

/-- The child order that is made for a split of the order `parentId`. -/
structure IsChild (parentId : Uuid) (parentItems : List OrderItem) (split : Split) (child : Child) :
    Prop where
  lines : List.Forall₂ (IsSplitLine parentItems child.order.id) split.items child.lines
  total : (child.order.totalAmount : ℚ) = Numeric.rounded 2 (splitTotal parentItems split.items)
  link : child.link.parentOrderId = some parentId ∧ child.link.childOrderId = child.order.id

/-- The rows `w` are the rows `d` with some child orders. -/
structure SplitInto (parentId : Uuid) (parentItems : List OrderItem) (splits : List Split)
    (d w : OmsDb) (children : List Child) : Prop where
  isChild : List.Forall₂ (IsChild parentId parentItems) splits children
  nodup : (children.map fun child => child.order.id).Nodup
  free : ∀ child ∈ children, orderAt d (.order child.order.id) = none
  orderAt_child : ∀ child ∈ children, orderAt w (.order child.order.id) = some child.order
  orderAt_old : ∀ key order, orderAt d key = some order → orderAt w key = some order
  orderItems_eq : orderItems w = orderItems d ++ children.flatMap Child.lines
  links_eq : links w = links d ++ children.map Child.link

section Effects

variable {C : OmsDb → OmsDb → Prop} {d w : OmsDb}

theorem ensures_insertItem {post : Unit → OmsDb → OmsDb → Prop} {orderId : Uuid}
    {skuId : Option Uuid} {gtin name : String} {quantity : ℤ} {unitPrice : ℚ}
    (h : ∀ line : OrderItem, line.orderId = orderId → line.skuId = skuId →
      line.quantity = quantity → storeNumeric unitPrice = .ok line.unitPrice →
      w.get? (.orderItem line.id) = none →
      post () d (w.set (.orderItem line.id) (.orderItem line))) :
    Ensures C post (insertItem orderId skuId gtin name quantity unitPrice) d w := by
  refine ensures_bind.2 fun n => ?_
  simp only [Prog.bind_eq, ensures_bind, Txn.ensures_ofExcept, ensures_insertOr]
  intro gtin' _ name' _ quantity' hquantity unitPrice' hprice hfree
  exact h ⟨n, orderId, skuId, gtin', name', quantity', unitPrice', false, none⟩ rfl rfl
    (storeInt_eq_ok_iff.1 hquantity).2.symm hprice hfree

/-- The lines that have been made for the items of a child. -/
structure LinesInv (parentItems : List OrderItem) (childId : Uuid) (items : List SplitItem)
    (d₀ w₀ : OmsDb) (rest : List SplitItem) (total : ℚ) (d w : OmsDb) : Prop where
  committed : d = d₀
  lines : ∃ done lines, done ++ rest = items ∧ total = splitTotal parentItems done ∧
    List.Forall₂ (IsSplitLine parentItems childId) done lines ∧
    orderItems w = orderItems w₀ ++ lines
  frame : Extends [.orderItem] w₀ w

/-- The price of a line of the parent is stored as it is. -/
theorem toRat_of_storeNumeric_splitPrice {parentItems : List OrderItem} {item : SplitItem}
    {price : Numeric 18 4} (h : storeNumeric (splitPrice parentItems item) = .ok price) :
    (price : ℚ) = splitPrice parentItems item := by
  refine Numeric.toRat_of_ofRat? ?_ (storeNumeric_eq_ok_iff.1 h)
  unfold splitPrice
  cases origLine parentItems item with
  | none => exact OnGrid.intCast 0
  | some oi => exact oi.unitPrice.onGrid

theorem ensures_splitItem {parentItems : List OrderItem} {childId : Uuid} {items : List SplitItem}
    {d₀ w₀ : OmsDb} {item : SplitItem} {rest : List SplitItem} {total : ℚ}
    (h : LinesInv parentItems childId items d₀ w₀ (item :: rest) total d w) :
    Ensures C (fun total => LinesInv parentItems childId items d₀ w₀ rest total)
      (splitItem childId parentItems total item) d w := by
  refine ensures_bind.2 (ensures_insertItem fun line horder hsku hquantity hprice hfree => ?_)
  obtain ⟨done, lines, hdone, rfl, hlines, hitems⟩ := h.lines
  refine ⟨h.committed, ⟨done ++ [item], lines ++ [line], by simp [← hdone], ?_, ?_, ?_⟩,
    h.frame.insert ⟨hfree, rfl, by simp [OmsRow.table]⟩⟩
  · simp [splitTotal, splitPrice, origLine]
  · exact List.rel_append hlines
      (.cons ⟨horder, hsku, hquantity, toRat_of_storeNumeric_splitPrice hprice⟩ .nil)
  · rw [orderItems, Txn.rows_set_of_none hfree]
    change orderItems w ++ [line] = _
    rw [hitems, List.append_assoc]

theorem SplitInto.refl (parentId : Uuid) (parentItems : List OrderItem) (d : OmsDb) :
    SplitInto parentId parentItems [] d d [] where
  isChild := .nil
  nodup := .nil
  free _ h := nomatch h
  orderAt_child _ h := nomatch h
  orderAt_old _ _ h := h
  orderItems_eq := (List.append_nil _).symm
  links_eq := (List.append_nil _).symm

/-- One more child order. -/
theorem SplitInto.concat {parentId : Uuid} {parentItems : List OrderItem} {splits : List Split}
    {children : List Child} {split : Split} {child : Child} {w' : OmsDb}
    (h : SplitInto parentId parentItems splits d w children)
    (hchild : IsChild parentId parentItems split child)
    (hfree : orderAt w (.order child.order.id) = none)
    (horderAt : ∀ key, orderAt w' key =
      if .order child.order.id = key then some child.order else orderAt w key)
    (hitems : orderItems w' = orderItems w ++ child.lines)
    (hlinks : links w' = links w ++ [child.link]) :
    SplitInto parentId parentItems (splits ++ [split]) d w' (children ++ [child]) := by
  have hne (c : Child) (hc : c ∈ children) : child.order.id ≠ c.order.id := by
    intro heq
    have := h.orderAt_child c hc
    rw [← heq, hfree] at this
    cases this
  have hold (key : OmsKey) (order : Order) (horder : orderAt w key = some order) :
      orderAt w' key = some order := by
    rw [horderAt, if_neg, horder]
    rintro rfl
    rw [hfree] at horder
    cases horder
  constructor
  case isChild => exact List.rel_append h.isChild (.cons hchild .nil)
  case nodup =>
    rw [List.map_append, List.nodup_append]
    refine ⟨h.nodup, List.nodup_singleton _, fun id hid id' hid' heq => ?_⟩
    obtain ⟨c, hc, rfl⟩ := List.mem_map.1 hid
    rw [List.map_singleton, List.mem_singleton] at hid'
    exact hne c hc (hid'.symm.trans heq.symm)
  case free =>
    intro c hc
    rcases List.mem_append.1 hc with hc | hc
    · exact h.free c hc
    · obtain rfl := List.mem_singleton.1 hc
      refine Option.eq_none_iff_forall_ne_some.2 fun order horder => ?_
      rw [h.orderAt_old _ _ horder] at hfree
      cases hfree
  case orderAt_child =>
    intro c hc
    rcases List.mem_append.1 hc with hc | hc
    · exact hold _ _ (h.orderAt_child c hc)
    · obtain rfl := List.mem_singleton.1 hc
      rw [horderAt, if_pos rfl]
  case orderAt_old => exact fun key order horder => hold key order (h.orderAt_old key order horder)
  case orderItems_eq => rw [hitems, h.orderItems_eq]; simp
  case links_eq => rw [hlinks, h.links_eq]; simp

/-- What `split_order` has done for the splits before the rest. -/
def SplitInv (parentId : Uuid) (parentItems : List OrderItem) (splits : List Split) (d₀ : OmsDb)
    (rest : List Split) (_ : List OrderDict) (d w : OmsDb) : Prop :=
  d = d₀ ∧ ∃ done children, done ++ rest = splits ∧
    SplitInto parentId parentItems done d₀ w children

theorem ensures_splitChild {now : ℤ} {order : Order} {parentItems : List OrderItem}
    {reason : String} {splits rest : List Split} {d₀ : OmsDb} {dicts : List OrderDict}
    {split : Split} (h : SplitInv order.id parentItems splits d₀ (split :: rest) dicts d w) :
    Ensures C (SplitInv order.id parentItems splits d₀ rest)
      (splitChild now order parentItems reason dicts split) d w := by
  obtain ⟨rfl, done, children, hdone, hinto⟩ := h
  refine ensures_bind.2 fun id => ?_
  simp only [Prog.bind_eq, insertOrder, ensures_bind, Txn.ensures_ofExcept, ensures_insertOr]
  intro number _ hnumber hfree
  generalize horder₀ : Order.mk id number _ _ _ _ _ _ _ _ _ _ = child₀
  obtain rfl : child₀.id = id := by rw [← horder₀]
  generalize hw₁ : w.set (.orderNo number) (.orderNo child₀.id) = w₁ at hfree ⊢
  have hext₁ : Extends [.orderNo] w w₁ := hw₁ ▸ extends_set (.orderNo child₀.id) hnumber trivial
  have hext₂ : Extends [.order] w₁ (w₁.set (.order child₀.id) (.order child₀)) :=
    extends_set (.order child₀) hfree rfl
  generalize hw₂ : w₁.set (.order child₀.id) (.order child₀) = w₂ at hext₂ ⊢
  -- the lines come between the order and its link
  refine (Ensures.foldEach (fun item rest total d w => ensures_splitItem) split.items 0
    ⟨rfl, ⟨[], [], rfl, rfl, .nil, (List.append_nil _).symm⟩, .refl _ w₂⟩).mono ?_
  rintro total d w₃ ⟨rfl, ⟨items, lines, hitems, rfl, hlines, horderItems⟩, hext₃⟩
  rw [List.append_nil] at hitems
  subst hitems
  refine ensures_bind.2 fun n => ensures_insertOr.2 fun hlinkFree => ?_
  generalize hlink : SplitChildOrder.mk n _ _ _ _ = link
  have hext₄ : Extends [.splitChildOrder] w₃
    (w₃.set (.splitChildOrder n) (.splitChildOrder link)) :=
    extends_set (.splitChildOrder link) hlinkFree (by rw [← hlink]; rfl)
  generalize hw₄ : w₃.set (.splitChildOrder n) (.splitChildOrder link) = w₄ at hext₄ ⊢
  intro totalAmount htotal
  rw [Txn.ensures_updateOr]
  intro row hrow
  have hchild₀ : w₂.get? (.order child₀.id) = some (.order child₀) := by
    rw [← hw₂, Dict.get?_set, if_pos rfl]
  obtain rfl : row = .order child₀ :=
    Option.some.inj (hrow.symm.trans (hext₄.get? _ _ (hext₃.get? _ _ hchild₀)))
  refine (Ensures.reads (reads_orderToDict _ _)).mono fun dict d' w' hdict => ?_
  obtain ⟨rfl, rfl⟩ := hdict
  refine ⟨rfl, done ++ [split], children ++ [⟨{ child₀ with totalAmount }, lines, link⟩],
    by simp [← hdone], hinto.concat ⟨?_, ?_, ?_⟩ ?_ (fun key => ?_) ?_ ?_⟩
  · exact hlines
  · exact Numeric.toRat_eq_rounded (storeNumeric_eq_ok_iff.1 htotal)
  · rw [← hlink]
    exact ⟨rfl, rfl⟩
  · rw [← hext₁.orderAt_eq (by decide), orderAt, hfree]
    rfl
  · rw [orderAt_set, hext₄.orderAt_eq (by decide), hext₃.orderAt_eq (by decide), ← hw₂,
      orderAt_set, hext₁.orderAt_eq (by decide)]
    split_ifs <;> rfl
  · have hset : orderItems (w₄.set (.order child₀.id) (.order { child₀ with totalAmount })) =
        orderItems w₄ := Txn.rows_set_of_eq hrow rfl
    change orderItems (w₄.set (.order child₀.id) (.order { child₀ with totalAmount })) = _
    rw [hset, hext₄.orderItems_eq (by decide), horderItems, hext₂.orderItems_eq (by decide),
      hext₁.orderItems_eq (by decide)]
  · have hset : links (w₄.set (.order child₀.id) (.order { child₀ with totalAmount })) = links w₄ :=
      Txn.rows_set_of_eq hrow rfl
    change links (w₄.set (.order child₀.id) (.order { child₀ with totalAmount })) = _
    rw [hset, ← hw₄, links, Txn.rows_set_of_none hlinkFree]
    change links w₃ ++ [link] = _
    rw [hext₃.links_eq (by decide), hext₂.links_eq (by decide), hext₁.links_eq (by decide)]

/-- The rows `w` are the rows `d` after an accepted split. -/
def IsSplit (orderId : IdArg) (splits : List Split) (d w : OmsDb) : Prop :=
  ∃ id order children, orderId.uuid? = some id ∧ orderAt d (.order id) = some order ∧
    SplitInto order.id (linesOf d id) splits d w children

/-- **What `split_order` commits.** -/
theorem ensures_splitOrder (now : ℤ) (orderId : IdArg) (splits : List Split) (reason : String)
    (d : OmsDb) (hC : ∀ w, IsSplit orderId splits d w → C d w) :
    Ensures C (fun _ d' _ => IsSplit orderId splits d d') (splitOrder now orderId splits reason)
      d d := by
  unfold splitOrder toUuid
  cases hid : orderId.uuid? with
  | none => trivial
  | some id =>
    simp only [Prog.ret_bind, Prog.pure_eq, Prog.bind_eq, ensures_bind, ensures_selectOrder]
    cases horder : orderAt d (.order id) with
    | none => trivial
    | some order =>
      refine ensures_bind.2 (ensures_selectItems fun items hitems => ensures_bind.2 ?_)
      rw [hitems]
      refine (Ensures.foldEach (fun split rest dicts d w => ensures_splitChild) splits []
        ⟨rfl, [], [], rfl, .refl order.id (linesOf d id) d⟩).mono ?_
      rintro dicts d' w ⟨rfl, done, children, hdone, hinto⟩
      obtain rfl : done = splits := by simpa using hdone
      have hsplit : IsSplit orderId done d' w := ⟨id, order, children, hid, horder, hinto⟩
      exact ensures_bind.2 (Txn.ensures_commitOr.2 ⟨hC w hsplit, hsplit⟩)

end Effects

/-! ### Conservation -/

/-- The child orders of an order. -/
def childIds (d : OmsDb) (id : Uuid) : Finset Uuid :=
  (((links d).filter fun link => link.parentOrderId = some id).map
    SplitChildOrder.childOrderId).toFinset

/-- Their lines. -/
def childLines (d : OmsDb) (id : Uuid) : List OrderItem :=
  (orderItems d).filter fun item => item.orderId ∈ childIds d id

/-- The quantity of a SKU in some lines. -/
def skuQuantity (sku : Uuid) (lines : List OrderItem) : ℤ :=
  ((lines.filter fun line => line.skuId = some sku).map OrderItem.quantity).sum

/-- The total of the child orders. -/
def childTotal (d : OmsDb) (id : Uuid) : ℚ := ∑ child ∈ childIds d id, totalAt d child

/-- The SKU with a code. -/
def NamesSku (d : OmsDb) (code : String) (id : Uuid) : Prop :=
  ∃ sku, d.get? (.sku code) = some (.sku sku) ∧ sku.id = id

/-- The line has the SKU that the item names, and the price of a line of the parent with it. -/
def MatchesParent (d : OmsDb) (parentItems : List OrderItem) (item : SplitItem)
    (line : OrderItem) : Prop :=
  ∃ oi ∈ parentItems, ∃ sku, oi.skuId = some sku ∧ NamesSku d item.sku sku ∧
    line.skuId = oi.skuId ∧ line.unitPrice = oi.unitPrice

/-- The order is neither deleted nor in a terminal status. -/
def Alive (d : OmsDb) (id : Uuid) : Prop :=
  ∃ order, orderAt d (.order id) = some order ∧ order.isDeleted = false ∧ ¬ Terminal order.status

/-- **The split of an order conserves it**, together with the splits before it. -/
structure Conserves (splits : List Split) (id : Uuid) (d d' : OmsDb) : Prop where
  alive : Alive d id
  lines : ∃ lines, orderItems d' = orderItems d ++ lines ∧
    List.Forall₂ (MatchesParent d (linesOf d id)) (splits.flatMap Split.items) lines
  nonneg : ∀ line ∈ childLines d' id, 0 ≤ line.quantity
  quantity_le : ∀ sku, skuQuantity sku (childLines d' id) ≤ skuQuantity sku (linesOf d' id)
  total_le : childTotal d' id ≤ totalAt d' id

/-- The quantity of a SKU that is asked for. -/
def requested (parentItems : List OrderItem) (splits : List Split) (sku : Uuid) : ℤ :=
  (((splits.flatMap Split.items).filter fun item => splitSku parentItems item = some sku).map
    SplitItem.quantity).sum

/-- **The request fits the parent**: each item names, by its code, the SKU of the line that is found
for it, and no more is asked for than is left. -/
structure FitsParent (splits : List Split) (id : Uuid) (d : OmsDb) : Prop where
  alive : Alive d id
  named : ∀ item ∈ splits.flatMap Split.items, ∃ sku,
    splitSku (linesOf d id) item = some sku ∧ NamesSku d item.sku sku
  nonneg : (∀ line ∈ childLines d id, 0 ≤ line.quantity) ∧
    ∀ item ∈ splits.flatMap Split.items, 0 ≤ item.quantity
  quantity_le : ∀ sku, skuQuantity sku (childLines d id) + requested (linesOf d id) splits sku ≤
    skuQuantity sku (linesOf d id)
  total_le : childTotal d id + (splits.map fun split =>
    Numeric.rounded 2 (splitTotal (linesOf d id) split.items)).sum ≤ totalAt d id

section Conserves

variable {d w : OmsDb} {id : Uuid} {order : Order} {splits : List Split} {children : List Child}
  {parentItems : List OrderItem}

/-- The lines of all children, item by item. -/
theorem SplitInto.lines (h : SplitInto id parentItems splits d w children) :
    List.Forall₂ (fun item line => ∃ child ∈ children,
      IsSplitLine parentItems child.order.id item line) (splits.flatMap Split.items)
      (children.flatMap Child.lines) := by
  have hchildren := h.isChild
  clear h
  induction hchildren with
  | nil => exact .nil
  | cons hchild _ ih =>
    rw [List.flatMap_cons, List.flatMap_cons]
    refine List.rel_append (hchild.lines.imp fun item line hline => ?_)
      (ih.imp fun item line hline => ?_)
    · exact ⟨_, List.mem_cons_self, hline⟩
    · obtain ⟨child, hmem, hline⟩ := hline
      exact ⟨child, List.mem_cons_of_mem _ hmem, hline⟩

theorem SplitInto.childIds_eq (h : SplitInto id parentItems splits d w children) :
    childIds w id = childIds d id ∪ (children.map fun child => child.order.id).toFinset := by
  have hmap : ((children.map Child.link).filter fun link => link.parentOrderId = some id).map
      SplitChildOrder.childOrderId = children.map fun child => child.order.id := by
    have hchildren := h.isChild
    clear h
    induction hchildren with
    | nil => rfl
    | cons hchild _ ih =>
      rw [List.map_cons, List.filter_cons, if_pos (by simp [hchild.link.1]), List.map_cons, ih,
        List.map_cons, hchild.link.2]
  rw [childIds, h.links_eq, List.filter_append, List.map_append, hmap, List.toFinset_append]
  rfl

/-- A new child is no order of the rows before. -/
theorem SplitInto.ne_of_mem (h : SplitInto id parentItems splits d w children) {child : Child}
    (hchild : child ∈ children) {id' : Uuid} (hid' : orderAt d (.order id') ≠ none) :
    id' ≠ child.order.id := by
  rintro rfl
  exact hid' (h.free child hchild)

theorem SplitInto.disjoint (h : SplitInto id parentItems splits d w children)
    (hfk : ForeignKeys d) :
    Disjoint (childIds d id) (children.map fun child => child.order.id).toFinset := by
  refine Finset.disjoint_left.2 fun id' hold hnew => ?_
  rw [childIds, List.mem_toFinset, List.mem_map] at hold
  obtain ⟨link, hlink, rfl⟩ := hold
  rw [List.mem_toFinset, List.mem_map] at hnew
  obtain ⟨child, hchild, heq⟩ := hnew
  exact h.ne_of_mem hchild (hfk.link link (List.mem_of_mem_filter hlink)) heq.symm

theorem SplitInto.childLines_eq (h : SplitInto id parentItems splits d w children)
    (hfk : ForeignKeys d) :
    childLines w id = childLines d id ++ children.flatMap Child.lines := by
  rw [childLines, childLines, h.orderItems_eq, List.filter_append, h.childIds_eq]
  congr 1
  · refine List.filter_congr fun item hitem => ?_
    have hnot : item.orderId ∉ children.map fun child => child.order.id := by
      intro hmem
      obtain ⟨child, hchild, heq⟩ := List.mem_map.1 hmem
      exact h.ne_of_mem hchild (hfk.orderItem item hitem) heq.symm
    simp only [Finset.mem_union, List.mem_toFinset, hnot, or_false]
  · refine List.filter_eq_self.2 fun line hline => ?_
    obtain ⟨item, -, child, hchild, hsplit⟩ := forall₂_exists_left h.lines hline
    simp only [decide_eq_true_eq, Finset.mem_union, List.mem_toFinset]
    exact .inr (List.mem_map.2 ⟨child, hchild, hsplit.orderId.symm⟩)

theorem SplitInto.linesOf_eq (h : SplitInto id parentItems splits d w children)
    (hid : orderAt d (.order id) ≠ none) : linesOf w id = linesOf d id := by
  have hnew : (children.flatMap Child.lines).filter (fun item => item.orderId = id) = [] := by
    refine List.filter_eq_nil_iff.2 fun line hline hline' => ?_
    obtain ⟨item, -, child, hchild, hsplit⟩ := forall₂_exists_left h.lines hline
    exact h.ne_of_mem hchild hid ((of_decide_eq_true hline').symm.trans hsplit.orderId)
  rw [linesOf, h.orderItems_eq, List.filter_append, hnew, List.append_nil]
  rfl

theorem SplitInto.totalAt_eq (h : SplitInto id parentItems splits d w children) {id' : Uuid}
    (hid' : orderAt d (.order id') ≠ none) : totalAt w id' = totalAt d id' := by
  obtain ⟨order, horder⟩ := Option.ne_none_iff_exists'.1 hid'
  rw [totalAt, totalAt, h.orderAt_old _ _ horder, horder]

theorem SplitInto.childTotal_eq (h : SplitInto id parentItems splits d w children)
    (hfk : ForeignKeys d) : childTotal w id = childTotal d id + (splits.map fun split =>
      Numeric.rounded 2 (splitTotal parentItems split.items)).sum := by
  have hold : ∑ child ∈ childIds d id, totalAt w child = childTotal d id := by
    refine Finset.sum_congr rfl fun id' hid' => h.totalAt_eq ?_
    rw [childIds, List.mem_toFinset, List.mem_map] at hid'
    obtain ⟨link, hlink, rfl⟩ := hid'
    exact hfk.link link (List.mem_of_mem_filter hlink)
  have hnew : ∀ child ∈ children, totalAt w child.order.id = child.order.totalAmount := by
    intro child hchild
    rw [totalAt, h.orderAt_child child hchild]
    rfl
  have htotals : splits.map (fun split => Numeric.rounded 2 (splitTotal parentItems split.items)) =
      children.map fun child => (child.order.totalAmount : ℚ) :=
    (map_eq_map_of_forall₂ h.isChild fun _ _ hchild => hchild.total).symm
  rw [childTotal, h.childIds_eq, Finset.sum_union (h.disjoint hfk), hold, htotals,
    List.sum_toFinset _ h.nodup, List.map_map]
  exact congrArg _ (congrArg _ (List.map_congr_left hnew))

/-- The quantity of a SKU in the lines of the children is the one that was asked for. -/
theorem SplitInto.skuQuantity_eq (h : SplitInto id parentItems splits d w children) (sku : Uuid) :
    skuQuantity sku (children.flatMap Child.lines) = requested parentItems splits sku := by
  have hlines := h.lines
  unfold skuQuantity requested
  generalize splits.flatMap Split.items = items, children.flatMap Child.lines = lines at hlines ⊢
  induction hlines with
  | nil => rfl
  | cons hline _ ih =>
    obtain ⟨child, -, hsplit⟩ := hline
    rw [List.filter_cons, List.filter_cons, hsplit.skuId]
    split_ifs
    · rw [List.map_cons, List.map_cons, List.sum_cons, List.sum_cons, hsplit.quantity, ih]
    · exact ih

theorem skuQuantity_append (sku : Uuid) (lines lines' : List OrderItem) :
    skuQuantity sku (lines ++ lines') = skuQuantity sku lines + skuQuantity sku lines' := by
  rw [skuQuantity, List.filter_append, List.map_append, List.sum_append]
  rfl

/-- The line that is made for an item matches the parent when the lookup has found the SKU that the
item names. -/
theorem matchesParent_iff {item : SplitItem} {line : OrderItem} {childId : Uuid}
    (h : IsSplitLine parentItems childId item line) :
    MatchesParent d parentItems item line ↔
      ∃ sku, splitSku parentItems item = some sku ∧ NamesSku d item.sku sku := by
  constructor
  · rintro ⟨oi, -, sku, hsku, hnames, hline, -⟩
    exact ⟨sku, by rw [← h.skuId, hline, hsku], hnames⟩
  · rintro ⟨sku, hsku, hnames⟩
    obtain ⟨oi, horig, hoi⟩ := Option.bind_eq_some_iff.1 hsku
    refine ⟨oi, List.mem_of_find?_eq_some horig, sku, hoi, hnames, ?_, Numeric.toRat_injective ?_⟩
    · rw [h.skuId, hsku, hoi]
    · rw [h.unitPrice, splitPrice, horig]
      rfl

theorem SplitInto.matchesParent_iff (h : SplitInto id parentItems splits d w children) :
    (∃ lines, orderItems w = orderItems d ++ lines ∧
      List.Forall₂ (MatchesParent d parentItems) (splits.flatMap Split.items) lines) ↔
    ∀ item ∈ splits.flatMap Split.items, ∃ sku,
      splitSku parentItems item = some sku ∧ NamesSku d item.sku sku := by
  constructor
  · rintro ⟨lines, hlines, hmatches⟩
    obtain rfl : children.flatMap Child.lines = lines :=
      List.append_cancel_left (h.orderItems_eq.symm.trans hlines)
    have hboth : List.Forall₂ (fun item _ => (∃ sku, splitSku parentItems item = some sku ∧
        NamesSku d item.sku sku) ∧ True) (splits.flatMap Split.items)
        (children.flatMap Child.lines) := by
      refine List.Forall₂.mp (fun item line hline hmatch => ?_) h.lines hmatches
      obtain ⟨child, -, hsplit⟩ := hline
      exact ⟨(Oms.matchesParent_iff hsplit).1 hmatch, trivial⟩
    exact ((List.forall₂_and_left _ _).1 hboth).1
  · intro hnamed
    have hboth := (List.forall₂_and_left _ _).2 ⟨hnamed, h.lines⟩
    refine ⟨_, h.orderItems_eq, hboth.imp fun item line hline => ?_⟩
    obtain ⟨hitem, child, -, hsplit⟩ := hline
    exact (Oms.matchesParent_iff hsplit).2 hitem

/-- No line of a child is negative exactly when no line was and none is asked for. -/
theorem SplitInto.nonneg_iff (h : SplitInto id parentItems splits d w children)
    (hfk : ForeignKeys d) : (∀ line ∈ childLines w id, 0 ≤ line.quantity) ↔
      (∀ line ∈ childLines d id, 0 ≤ line.quantity) ∧
      ∀ item ∈ splits.flatMap Split.items, 0 ≤ item.quantity := by
  rw [h.childLines_eq hfk, List.forall_mem_append]
  refine and_congr_right fun _ => ?_
  have hlines := h.lines
  generalize splits.flatMap Split.items = items, children.flatMap Child.lines = lines at hlines ⊢
  induction hlines with
  | nil => simp
  | cons hline _ ih =>
    obtain ⟨child, -, hsplit⟩ := hline
    rw [List.forall_mem_cons, List.forall_mem_cons, hsplit.quantity]
    exact and_congr_right fun _ => ih

/-- **A split conserves the order exactly when the request fits it.** -/
theorem SplitInto.conserves_iff (h : SplitInto id (linesOf d id) splits d w children)
    (hfk : ForeignKeys d) (hid : orderAt d (.order id) ≠ none) :
    Conserves splits id d w ↔ FitsParent splits id d := by
  have hquantity (sku : Uuid) : skuQuantity sku (childLines w id) =
      skuQuantity sku (childLines d id) + requested (linesOf d id) splits sku := by
    rw [h.childLines_eq hfk, skuQuantity_append, h.skuQuantity_eq]
  constructor
  · rintro ⟨halive, hlines, hnonneg, hle, htotal⟩
    refine ⟨halive, h.matchesParent_iff.1 hlines, (h.nonneg_iff hfk).1 hnonneg, fun sku => ?_, ?_⟩
    · rw [← hquantity, ← h.linesOf_eq hid]
      exact hle sku
    · rw [← h.childTotal_eq hfk, ← h.totalAt_eq hid]
      exact htotal
  · rintro ⟨halive, hnamed, hnonneg, hle, htotal⟩
    refine ⟨halive, h.matchesParent_iff.2 hnamed, (h.nonneg_iff hfk).2 hnonneg, fun sku => ?_, ?_⟩
    · rw [hquantity, h.linesOf_eq hid]
      exact hle sku
    · rw [h.childTotal_eq hfk, h.totalAt_eq hid]
      exact htotal

end Conserves

/-- The rows of an accepted split conserve the order exactly when the request fits it. -/
theorem IsSplit.conserves_iff {orderId : IdArg} {splits : List Split} {d w : OmsDb} {id : Uuid}
    (h : IsSplit orderId splits d w) (hd : Keyed d) (hfk : ForeignKeys d)
    (hid : orderId.uuid? = some id) : Conserves splits id d w ↔ FitsParent splits id d := by
  obtain ⟨id', order, children, hid', horder, hinto⟩ := h
  obtain rfl : id = id' := Option.some.inj (hid.symm.trans hid')
  obtain rfl : order.id = id := hd _ _ (get?_of_orderAt horder)
  exact hinto.conserves_iff hfk (by rw [horder]; exact Option.some_ne_none _)

theorem isSplit_of_run {now : ℤ} {orderId : IdArg} {splits : List Split} {reason : String}
    {ids : ℕ → ℕ} {d : OmsDb} {dicts : List OrderDict}
    (h : ((splitOrder now orderId splits reason).run ids d).1 = .ok dicts) :
    IsSplit orderId splits d ((splitOrder now orderId splits reason).run ids d).2 :=
  ((ensures_splitOrder (C := fun _ _ => True) now orderId splits reason d
    fun _ _ => trivial).exec ids).2 dicts h

/-- **An accepted split conserves the order, with its earlier splits, exactly when the request fits
the order.** -/
theorem splitOrder_conserves_iff (now : ℤ) (orderId : IdArg) (splits : List Split)
    (reason : String) (ids : ℕ → ℕ) (d : OmsDb) (hd : Keyed d) (hfk : ForeignKeys d) (id : Uuid)
    (hid : orderId.uuid? = some id) (dicts : List OrderDict)
    (hok : ((splitOrder now orderId splits reason).run ids d).1 = .ok dicts) :
    Conserves splits id d ((splitOrder now orderId splits reason).run ids d).2 ↔
      FitsParent splits id d :=
  (isSplit_of_run hok).conserves_iff hd hfk hid

/-! ### A request by SKU code -/

theorem widgetOrder_fits : Int.natAbs 2000 < 10 ^ 18 := by decide

/-- A pending order of two widgets. -/
def widgetOrder : Order :=
  { cancelledOrder with status := .pending, totalAmount := ⟨2000, widgetOrder_fits⟩ }

/-- Its line. -/
def widgetLine : OrderItem where
  id := 3
  orderId := 1
  skuId := some 5
  gtin := ""
  name := "Widget"
  quantity := 2
  unitPrice := ⟨100000, by decide⟩
  isDeleted := false
  deletedAt := none

/-- The order, its line and the SKU, which has the code `code`. -/
def widgetDb (code : String) : OmsDb :=
  ((Dict.empty.set (.sku code) (.sku ⟨5, code, "Widget"⟩)).set (.order 1) (.order widgetOrder)).set
    (.orderItem 3) (.orderItem widgetLine)

/-- A split that asks for one widget. -/
def widgetSplits (code : String) : List Split := [{ items := [{ sku := code, quantity := 1 }] }]

theorem keyed_widgetDb (code : String) : Keyed (widgetDb code) := by
  intro key row h
  simp only [widgetDb, Dict.get?_set] at h
  split_ifs at h with h₁ h₂ h₃
  · subst h₁; cases h; rfl
  · subst h₂; cases h; rfl
  · subst h₃; cases h; rfl
  · cases h

theorem foreignKeys_widgetDb (code : String) : ForeignKeys (widgetDb code) where
  orderItem item hitem := by
    obtain rfl : item = widgetLine := List.mem_singleton.1 hitem
    exact Option.some_ne_none widgetOrder
  link link hlink := nomatch hlink
  group link hlink := nomatch hlink

/-- What a call asks for one widget by its code. -/
def widgetCall (code : String) : Except ServiceError (List OrderDict) × OmsDb :=
  (splitOrder 7 ⟨"1", some 1⟩ (widgetSplits code)).run (fun n => n + 10) (widgetDb code)

theorem widgetSplits_fit : FitsParent (widgetSplits (Uuid.text 5)) 1 (widgetDb (Uuid.text 5)) := by
  have hitems : (widgetSplits (Uuid.text 5)).flatMap Split.items =
      [{ sku := Uuid.text 5, quantity := 1 }] := rfl
  have hlines : linesOf (widgetDb (Uuid.text 5)) 1 = [widgetLine] := by decide +kernel
  have hchildren : childLines (widgetDb (Uuid.text 5)) 1 = [] := by decide +kernel
  have hsplit : splitSku [widgetLine] { sku := Uuid.text 5, quantity := 1 } = some 5 := by
    decide +kernel
  constructor
  case alive => exact ⟨widgetOrder, rfl, rfl, by decide⟩
  case named =>
    rw [hitems, hlines]
    intro item hitem
    obtain rfl := List.mem_singleton.1 hitem
    exact ⟨5, hsplit, ⟨5, Uuid.text 5, "Widget"⟩, by decide +kernel, rfl⟩
  case nonneg =>
    rw [hitems, hchildren]
    exact ⟨fun _ h => (nomatch h), by decide⟩
  case quantity_le =>
    intro sku
    rw [hlines, hchildren, requested, hitems, List.filter_singleton, hsplit]
    by_cases hsku : sku = 5
    · subst hsku
      decide +kernel
    · have hne : ¬ (some 5 : Option Uuid) = some sku := fun h => hsku (Option.some.inj h).symm
      simp [skuQuantity, widgetLine, hne]
  case total_le => decide +kernel

/-- Where the code of the SKU is the text of its identifier, the split conserves the order. -/
theorem widgetDb_conserved :
    Conserves (widgetSplits (Uuid.text 5)) 1 (widgetDb (Uuid.text 5))
      (widgetCall (Uuid.text 5)).2 := by
  obtain ⟨dicts, hdicts⟩ : ∃ dicts, (widgetCall (Uuid.text 5)).1 = .ok dicts :=
    exists_eq_ok (by decide +kernel)
  exact (splitOrder_conserves_iff 7 ⟨"1", some 1⟩ (widgetSplits (Uuid.text 5)) ""
    (fun n => n + 10) (widgetDb (Uuid.text 5)) (keyed_widgetDb _) (foreignKeys_widgetDb _) 1 rfl
    dicts hdicts).2 widgetSplits_fit

/-- **A request that names a SKU by its code makes a line without a SKU.** -/
theorem widgetDb_not_conserved : Keyed (widgetDb "SKU-001") ∧ ForeignKeys (widgetDb "SKU-001") ∧
    (∃ dicts, (widgetCall "SKU-001").1 = .ok dicts) ∧
    ¬ Conserves (widgetSplits "SKU-001") 1 (widgetDb "SKU-001") (widgetCall "SKU-001").2 := by
  obtain ⟨dicts, hdicts⟩ : ∃ dicts, (widgetCall "SKU-001").1 = .ok dicts :=
    exists_eq_ok (by decide +kernel)
  refine ⟨keyed_widgetDb _, foreignKeys_widgetDb _, ⟨dicts, hdicts⟩, fun h => ?_⟩
  have hfits := ((isSplit_of_run hdicts).conserves_iff (keyed_widgetDb _) (foreignKeys_widgetDb _)
    rfl).1 h
  obtain ⟨sku, hsku, -⟩ := hfits.named { sku := "SKU-001", quantity := 1 } (by decide)
  -- no identifier has this text
  have hnone : splitSku (linesOf (widgetDb "SKU-001") 1) { sku := "SKU-001", quantity := 1 } =
      none := by
    decide +kernel
  rw [hnone] at hsku
  cases hsku

end Oms

end OmsWmsTms
