import OmsWmsTms.Control.Except
import OmsWmsTms.Oms.Effects
import Mathlib.Algebra.BigOperators.Group.Finset.Basic

/-!
# What a merge counts

`merge_orders` adds up the lines and the totals of the orders as often as its list names them, and
does not ask whether an order is in a merge group already.

* `IsMerge` : the rows after an accepted merge; `ensures_mergeOrders` : what `merge_orders` commits.
* `Counted` : every active merge group counts each of its orders once, and no order is in two.
* `MergesOnce` : the condition on a call.
* `counted_iff_mergesOnce` : the groups are counted after every call of a run exactly when each call
  meets the condition.
-/

namespace OmsWmsTms

namespace Oms

open Txn (Prog Writes Ensures ensures_bind ensures_insertOr)

/-! ### What a merge commits -/

/-- The orders that are linked to a merge group, once for each link. -/
def members (d : OmsDb) (id : Uuid) : List Uuid :=
  ((links d).filter fun link => link.mergeGroupId = some id).map SplitChildOrder.childOrderId

/-- The rows `w` are the rows `d` with a merge group of the orders `ids`. -/
structure IsMerge (orderIds : List IdArg) (d w : OmsDb) (ids : List Uuid) (group : MergeGroup)
    (newLinks : List SplitChildOrder) : Prop where
  ids_eq : orderIds.map IdArg.uuid? = ids.map some
  found : ∀ id ∈ ids, orderAt d (.order id) ≠ none
  free : d.get? (.mergeGroup group.id) = none
  active : group.status = "active"
  totalItems : group.totalItems = (ids.map fun id => ((linesOf d id).length : ℤ)).sum
  totalAmount : (group.totalAmount : ℚ) = (ids.map (totalAt d)).sum
  stored : w.get? (.mergeGroup group.id) = some (.mergeGroup group)
  mergeGroups_eq : mergeGroups w = mergeGroups d ++ [group]
  links_eq : links w = links d ++ newLinks
  newLinks_eq : newLinks.map (fun link => (link.mergeGroupId, link.childOrderId)) =
    ids.map fun id => (some group.id, id)
  frame : Extends [.mergeGroup, .mergeCode, .splitChildOrder] d w

theorem onGrid_totalAt (d : OmsDb) (id : Uuid) : OnGrid 2 (totalAt d id) := by
  unfold totalAt
  cases orderAt d (.order id) with
  | none => exact OnGrid.intCast 0
  | some order => exact order.totalAmount.onGrid

/-- What the loop over the identifiers has gathered. -/
structure GatherInv (orderIds : List IdArg) (d₀ : OmsDb) (rest : List IdArg) (gathered : Gathered)
    (d w : OmsDb) : Prop where
  committed : d = d₀
  working : w = d₀
  ids_eq : ∃ done, done ++ rest = orderIds ∧
    done.map IdArg.uuid? = (gathered.orders.map Order.id).map some
  found : ∀ order ∈ gathered.orders, orderAt d₀ (.order order.id) = some order
  totalItems : gathered.totalItems =
    ((gathered.orders.map Order.id).map fun id => ((linesOf d₀ id).length : ℤ)).sum
  totalAmount : gathered.totalAmount = ((gathered.orders.map Order.id).map (totalAt d₀)).sum

section Effects

variable {C : OmsDb → OmsDb → Prop} {d w : OmsDb}

theorem ensures_gatherOrder {orderIds rest : List IdArg} {d₀ : OmsDb} {gathered : Gathered}
    {orderId : IdArg} (hd : Keyed d₀) (h : GatherInv orderIds d₀ (orderId :: rest) gathered d w) :
    Ensures C (GatherInv orderIds d₀ rest) (gatherOrder gathered orderId) d w := by
  obtain ⟨rfl, rfl, ⟨done, hdone, hids⟩, hfound, hitems, hamount⟩ := h
  unfold gatherOrder toUuid
  cases hid : orderId.uuid? with
  | none => trivial
  | some id =>
    simp only [Prog.ret_bind, Prog.pure_eq, Prog.bind_eq, ensures_bind, ensures_selectOrder]
    cases horder : orderAt w (.order id) with
    | none => trivial
    | some order =>
      obtain rfl : order.id = id := hd _ _ (get?_of_orderAt horder)
      refine ensures_bind.2 (ensures_selectItems fun items hlines => ?_)
      split
      · trivial
      · refine ⟨rfl, rfl, ⟨done ++ [orderId], by simp [← hdone], ?_⟩, ?_, ?_, ?_⟩
        · simp [hids, hid]
        · intro order' horder'
          rcases List.mem_append.1 horder' with hold | hnew
          · exact hfound order' hold
          · obtain rfl := List.mem_singleton.1 hnew
            exact horder
        · have hlength : items.length = (linesOf w order.id).length := by
            rw [← hlines, List.length_map]
          simp [hitems, hlength]
        · simp [hamount, totalAt, horder]

/-- The links that have been made for the orders of a group. -/
structure LinksInv (groupId : Uuid) (orders : List Order) (d₀ w₀ : OmsDb) (rest : List Order)
    (d w : OmsDb) : Prop where
  committed : d = d₀
  made : ∃ done newLinks, done ++ rest = orders ∧ links w = links w₀ ++ newLinks ∧
    newLinks.map (fun link => (link.mergeGroupId, link.childOrderId)) =
      (done.map Order.id).map fun id => (some groupId, id)
  frame : Extends [.splitChildOrder] w₀ w

theorem ensures_mergeLink {groupId : Uuid} {orders rest : List Order} {d₀ w₀ : OmsDb}
    {order : Order} (h : LinksInv groupId orders d₀ w₀ (order :: rest) d w) :
    Ensures C (fun _ => LinksInv groupId orders d₀ w₀ rest)
      (insertLink none order.id (some groupId) "merged") d w := by
  obtain ⟨rfl, ⟨done, newLinks, hdone, hlinks, hnew⟩, hframe⟩ := h
  refine ensures_bind.2 fun n => ensures_insertOr.2 fun hfree => ?_
  generalize hlink : SplitChildOrder.mk n _ _ _ _ = link
  have hset : links (w.set (.splitChildOrder n) (.splitChildOrder link)) = links w ++ [link] :=
    Txn.rows_set_of_none hfree
  refine ⟨rfl, ⟨done ++ [order], newLinks ++ [link], by simp [← hdone], ?_, ?_⟩,
    hframe.insert ⟨hfree, by rw [← hlink]; rfl, by simp [OmsRow.table]⟩⟩
  · rw [hset, hlinks, List.append_assoc]
  · rw [List.map_append, hnew, ← hlink]
    simp

/-- **What `merge_orders` commits.** -/
theorem ensures_mergeOrders (orderIds : List IdArg) (code : Option String)
    (warehouseId : Option IdArg) (note : String) (d : OmsDb) (hd : Keyed d)
    (hC : ∀ w ids group newLinks, IsMerge orderIds d w ids group newLinks → C d w) :
    Ensures C (fun _ d' _ => ∃ ids group newLinks, IsMerge orderIds d d' ids group newLinks)
      (mergeOrders orderIds code warehouseId note) d d := by
  unfold mergeOrders
  split
  · trivial
  · refine ensures_bind.2 ((Ensures.foldEach
      (fun orderId rest gathered d' w => ensures_gatherOrder hd)
      orderIds {} ⟨rfl, rfl, ⟨[], rfl, rfl⟩, fun _ h => (by cases h), rfl, rfl⟩).mono ?_)
    rintro gathered _ d ⟨rfl, rfl, ⟨done, hdone, hids⟩, hfound, hitems, hamount⟩
    obtain rfl : done = orderIds := by simpa using hdone
    simp only [Prog.bind_eq, ensures_bind, Txn.ensures_query, Txn.ensures_newId]
    intro id
    refine (Ensures.reads (reads_warehouseArg warehouseId)).mono fun warehouseId d' w hsame => ?_
    obtain ⟨rfl, rfl⟩ := hsame
    simp only [Txn.ensures_ofExcept]
    intro code' _ totalItems htotalItems totalAmount htotalAmount
    refine (Ensures.reads (reads_checkWarehouse warehouseId)).mono fun _ d' w hsame => ?_
    obtain ⟨rfl, rfl⟩ := hsame
    simp only [ensures_insertOr]
    intro hcode hfree
    generalize hgroup : MergeGroup.mk id code' warehouseId _ _ _ _ = group
    obtain rfl : group.id = id := by rw [← hgroup]
    generalize hw₁ : d.set (OmsKey.mergeCode code') (OmsRow.mergeCode group.id) = w₁ at hfree ⊢
    have hext₁ : Extends [.mergeCode] d w₁ := hw₁ ▸ extends_set (.mergeCode group.id) hcode trivial
    have hext₂ : Extends [.mergeGroup] w₁ (w₁.set (.mergeGroup group.id) (.mergeGroup group)) :=
      extends_set (.mergeGroup group) hfree rfl
    generalize hw₂ : w₁.set (.mergeGroup group.id) (.mergeGroup group) = w₂ at hext₂ ⊢
    refine (Ensures.forEach (fun order rest d w => ensures_mergeLink) gathered.orders
      ⟨rfl, ⟨[], [], rfl, (List.append_nil _).symm, rfl⟩, .refl _ w₂⟩).mono ?_
    rintro - d w₃ ⟨rfl, ⟨orders, newLinks, horders, hlinks, hnew⟩, hext₃⟩
    obtain rfl : orders = gathered.orders := by simpa using horders
    have hmerge : IsMerge done d w₃ (gathered.orders.map Order.id) group newLinks := by
      have hext : Extends [.mergeGroup, .mergeCode, .splitChildOrder] d w₃ :=
        (hext₁.mono (by decide)).trans ((hext₂.mono (by decide)).trans (hext₃.mono (by decide)))
      constructor
      case ids_eq => exact hids
      case found =>
        intro id hid
        obtain ⟨order, horder, rfl⟩ := List.mem_map.1 hid
        rw [hfound order horder]
        exact Option.some_ne_none order
      case free =>
        refine Option.eq_none_iff_forall_ne_some.2 fun row hrow => ?_
        rw [hext₁.get? _ _ hrow] at hfree
        cases hfree
      case active => rw [← hgroup]
      case totalItems => rw [← hitems, ← hgroup, (storeInt_eq_ok_iff.1 htotalItems).2]
      case totalAmount =>
        rw [← hamount, ← hgroup]
        refine Numeric.toRat_of_ofRat? ?_ (storeNumeric_eq_ok_iff.1 htotalAmount)
        rw [hamount]
        refine OnGrid.sum fun total htotal => ?_
        obtain ⟨id, -, rfl⟩ := List.mem_map.1 htotal
        exact onGrid_totalAt d id
      case stored =>
        refine hext₃.get? _ _ ?_
        rw [← hw₂, Dict.get?_set, if_pos rfl]
      case mergeGroups_eq =>
        rw [hext₃.mergeGroups_eq (by decide), ← hw₂, mergeGroups, Txn.rows_set_of_none hfree]
        change mergeGroups w₁ ++ [group] = _
        rw [hext₁.mergeGroups_eq (by decide)]
      case links_eq =>
        rw [hlinks, hext₂.links_eq (by decide), hext₁.links_eq (by decide)]
      case newLinks_eq => exact hnew
      case frame => exact hext
    exact Txn.ensures_commitOr.2 ⟨hC _ _ _ _ hmerge, ⟨_, _, _, hmerge⟩⟩

end Effects

/-! ### Counting -/

/-- **Every active merge group counts each of its orders once**, and no order is in two of them. -/
structure Counted (d : OmsDb) : Prop where
  totalItems : ∀ group ∈ mergeGroups d, group.status = "active" →
    group.totalItems = ∑ id ∈ (members d group.id).toFinset, ((linesOf d id).length : ℤ)
  totalAmount : ∀ group ∈ mergeGroups d, group.status = "active" →
    (group.totalAmount : ℚ) = ∑ id ∈ (members d group.id).toFinset, totalAt d id
  once : ∀ group ∈ mergeGroups d, group.status = "active" → (members d group.id).Nodup
  disjoint : ∀ group ∈ mergeGroups d, ∀ group' ∈ mergeGroups d, group.status = "active" →
    group'.status = "active" → ∀ id ∈ members d group.id, id ∈ members d group'.id →
      group.id = group'.id

/-- The identifiers are of different orders, and none of these is in an active merge group. -/
def MergesOnce (d : OmsDb) (orderIds : List IdArg) : Prop :=
  (orderIds.map IdArg.uuid?).Nodup ∧ ∀ orderId ∈ orderIds, ∀ id, orderId.uuid? = some id →
    ∀ group ∈ mergeGroups d, group.status = "active" → id ∉ members d group.id

section Counted

variable {d w : OmsDb} {orderIds : List IdArg} {ids : List Uuid} {group : MergeGroup}
  {newLinks : List SplitChildOrder}

theorem get?_of_mem_mergeGroups (hd : Keyed d) {group : MergeGroup} (h : group ∈ mergeGroups d) :
    d.get? (.mergeGroup group.id) = some (.mergeGroup group) := by
  obtain ⟨key, row, hget, hrow⟩ := Txn.mem_rows.1 h
  cases row <;> cases hrow
  have hkey := hd key _ hget
  cases key <;> simp_all [RowAt]

theorem IsMerge.ne_of_mem (h : IsMerge orderIds d w ids group newLinks) (hd : Keyed d)
    {group' : MergeGroup} (hmem : group' ∈ mergeGroups d) : group'.id ≠ group.id := by
  intro heq
  have hget := get?_of_mem_mergeGroups hd hmem
  rw [heq, h.free] at hget
  cases hget

/-- The members of a group, and of the new one. -/
theorem IsMerge.members_eq (h : IsMerge orderIds d w ids group newLinks) (id : Uuid) :
    members w id = members d id ++ if group.id = id then ids else [] := by
  have hnew : (newLinks.filter fun link => link.mergeGroupId = some id).map
      SplitChildOrder.childOrderId = if group.id = id then ids else [] := by
    have hpairs : (newLinks.filter fun link => link.mergeGroupId = some id).map
        SplitChildOrder.childOrderId = ((newLinks.map fun link =>
          (link.mergeGroupId, link.childOrderId)).filter fun pair => pair.1 = some id).map
            Prod.snd := by
      rw [List.filter_map, List.map_map]
      rfl
    rw [hpairs, h.newLinks_eq, List.filter_map, List.map_map]
    by_cases hid : group.id = id <;> simp [hid, Function.comp_def]
  rw [members, h.links_eq, List.filter_append, List.map_append, hnew]
  rfl

/-- No link leads to the new group. -/
theorem IsMerge.members_group (h : IsMerge orderIds d w ids group newLinks) (hfk : ForeignKeys d) :
    members w group.id = ids := by
  have hold : members d group.id = [] := by
    refine List.eq_nil_iff_forall_not_mem.2 fun id hid => ?_
    obtain ⟨link, hlink, -⟩ := List.mem_map.1 hid
    exact hfk.group link (List.mem_of_mem_filter hlink) group.id
      (of_decide_eq_true (List.mem_filter.1 hlink).2) h.free
  rw [h.members_eq, hold, if_pos rfl, List.nil_append]

theorem IsMerge.members_of_ne (h : IsMerge orderIds d w ids group newLinks) {id : Uuid}
    (hid : id ≠ group.id) : members w id = members d id := by
  rw [h.members_eq, if_neg (Ne.symm hid), List.append_nil]

theorem IsMerge.linesOf_eq (h : IsMerge orderIds d w ids group newLinks) (id : Uuid) :
    linesOf w id = linesOf d id := by
  rw [linesOf, h.frame.orderItems_eq (by decide)]
  rfl

theorem IsMerge.totalAt_eq (h : IsMerge orderIds d w ids group newLinks) (id : Uuid) :
    totalAt w id = totalAt d id := by
  rw [totalAt, h.frame.orderAt_eq (by decide)]
  rfl

/-- The condition, about the identifiers that were found. -/
theorem IsMerge.mergesOnce_iff (h : IsMerge orderIds d w ids group newLinks) :
    MergesOnce d orderIds ↔ ids.Nodup ∧ ∀ id ∈ ids, ∀ group ∈ mergeGroups d,
      group.status = "active" → id ∉ members d group.id := by
  have hmem (id : Uuid) : id ∈ ids ↔ ∃ orderId ∈ orderIds, orderId.uuid? = some id := by
    rw [← List.mem_map_of_injective (Option.some_injective _) (l := ids), ← h.ids_eq, List.mem_map]
  unfold MergesOnce
  rw [h.ids_eq, List.nodup_map_iff (Option.some_injective _)]
  refine and_congr_right fun _ => ⟨fun hfree id hid => ?_, fun hfree orderId horderId id hid => ?_⟩
  · obtain ⟨orderId, horderId, hid⟩ := (hmem id).1 hid
    exact hfree orderId horderId id hid
  · exact hfree id ((hmem id).2 ⟨orderId, horderId, hid⟩)

/-- **An accepted merge keeps the counts exactly when it meets the condition.** -/
theorem IsMerge.counted_iff (h : IsMerge orderIds d w ids group newLinks) (hd : Keyed d)
    (hfk : ForeignKeys d) (hcounted : Counted d) : Counted w ↔ MergesOnce d orderIds := by
  rw [h.mergesOnce_iff]
  have hnew : group ∈ mergeGroups w := by
    rw [h.mergeGroups_eq]
    exact List.mem_append_right _ (List.mem_singleton_self group)
  have hold {group' : MergeGroup} (hmem : group' ∈ mergeGroups d) : group' ∈ mergeGroups w ∧
      members w group'.id = members d group'.id := by
    refine ⟨?_, h.members_of_ne (h.ne_of_mem hd hmem)⟩
    rw [h.mergeGroups_eq]
    exact List.mem_append_left _ hmem
  constructor
  · intro hw
    have honce := hw.once group hnew h.active
    rw [h.members_group hfk] at honce
    refine ⟨honce, fun id hid group' hgroup' hactive hmember => ?_⟩
    have heq := hw.disjoint group' (hold hgroup').1 group hnew hactive h.active id
      (by rw [(hold hgroup').2]; exact hmember) (by rw [h.members_group hfk]; exact hid)
    exact h.ne_of_mem hd hgroup' heq
  · rintro ⟨hnodup, hfree⟩
    -- a group of the rows before, or the new one
    have hcases {group' : MergeGroup} (hmem : group' ∈ mergeGroups w) :
        group' ∈ mergeGroups d ∨ group' = group := by
      rw [h.mergeGroups_eq] at hmem
      exact (List.mem_append.1 hmem).imp_right List.mem_singleton.1
    constructor
    case totalItems =>
      intro group' hgroup' hactive
      simp only [h.linesOf_eq]
      rcases hcases hgroup' with hmem | rfl
      · rw [(hold hmem).2]
        exact hcounted.totalItems group' hmem hactive
      · rw [h.members_group hfk, List.sum_toFinset _ hnodup, h.totalItems]
    case totalAmount =>
      intro group' hgroup' hactive
      simp only [h.totalAt_eq]
      rcases hcases hgroup' with hmem | rfl
      · rw [(hold hmem).2]
        exact hcounted.totalAmount group' hmem hactive
      · rw [h.members_group hfk, List.sum_toFinset _ hnodup, h.totalAmount]
    case once =>
      intro group' hgroup' hactive
      rcases hcases hgroup' with hmem | rfl
      · rw [(hold hmem).2]
        exact hcounted.once group' hmem hactive
      · rw [h.members_group hfk]
        exact hnodup
    case disjoint =>
      intro g hg g' hg' hactive hactive' id hid hid'
      rcases hcases hg with hmem | rfl
      · rcases hcases hg' with hmem' | rfl
        · rw [(hold hmem).2] at hid
          rw [(hold hmem').2] at hid'
          exact hcounted.disjoint g hmem g' hmem' hactive hactive' id hid hid'
        · rw [(hold hmem).2] at hid
          rw [h.members_group hfk] at hid'
          exact absurd hid (hfree id hid' g hmem hactive)
      · rcases hcases hg' with hmem' | rfl
        · rw [h.members_group hfk] at hid
          rw [(hold hmem').2] at hid'
          exact absurd hid' (hfree id hid g' hmem' hactive')
        · rfl

/-- A new link leads from an order to the new group. -/
theorem IsMerge.of_mem_newLinks (h : IsMerge orderIds d w ids group newLinks)
    {link : SplitChildOrder} (hlink : link ∈ newLinks) :
    link.childOrderId ∈ ids ∧ link.mergeGroupId = some group.id := by
  have hpair := List.mem_map_of_mem (f := fun link : SplitChildOrder =>
    (link.mergeGroupId, link.childOrderId)) hlink
  rw [h.newLinks_eq] at hpair
  obtain ⟨id, hid, heq⟩ := List.mem_map.1 hpair
  obtain ⟨hgroup, rfl⟩ := Prod.mk.inj heq
  exact ⟨hid, hgroup.symm⟩

/-- A merge keeps the foreign keys. -/
theorem IsMerge.foreignKeys (h : IsMerge orderIds d w ids group newLinks) (hfk : ForeignKeys d) :
    ForeignKeys w where
  orderItem item hitem := by
    rw [h.frame.orderItems_eq (by decide)] at hitem
    rw [h.frame.orderAt_eq (by decide)]
    exact hfk.orderItem item hitem
  link link hlink := by
    rw [h.frame.orderAt_eq (by decide)]
    rw [h.links_eq] at hlink
    rcases List.mem_append.1 hlink with hlink | hlink
    · exact hfk.link link hlink
    · exact h.found _ (h.of_mem_newLinks hlink).1
  group link hlink id hid := by
    rw [h.links_eq] at hlink
    rcases List.mem_append.1 hlink with hlink | hlink
    · obtain ⟨row, hrow⟩ := Option.ne_none_iff_exists'.1 (hfk.group link hlink id hid)
      rw [h.frame.get? _ _ hrow]
      exact Option.some_ne_none row
    · obtain rfl : group.id = id := Option.some.inj ((h.of_mem_newLinks hlink).2.symm.trans hid)
      rw [h.stored]
      exact Option.some_ne_none _

end Counted

/-! ### Runs -/

/-- A call of `merge_orders`. -/
structure MergeCall where
  /-- The orders. -/
  orderIds : List IdArg
  /-- The code. -/
  code : Option String := none
  /-- The warehouse. -/
  warehouseId : Option IdArg := none
  /-- The note. -/
  note : String := ""

/-- What a call does, with the new identifiers. -/
def MergeCall.run (call : MergeCall) (ids : ℕ → ℕ) (d : OmsDb) :
    Except ServiceError MergeDict × OmsDb :=
  (mergeOrders call.orderIds call.code call.warehouseId call.note).run ids d

/-- The runs of accepted calls. -/
def mergeSystem : Lts OmsDb MergeCall where
  step d call d' := ∃ ids dict, call.run ids d = (.ok dict, d')

/-- The primary and foreign keys. -/
structure ValidKeys (d : OmsDb) : Prop where
  keyed : Keyed d
  foreignKeys : ForeignKeys d

section Runs

variable {d d' : OmsDb} {call : MergeCall}

/-- An accepted call is a merge. -/
theorem isMerge_of_step (h : mergeSystem.step d call d') (hd : Keyed d) :
    ∃ ids group newLinks, IsMerge call.orderIds d d' ids group newLinks := by
  obtain ⟨ids, dict, hrun⟩ := h
  have hensures := (ensures_mergeOrders (C := fun _ _ => True) call.orderIds call.code
    call.warehouseId call.note d hd fun _ _ _ _ _ => trivial).exec ids
  have hok : (call.run ids d).1 = .ok dict := by rw [hrun]
  have hd' : (call.run ids d).2 = d' := by rw [hrun]
  rw [← hd']
  exact hensures.2 dict hok

theorem validKeys_step (h : mergeSystem.step d call d') (hd : ValidKeys d) : ValidKeys d' := by
  obtain ⟨ids, group, newLinks, hmerge⟩ := isMerge_of_step h hd.keyed
  obtain ⟨uuids, dict, hrun⟩ := h
  have hd' : (call.run uuids d).2 = d' := by rw [hrun]
  refine ⟨hd' ▸ keyed_run (changes_of_inserts (inserts_mergeOrders _ _ _ _)) keepsId_setsTotal
    hd.keyed uuids, hmerge.foreignKeys hd.foreignKeys⟩

/-- **Every state of a run of accepted merges counts each order once exactly when each call names
different orders, none of them in an active merge group.** -/
theorem counted_iff_mergesOnce (d d' : OmsDb) (calls : List MergeCall) (hd : ValidKeys d)
    (hcounted : Counted d) :
    (mergeSystem.restrict fun _ _ d' => Counted d').Run d calls d' ↔
      (mergeSystem.guard fun d call => MergesOnce d call.orderIds).Run d calls d' := by
  have hstep (d : OmsDb) (call : MergeCall) (d' : OmsDb) (hd : ValidKeys d ∧ Counted d)
      (hstep : mergeSystem.step d call d') : Counted d' ↔ MergesOnce d call.orderIds := by
    obtain ⟨ids, group, newLinks, hmerge⟩ := isMerge_of_step hstep hd.1.keyed
    exact hmerge.counted_iff hd.1.keyed hd.1.foreignKeys hd.2
  exact Lts.Run.restrict_iff_guard (I := fun d => ValidKeys d ∧ Counted d)
    (fun d call d' hd h honce => ⟨validKeys_step h hd.1, (hstep d call d' hd h).2 honce⟩) hstep
    ⟨hd, hcounted⟩

end Runs

/-! ### A list that names an order twice -/

/-- A pending order of 20.00. -/
def pendingOrder (id : Uuid) : Order :=
  { cancelledOrder with id, status := .pending, totalAmount := ⟨2000, by decide⟩ }

/-- Two such orders. -/
def pairDb : OmsDb :=
  (Dict.empty.set (.order 1) (.order (pendingOrder 1))).set (.order 2) (.order (pendingOrder 2))

theorem validKeys_pairDb : ValidKeys pairDb where
  keyed := by
    intro key row h
    simp only [pairDb, Dict.get?_set] at h
    split_ifs at h with h₁ h₂
    · subst h₁; cases h; rfl
    · subst h₂; cases h; rfl
    · cases h
  foreignKeys := ⟨fun _ h => (nomatch h), fun _ h => (nomatch h), fun _ h => nomatch h⟩

theorem counted_pairDb : Counted pairDb :=
  ⟨fun _ h => (nomatch h), fun _ h => (nomatch h), fun _ h => (nomatch h), fun _ h => nomatch h⟩

/-- A call that merges the order `1` with another one. -/
def mergeWith (arg : IdArg) : MergeCall := { orderIds := [⟨"1", some 1⟩, arg] }

theorem step_mergeWith {arg : IdArg} (h : ((mergeWith arg).run (fun n => n + 5) pairDb).1.isOk) :
    mergeSystem.step pairDb (mergeWith arg) ((mergeWith arg).run (fun n => n + 5) pairDb).2 := by
  obtain ⟨dict, hdict⟩ := exists_eq_ok h
  exact ⟨_, dict, Prod.ext hdict rfl⟩

/-- The group of two different orders counts each of them once. -/
theorem pairDb_counted :
    Counted ((mergeWith ⟨"2", some 2⟩).run (fun n => n + 5) pairDb).2 := by
  have hrun := (counted_iff_mergesOnce pairDb _ [mergeWith ⟨"2", some 2⟩] validKeys_pairDb
    counted_pairDb).2 (.single
      ⟨step_mergeWith (by decide +kernel), by decide, fun _ _ _ _ _ h => nomatch h⟩)
  cases hrun with
  | cons hstep hrest =>
    cases hrest
    exact hstep.2

/-- **An order that a list names twice is counted twice.** -/
theorem pairDb_not_counted : ∃ d', mergeSystem.Run pairDb [mergeWith ⟨"1", some 1⟩] d' ∧
    ValidKeys pairDb ∧ Counted pairDb ∧ ¬ Counted d' := by
  have hstep : mergeSystem.step pairDb (mergeWith ⟨"1", some 1⟩) _ :=
    step_mergeWith (by decide +kernel)
  obtain ⟨ids, group, newLinks, hmerge⟩ := isMerge_of_step hstep validKeys_pairDb.keyed
  refine ⟨_, .single hstep, validKeys_pairDb, counted_pairDb, fun h => ?_⟩
  have honce := (hmerge.counted_iff validKeys_pairDb.keyed validKeys_pairDb.foreignKeys
    counted_pairDb).1 h
  exact absurd honce.1 (by decide)

end Oms

end OmsWmsTms
