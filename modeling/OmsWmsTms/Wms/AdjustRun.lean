import OmsWmsTms.Wms.AdjustEffect

/-!
# An adjustment that runs alone

Whenever a transaction of `adjust_inventory` could commit on some rows, a call that runs alone on
these rows does commit, in its first attempt, and writes the same.

* `AdjustPlan` : what a call will write, from the committed rows alone.
* `AdjustCommit.plan` : what a call commits, when its read is still valid, is such a plan.
* `AdjustPlan.run` : a call that runs alone carries out the plan.
-/

namespace OmsWmsTms

namespace Wms

open Txn (Prog Local Session)

/-- What a call will write on the rows `d`, when its clock stands still. -/
structure AdjustPlan (rt : Runtime) (now : ℤ) (data : AdjustData) (d : WmsDb) where
  /-- The warehouse. -/
  whId : Uuid
  /-- The location. -/
  locId : Uuid
  /-- The SKU. -/
  sku : Oms.Sku
  /-- Whether the call makes it. -/
  created : Bool
  /-- The row of the stock. -/
  key : WmsKey
  /-- Its new contents. -/
  stock : Inventory
  /-- The movement. -/
  movement : StockMovement
  placed : Placed data whId locId sku created d
  skuFree : created = true → d.get? (.sku data.sku) = none
  write : StockWrite rt now data whId locId sku.id (Txn.select (stockQuery data whId locId sku.id)
    (Txn.overlay d (skuWrites sku created))) d key stock
  movement_eq : newMovement data whId locId sku.id movement.id = .ok movement
  movementFree : d.get? (.stockMovement movement.id) = none

section Plan

variable {rt : Runtime} {data : AdjustData} {d : WmsDb}

/-- What a plan writes. -/
def AdjustPlan.writes {now : ℤ} (plan : AdjustPlan rt now data d) : List (WmsKey × WmsRow) :=
  skuWrites plan.sku plan.created ++
    [(plan.key, .inventory plan.stock),
      (.stockMovement plan.movement.id, .stockMovement plan.movement)]

/-- What a transaction has read of the stock. -/
def AdjustCommit.observation {now : ℕ → ℤ} {l : Local WmsKey WmsRow}
    (c : AdjustCommit rt now data l d) : Txn.Observation WmsKey WmsRow :=
  ⟨stockQuery data c.whId c.locId c.sku.id, skuWrites c.sku c.created, c.rows⟩

/-- The plan of a transaction that has a valid read. -/
def AdjustCommit.plan {now : ℕ → ℤ} {l : Local WmsKey WmsRow} (c : AdjustCommit rt now data l d)
    (hvalid : c.observation.Valid d) : AdjustPlan rt (now c.attempt) data d where
  whId := c.whId
  locId := c.locId
  sku := c.sku
  created := c.created
  key := c.key
  stock := c.stock
  movement := c.movement
  placed := c.placed
  skuFree hc := (c.skuFree hc).2
  write := by
    rw [Txn.Observation.Valid, observation] at hvalid
    rw [hvalid]
    exact c.write
  movement_eq := c.movement_eq
  movementFree := c.movementFree

theorem AdjustCommit.writes_plan {now : ℕ → ℤ} {l : Local WmsKey WmsRow}
    (c : AdjustCommit rt now data l d) (hvalid : c.observation.Valid d) :
    (c.plan hvalid).writes = l.pending := c.pending.symm

/-- The transaction that carries out a plan. -/
def AdjustPlan.loc {now : ℤ} (plan : AdjustPlan rt now data d) : Local WmsKey WmsRow where
  pending := plan.writes
  observed := [⟨stockQuery data plan.whId plan.locId plan.sku.id, skuWrites plan.sku plan.created,
    Txn.select (stockQuery data plan.whId plan.locId plan.sku.id)
      (Txn.overlay d (skuWrites plan.sku plan.created))⟩]
  commits := []
  rollbacks := 0

/-- Its commit. -/
def AdjustPlan.commit {now : ℤ} (plan : AdjustPlan rt now data d) :
    AdjustCommit rt (fun _ => now) data plan.loc d where
  attempt := 0
  whId := plan.whId
  locId := plan.locId
  sku := plan.sku
  created := plan.created
  rows := Txn.select (stockQuery data plan.whId plan.locId plan.sku.id)
    (Txn.overlay d (skuWrites plan.sku plan.created))
  key := plan.key
  stock := plan.stock
  movement := plan.movement
  placed := plan.placed
  skuFree hc := ⟨rfl, plan.skuFree hc⟩
  read := List.mem_singleton_self _
  matched _ hitem := (Txn.mem_select.1 hitem).2
  write := plan.write
  movement_eq := plan.movement_eq
  movementFree := plan.movementFree
  pending := rfl

/-- A plan is for the committed rows. -/
theorem AdjustPlan.readCurrent {now : ℤ} (plan : AdjustPlan rt now data d) :
    ReadCurrent plan.commit := by
  intro inv cur hmem hcur _
  have hget := get?_of_overlay_skuWrites (Txn.mem_select.1 hmem).1
  rw [hcur] at hget
  cases hget
  rfl

/-! ### The statements of a call -/

section Exec

variable {s : Session WmsKey WmsRow} {id : Uuid}

theorem exec_warehouseById {warehouse : Warehouse}
    (h : s.working.get? (.warehouse id) = some (.warehouse warehouse)) :
    (warehouseById id).exec s = (.ok warehouse, s) := by
  have hfind : ((Txn.select (Txn.keyQuery (.warehouse id)) s.working).findSome?
      fun item => item.2.warehouse?) = some warehouse := by
    rw [Txn.findSome?_select_keyQuery, h]
    rfl
  simp only [warehouseById, Prog.bind_eq, Prog.exec_bind, Prog.exec_query, hfind, Prog.pure_eq,
    Prog.exec_ret]

theorem exec_warehouseById_error (h : ∀ warehouse,
    s.working.get? (.warehouse id) ≠ some (.warehouse warehouse)) :
    ∃ e, (warehouseById id).exec s = (.error e, s) := by
  have hfind : ((Txn.select (Txn.keyQuery (.warehouse id)) s.working).findSome?
      fun item => item.2.warehouse?) = none := by
    rw [Txn.findSome?_select_keyQuery]
    cases hrow : s.working.get? (.warehouse id) with
    | none => rfl
    | some row =>
      cases row with
      | warehouse warehouse => exact absurd hrow (h warehouse)
      | _ => rfl
  simp only [warehouseById, Prog.bind_eq, Prog.exec_bind, Prog.exec_query, hfind, Prog.exec_throw]
  exact ⟨_, rfl⟩

theorem exec_checkLocation {row : WmsRow} (h : s.working.get? (.location id) = some row) :
    (checkLocation id).exec s = (.ok (), s) := by
  simp only [checkLocation, Prog.bind_eq, Prog.exec_bind, Prog.exec_query,
    Txn.select_keyQuery_of_get? h, Prog.pure_eq, Prog.exec_ret]

theorem exec_checkLocation_error (h : s.working.get? (.location id) = none) :
    ∃ e, (checkLocation id).exec s = (.error e, s) := by
  simp only [checkLocation, Prog.bind_eq, Prog.exec_bind, Prog.exec_query,
    Txn.select_keyQuery_eq_nil_iff.2 h, Prog.exec_throw]
  exact ⟨_, rfl⟩

theorem exec_refreshInventory {key : WmsKey} {inv : Inventory}
    (h : s.working.get? key = some (.inventory inv)) :
    (refreshInventory key).exec s = (.ok inv, s) := by
  have hfind : ((Txn.select (Txn.keyQuery key) s.working).findSome?
      fun item => item.2.inventory?) = some inv := by
    rw [Txn.findSome?_select_keyQuery, h]
    rfl
  simp only [refreshInventory, Prog.bind_eq, Prog.exec_bind, Prog.exec_query, hfind, Prog.pure_eq,
    Prog.exec_ret]

theorem exec_getOrCreateSku_found {code : String} {sku : Oms.Sku}
    (h : s.working.get? (.sku code) = some (.sku sku)) :
    (getOrCreateSku code).exec s = (.ok (sku, false), s) := by
  have hfind : ((Txn.select (Txn.keyQuery (.sku code)) s.working).findSome?
      fun item => item.2.sku?) = some sku := by
    rw [Txn.findSome?_select_keyQuery, h]
    rfl
  simp only [getOrCreateSku, Prog.bind_eq, Prog.exec_bind, Prog.exec_query, hfind, Prog.pure_eq,
    Prog.exec_ret]

theorem exec_getOrCreateSku_error {code : String}
    (h : ∀ sku, s.working.get? (.sku code) ≠ some (.sku sku))
    (h' : s.working.get? (.sku code) ≠ none ∨ ¬ code.length ≤ 50) :
    ∃ e s', (getOrCreateSku code).exec s = (.error e, s') := by
  have hfind : ((Txn.select (Txn.keyQuery (.sku code)) s.working).findSome?
      fun item => item.2.sku?) = none := by
    rw [Txn.findSome?_select_keyQuery]
    cases hrow : s.working.get? (.sku code) with
    | none => rfl
    | some row =>
      cases row with
      | sku sku => exact absurd hrow (h sku)
      | _ => rfl
  by_cases hcode : code.length ≤ 50
  · obtain ⟨row, hrow⟩ := Option.ne_none_iff_exists'.1 (h'.resolve_right (not_not_intro hcode))
    have hname : code.length ≤ 200 := hcode.trans (by decide)
    simp only [getOrCreateSku, createSku, Prog.bind_eq, Prog.exec_bind, Prog.exec_query, hfind,
      Prog.exec_newId, storeWhole, if_pos hcode, storeText_of_length_le hname,
      Prog.exec_ofExcept_ok, Prog.pure_eq, Prog.exec_ret]
    rw [Prog.exec_insertOr_some (by exact hrow)]
    exact ⟨_, _, rfl⟩
  · simp only [getOrCreateSku, createSku, Prog.bind_eq, Prog.exec_bind, Prog.exec_query, hfind,
      Prog.exec_newId, storeWhole, if_neg hcode, Prog.exec_ofExcept_error]
    exact ⟨_, _, rfl⟩

theorem exec_getOrCreateSku_made {code : String} (h : s.working.get? (.sku code) = none)
    (hcode : code.length ≤ 50) : (getOrCreateSku code).exec s =
      (.ok (⟨s.ids 0, code, code⟩, true), ⟨s.committed,
        s.working.set (.sku code) (.sku ⟨s.ids 0, code, code⟩), fun n => s.ids (n + 1)⟩) := by
  have hfind : ((Txn.select (Txn.keyQuery (.sku code)) s.working).findSome?
      fun item => item.2.sku?) = none := by
    rw [Txn.findSome?_select_keyQuery, h]
    rfl
  have hname : code.length ≤ 200 := hcode.trans (by decide)
  simp only [getOrCreateSku, createSku, Prog.bind_eq, Prog.exec_bind, Prog.exec_query, hfind,
    Prog.exec_newId, storeWhole, if_pos hcode, storeText_of_length_le hname,
    Prog.exec_ofExcept_ok, Prog.pure_eq, Prog.exec_ret]
  rw [Prog.exec_insertOr_none (by exact h)]

variable {key : WmsKey} {whId locId skuId : Uuid} {movement : StockMovement}

/-- The `INSERT` of the movement and the commit. -/
theorem exec_insertMovement (h : s.working.get? (.stockMovement id) = none) :
    ((Prog.insertAll [(.stockMovement id, .stockMovement movement)]).bind
      (finishAttempt 0 key)).exec s = (.ok (.inr key),
        ⟨s.working.set (.stockMovement id) (.stockMovement movement),
          s.working.set (.stockMovement id) (.stockMovement movement), s.ids⟩) := by
  rw [Prog.insertAll, Prog.bind, Prog.exec_insert_none h]
  rfl

/-- The guarded `UPDATE` of a row that still has its version. -/
theorem exec_guardedUpdate {version : ℤ} {change : Inventory → Inventory} {cur : Inventory}
    (hcur : s.working.get? key = some (.inventory cur)) (hversion : cur.version = version) :
    (guardedUpdate key version change).exec s =
      (.ok true, { s with working := s.working.set key (.inventory (change cur)) }) := by
  have hguard : (WmsRow.inventory cur).inventory?.any (·.version = version) = true := by
    simpa [WmsRow.inventory?] using hversion
  rw [guardedUpdate, Prog.exec_update_some hcur, if_pos hguard]
  rfl

/-- A row that is changed. -/
theorem exec_updateStock {now : ℤ} {inv cur : Inventory} {values : StockValues}
    (hvalues : stockValues data inv = .ok values)
    (hcur : s.working.get? key = some (.inventory cur)) (hversion : cur.version = inv.version)
    (hmovement : newMovement data whId locId skuId (s.ids 0) = .ok movement)
    (hfree : s.working.get? (.stockMovement (s.ids 0)) = none) :
    (updateStock now data whId locId skuId false 0 key inv).exec s =
      (.ok (.inr key), ⟨(s.working.set key (.inventory (setStock now values cur))).set
          (.stockMovement (s.ids 0)) (.stockMovement movement),
        (s.working.set key (.inventory (setStock now values cur))).set
          (.stockMovement (s.ids 0)) (.stockMovement movement), fun n => s.ids (n + 1)⟩) := by
  have hne : WmsKey.stockMovement (s.ids 0) ≠ key := by
    rintro rfl
    rw [hfree] at hcur
    cases hcur
  have hrows : movementRow data whId locId skuId (s.ids 0) =
      .ok [(.stockMovement (s.ids 0), .stockMovement movement)] :=
    movementRow_eq_ok_iff.2 ⟨movement, hmovement, rfl⟩
  rw [updateStock, hvalues]
  refine (Prog.exec_bind_of_ok (exec_guardedUpdate hcur hversion)).trans ?_
  rw [if_pos rfl]
  refine (Prog.exec_bind_of_ok
    (exec_refreshInventory ((Dict.get?_set _ _ _ _).trans (if_pos rfl)))).trans ?_
  refine (Prog.exec_bind_of_ok (Prog.exec_newId _)).trans ?_
  rw [hrows]
  refine exec_insertMovement (s := ⟨_, _, _⟩) ?_
  rw [Dict.get?_set, if_neg hne.symm, hfree]

/-- A row that is made. -/
theorem exec_insertStock {now : ℤ} {stock : Inventory}
    (hstock : newStock now data whId locId skuId (s.ids 0) = .ok stock)
    (hmovement : newMovement data whId locId skuId (s.ids 1) = .ok movement)
    (hfree : s.working.get? (.inventory (s.ids 0)) = none)
    (hfree' : s.working.get? (.stockMovement (s.ids 1)) = none) :
    (insertStock now data whId locId skuId false 0).exec s =
      (.ok (.inr (.inventory (s.ids 0))),
        ⟨(s.working.set (.inventory (s.ids 0)) (.inventory stock)).set
          (.stockMovement (s.ids 1)) (.stockMovement movement),
        (s.working.set (.inventory (s.ids 0)) (.inventory stock)).set
          (.stockMovement (s.ids 1)) (.stockMovement movement), fun n => s.ids (n + 2)⟩) := by
  have hrows : stockRows now data whId locId skuId (s.ids 0) (s.ids 1) =
      .ok [(.inventory (s.ids 0), .inventory stock),
        (.stockMovement (s.ids 1), .stockMovement movement)] :=
    stockRows_eq_ok_iff.2 ⟨stock, movement, hstock, hmovement, rfl⟩
  refine (Prog.exec_bind_of_ok (Prog.exec_newId _)).trans ?_
  refine (Prog.exec_bind_of_ok (Prog.exec_newId _)).trans ?_
  change (commitAttempt 0 _ false
    (stockRows now data whId locId skuId (s.ids 0) (s.ids 1))).exec _ = _
  rw [hrows]
  refine (Prog.exec_insert_none (s := ⟨s.committed, s.working, fun n => s.ids (n + 2)⟩)
    hfree).trans ?_
  refine exec_insertMovement (s := ⟨_, _, _⟩) ?_
  rw [Dict.get?_set, if_neg (fun h => nomatch h), hfree']

end Exec

/-! ### The call -/

namespace AdjustPlan

variable {now : ℤ} (plan : AdjustPlan rt now data d)

/-- The number of identifiers that a call has made before it comes to the stock. -/
def offset : ℕ := if plan.created then 1 else 0

/-- The identifiers that a call will make are those of the plan. -/
structure Uses (ids : ℕ → ℕ) : Prop where
  sku : plan.created = true → ids 0 = plan.sku.id
  insert : d.get? plan.key = none → .inventory (ids plan.offset) = plan.key ∧
    ids (plan.offset + 1) = plan.movement.id
  update : d.get? plan.key ≠ none → ids plan.offset = plan.movement.id

theorem sku_ne_key (hc : plan.created = true) : WmsKey.sku plan.sku.sku ≠ plan.key := by
  refine plan.write.ne_key ?_ fun _ h => (nomatch h)
  rw [(plan.placed.skuFound.made hc).1]
  exact plan.skuFree hc

theorem movement_ne_key : WmsKey.stockMovement plan.movement.id ≠ plan.key :=
  plan.write.ne_key plan.movementFree fun _ h => (nomatch h)

theorem exists_uses : ∃ ids, plan.Uses ids := by
  rcases plan.write.inv with ⟨inv, cur, values, -, -, hcur, -⟩ | ⟨id, -, -, hfree, hkey⟩
  · refine ⟨fun n => if n < plan.offset then plan.sku.id else plan.movement.id, fun hc => ?_,
      fun hfree => ?_, fun _ => if_neg (lt_irrefl _)⟩
    · exact if_pos (by simp [offset, hc])
    · rw [hcur] at hfree
      cases hfree
  · refine ⟨fun n => if n < plan.offset then plan.sku.id else
      if n = plan.offset then id else plan.movement.id, fun hc => ?_, fun _ => ⟨?_, ?_⟩,
      fun hne => absurd hfree hne⟩
    · exact if_pos (by simp [offset, hc])
    · simp [hkey]
    · simp

/-- The rows as the call sees them when it comes to the stock. -/
theorem exec_getOrCreateSku {ids : ℕ → ℕ} (h : plan.Uses ids) :
    (getOrCreateSku data.sku).exec ⟨d, d, ids⟩ = (.ok (plan.sku, plan.created),
      ⟨d, Txn.overlay d (skuWrites plan.sku plan.created), fun n => ids (n + plan.offset)⟩) := by
  cases hc : plan.created with
  | false =>
    rw [exec_getOrCreateSku_found (s := ⟨d, d, ids⟩) (plan.placed.skuFound.found hc)]
    simp [skuWrites, offset, hc]
  | true =>
    obtain ⟨hcode, hname, hlength⟩ := plan.placed.skuFound.made hc
    have hsku : plan.sku = ⟨ids 0, data.sku, data.sku⟩ := by
      change Oms.Sku.mk plan.sku.id plan.sku.sku plan.sku.name = _
      rw [h.sku hc, hcode, hname]
    rw [exec_getOrCreateSku_made (s := ⟨d, d, ids⟩) (plan.skuFree hc) hlength, hsku]
    simp [skuWrites, offset, hc, Txn.overlay_cons]

/-- The rows after the call has written the stock. -/
theorem overlay_writes : Txn.overlay d plan.writes =
    ((Txn.overlay d (skuWrites plan.sku plan.created)).set plan.key (.inventory plan.stock)).set
      (.stockMovement plan.movement.id) (.stockMovement plan.movement) := by
  rw [writes, Txn.overlay_append]
  rfl

/-- The attempt of a call. -/
theorem exec_adjustAttempt {clock : ℕ → ℤ} {ids : ℕ → ℕ} (hclock : clock 0 = now)
    (h : plan.Uses ids) :
    ∃ ids', (adjustAttempt rt clock data plan.whId plan.locId plan.sku plan.created 0).exec
        ⟨d, Txn.overlay d (skuWrites plan.sku plan.created), fun n => ids (n + plan.offset)⟩ =
      (.ok (.inr plan.key), ⟨Txn.overlay d plan.writes, Txn.overlay d plan.writes, ids'⟩) := by
  have hskuFree (k : WmsKey) (hk : ∀ code, WmsKey.sku code ≠ k) :
      (Txn.overlay d (skuWrites plan.sku plan.created)).get? k = d.get? k :=
    get?_overlay_skuWrites fun _ => hk _
  have hmovementFree := (hskuFree (.stockMovement plan.movement.id) fun _ h => (nomatch h)).trans
    plan.movementFree
  have horphan : (plan.created && decide (0 < 0)) = false := by simp
  rw [adjustAttempt, skuObjId, if_pos (.inl rfl), horphan, hclock, overlay_writes]
  simp only [Prog.pure_eq, Prog.bind_eq, chooseStock_eq, Prog.bind, Prog.exec_select]
  rcases plan.write.inv with ⟨inv, cur, values, hchoice, hvalues, hcur, hversion, hstock⟩ |
    ⟨id, hchoice, hnew, hfree, hkey⟩
  · have hid : ids (0 + plan.offset) = plan.movement.id := by
      rw [Nat.zero_add]
      exact h.update (by simp [hcur])
    refine ⟨fun n => ids (n + 1 + plan.offset), ?_⟩
    rw [hchoice, hstock, ← hid]
    refine exec_updateStock (s := ⟨d, _, fun n => ids (n + plan.offset)⟩) hvalues
      ((get?_overlay_skuWrites plan.sku_ne_key).trans hcur) hversion ?_ ?_
    · simpa only [hid] using plan.movement_eq
    · simpa only [hid] using hmovementFree
  · have hids := h.insert hfree
    have hid : ids (0 + plan.offset) = id := by
      rw [Nat.zero_add]
      exact WmsKey.inventory.inj (hids.1.trans hkey)
    have hid' : ids (1 + plan.offset) = plan.movement.id := by
      rw [Nat.add_comm]
      exact hids.2
    refine ⟨fun n => ids (n + 2 + plan.offset), ?_⟩
    rw [hchoice, hkey, ← hid, ← hid']
    refine exec_insertStock (s := ⟨d, _, fun n => ids (n + plan.offset)⟩) ?_ ?_ ?_ ?_
    · simpa only [hid] using hnew
    · simpa only [hid'] using plan.movement_eq
    · simpa only [hid, ← hkey] using (get?_overlay_skuWrites plan.sku_ne_key).trans hfree
    · simpa only [hid'] using hmovementFree

/-- **A call that runs alone carries out its plan.** -/
theorem run {clock : ℕ → ℤ} {ids : ℕ → ℕ} (hclock : clock 0 = now) (h : plan.Uses ids) :
    (adjustInventory rt clock data).run ids d =
      (.ok (invToDict plan.stock data.sku), Txn.overlay d plan.writes) := by
  obtain ⟨warehouse, hwarehouse⟩ := plan.placed.warehouse
  obtain ⟨row, hlocation⟩ := plan.placed.location
  obtain ⟨ids', hattempt⟩ := plan.exec_adjustAttempt hclock h
  have hstock : (Txn.overlay d plan.writes).get? plan.key = some (.inventory plan.stock) := by
    rw [overlay_writes, Dict.get?_set, if_neg plan.movement_ne_key, Dict.get?_set, if_pos rfl]
  have hexec : (adjustInventory rt clock data).exec ⟨d, d, ids⟩ =
      (.ok (invToDict plan.stock data.sku),
        ⟨Txn.overlay d plan.writes, Txn.overlay d plan.writes, ids'⟩) := by
    rw [adjustInventory, toUuid, plan.placed.whId_eq, toUuid, plan.placed.locId_eq]
    refine (Prog.exec_bind_of_ok (exec_warehouseById (s := ⟨d, d, ids⟩) hwarehouse)).trans ?_
    refine (Prog.exec_bind_of_ok (exec_checkLocation (s := ⟨d, d, ids⟩) hlocation)).trans ?_
    refine (Prog.exec_bind_of_ok (plan.exec_getOrCreateSku h)).trans ?_
    refine (Prog.exec_bind_of_ok (Prog.exec_bind_of_ok hattempt)).trans ?_
    exact Prog.exec_bind_of_ok (exec_refreshInventory (s := ⟨_, _, ids'⟩) hstock)
  rw [Prog.run, hexec]

end AdjustPlan

/-! ### The SKU of a call -/

/-- A write that is not of a SKU. -/
def NotSku (_ : WmsKey) (_ : Option WmsRow) (row : WmsRow) : Prop := row.sku? = none

theorem writes_failAttempt {ok : WmsKey → Option WmsRow → WmsRow → Prop} (attempt : ℕ)
    (key : WmsKey) (e : ServiceError) : Txn.Writes True ok (failAttempt attempt key e) := by
  unfold failAttempt
  split
  · exact ⟨trivial, trivial⟩
  · trivial

theorem writes_commitAttempt {ok : WmsKey → Option WmsRow → WmsRow → Prop} {attempt : ℕ}
    {key : WmsKey} {orphan : Bool} {inserts : Except ServiceError (List (WmsKey × WmsRow))}
    (h : ∀ rows, inserts = .ok rows → ∀ item ∈ rows, ok item.1 none item.2) :
    Txn.Writes True ok (commitAttempt attempt key orphan inserts) := by
  unfold commitAttempt
  split
  · exact writes_failAttempt _ _ _
  · split
    · exact writes_failAttempt _ _ _
    · refine (Txn.Writes.insertAll (h _ rfl)).bind fun free => ?_
      unfold finishAttempt
      split
      · refine Txn.Writes.tryCommit.bind fun done => ?_
        split
        · trivial
        · exact writes_failAttempt _ _ _
      · exact writes_failAttempt _ _ _

theorem reads_refreshInventory (key : WmsKey) : Txn.Reads (refreshInventory key) := by
  intro rows
  dsimp only [Prog.ret_bind]
  split <;> trivial

/-- An attempt does not write a SKU. -/
theorem writes_adjustAttempt (rt : Runtime) (now : ℕ → ℤ) (data : AdjustData) (whId locId : Uuid)
    (sku : Oms.Sku) (created : Bool) (attempt : ℕ) :
    Txn.Writes True NotSku (adjustAttempt rt now data whId locId sku created attempt) := by
  unfold adjustAttempt skuObjId
  split
  · simp only [Prog.pure_eq, Prog.bind_eq, Prog.ret_bind, chooseStock_eq]
    intro rows
    simp only [Prog.bind]
    cases hchoice : choiceOf rt data rows with
    | raise e => trivial
    | retry key => exact ⟨trivial, trivial⟩
    | update key inv =>
      unfold updateStock
      refine (Txn.Writes.ofExcept _).bind fun values => ?_
      refine ⟨fun row hrow => ?_, fun hit => ?_⟩
      · cases row <;> simp_all [NotSku, WmsRow.inventory?, WmsRow.mapInventory, WmsRow.sku?]
      · cases hit with
        | false => exact ⟨trivial, trivial⟩
        | true =>
          refine (Txn.Writes.of_reads (reads_refreshInventory key)).bind fun _ movementId => ?_
          refine writes_commitAttempt fun rows hrows => ?_
          obtain ⟨movement, -, rfl⟩ := movementRow_eq_ok_iff.1 hrows
          simp [NotSku, WmsRow.sku?]
    | insert =>
      intro id movementId
      refine writes_commitAttempt fun rows hrows => ?_
      obtain ⟨stock, movement, -, -, rfl⟩ := stockRows_eq_ok_iff.1 hrows
      simp [NotSku, WmsRow.sku?]
  · trivial

/-- What a call does once it has found its rows. -/
def adjustStock (rt : Runtime) (now : ℕ → ℤ) (data : AdjustData) (whId locId : Uuid) (sku : Oms.Sku)
    (created : Bool) : WmsProg InventoryDict :=
  (Prog.attempts (adjustAttempt rt now data whId locId sku created) 0 (maxRetries - 1)).bind
    fun key => (refreshInventory key).bind fun inv => .ret (invToDict inv data.sku)

theorem writes_adjustStock (rt : Runtime) (now : ℕ → ℤ) (data : AdjustData) (whId locId : Uuid)
    (sku : Oms.Sku) (created : Bool) :
    Txn.Writes True NotSku (adjustStock rt now data whId locId sku created) :=
  (Txn.Writes.attempts (writes_adjustAttempt _ _ _ _ _ _ _) _ _).bind fun key =>
    (Txn.Writes.of_reads (reads_refreshInventory key)).bind fun _ => trivial

theorem adjustInventory_eq (rt : Runtime) (now : ℕ → ℤ) {whId locId : Uuid}
    (hwh : data.warehouseId.uuid? = some whId) (hloc : data.locationId.uuid? = some locId) :
    adjustInventory rt now data = (warehouseById whId).bind fun _ => (checkLocation locId).bind
      fun _ => (getOrCreateSku data.sku).bind
        fun found => adjustStock rt now data whId locId found.1 found.2 := by
  rw [adjustInventory, toUuid, toUuid, hwh, hloc]
  rfl

/-- The SKU of a call: the call raises, finds it or makes it. -/
theorem exec_sku (d : WmsDb) (code : String) (ids : ℕ → ℕ) :
    (∃ e s', (getOrCreateSku code).exec ⟨d, d, ids⟩ = (.error e, s')) ∨
    (∃ sku, d.get? (.sku code) = some (.sku sku) ∧
      (getOrCreateSku code).exec ⟨d, d, ids⟩ = (.ok (sku, false), ⟨d, d, ids⟩)) ∨
    d.get? (.sku code) = none ∧ code.length ≤ 50 ∧
      (getOrCreateSku code).exec ⟨d, d, ids⟩ = (.ok (⟨ids 0, code, code⟩, true),
        ⟨d, d.set (.sku code) (.sku ⟨ids 0, code, code⟩), fun n => ids (n + 1)⟩) := by
  by_cases hfound : ∃ sku, d.get? (.sku code) = some (.sku sku)
  · obtain ⟨sku, hsku⟩ := hfound
    exact .inr (.inl ⟨sku, hsku, exec_getOrCreateSku_found (s := ⟨d, d, ids⟩) hsku⟩)
  · by_cases hmade : d.get? (.sku code) = none ∧ code.length ≤ 50
    · exact .inr (.inr ⟨hmade.1, hmade.2,
        exec_getOrCreateSku_made (s := ⟨d, d, ids⟩) hmade.1 hmade.2⟩)
    · refine .inl (exec_getOrCreateSku_error (s := ⟨d, d, ids⟩)
        (fun sku hsku => hfound ⟨sku, hsku⟩) ?_)
      by_cases hcode : code.length ≤ 50
      · exact .inl fun hnone => hmade ⟨hnone, hcode⟩
      · exact .inr hcode

/-- A call raises, or finds its rows and goes on. -/
theorem exec_adjustInventory (rt : Runtime) (now : ℕ → ℤ) (data : AdjustData) (d : WmsDb)
    (ids : ℕ → ℕ) :
    (∃ e s', (adjustInventory rt now data).exec ⟨d, d, ids⟩ = (.error e, s')) ∨
    ∃ whId locId sku created ids', Placed data whId locId sku created d ∧
      (created = true → d.get? (.sku data.sku) = none ∧ sku.id = ids 0) ∧
      (adjustInventory rt now data).exec ⟨d, d, ids⟩ =
        (adjustStock rt now data whId locId sku created).exec
          ⟨d, Txn.overlay d (skuWrites sku created), ids'⟩ := by
  cases hwh : data.warehouseId.uuid? with
  | none =>
    rw [adjustInventory, toUuid, hwh]
    exact .inl ⟨_, _, rfl⟩
  | some whId =>
    cases hloc : data.locationId.uuid? with
    | none =>
      rw [adjustInventory, toUuid, toUuid, hwh, hloc]
      exact .inl ⟨_, _, rfl⟩
    | some locId =>
      rw [adjustInventory_eq rt now hwh hloc]
      by_cases hwarehouse : ∃ warehouse, d.get? (.warehouse whId) = some (.warehouse warehouse)
      case neg =>
        obtain ⟨e, he⟩ := exec_warehouseById_error (s := ⟨d, d, ids⟩)
          fun warehouse h => hwarehouse ⟨warehouse, h⟩
        exact .inl ⟨e, _, Prog.exec_bind_of_error he⟩
      obtain ⟨warehouse, hwarehouse⟩ := hwarehouse
      rw [Prog.exec_bind_of_ok (exec_warehouseById (s := ⟨d, d, ids⟩) hwarehouse)]
      cases hlocation : d.get? (.location locId) with
      | none =>
        obtain ⟨e, he⟩ := exec_checkLocation_error (s := ⟨d, d, ids⟩) hlocation
        exact .inl ⟨e, _, Prog.exec_bind_of_error he⟩
      | some row =>
        rw [Prog.exec_bind_of_ok (exec_checkLocation (s := ⟨d, d, ids⟩) hlocation)]
        rcases exec_sku d data.sku ids with ⟨e, s', he⟩ | ⟨sku, hsku, hexec⟩ |
          ⟨hfree, hlength, hexec⟩
        · exact .inl ⟨e, s', Prog.exec_bind_of_error he⟩
        · rw [Prog.exec_bind_of_ok hexec]
          exact .inr ⟨whId, locId, sku, false, ids, ⟨hwh, hloc, ⟨warehouse, hwarehouse⟩,
            ⟨row, hlocation⟩, fun _ => hsku, fun h => (nomatch h)⟩, fun h => (nomatch h), rfl⟩
        · rw [Prog.exec_bind_of_ok hexec]
          exact .inr ⟨whId, locId, ⟨ids 0, data.sku, data.sku⟩, true, fun n => ids (n + 1),
            ⟨hwh, hloc, ⟨warehouse, hwarehouse⟩, ⟨row, hlocation⟩, fun h => (nomatch h),
              fun _ => ⟨rfl, rfl, hlength⟩⟩, fun _ => ⟨hfree, rfl⟩, rfl⟩

/-- A call that makes its SKU gives it the first identifier. -/
theorem sku_id_of_run {now : ℕ → ℤ} {ids : ℕ → ℕ} {sku : Oms.Sku} {answer : InventoryDict}
    (hfree : d.get? (.sku data.sku) = none)
    (hanswer : ((adjustInventory rt now data).run ids d).1 = .ok answer)
    (h : ((adjustInventory rt now data).run ids d).2.get? (.sku data.sku) = some (.sku sku)) :
    sku.id = ids 0 := by
  rcases exec_adjustInventory rt now data d ids with ⟨e, s', he⟩ |
    ⟨whId, locId, sku', created, ids', hplaced, hcreated, hexec⟩
  · rw [Prog.run, he] at hanswer
    cases hanswer
  cases hc : created with
  | false =>
    have hfound := hplaced.skuFound.found hc
    rw [hfree] at hfound
    cases hfound
  | true =>
    -- whatever is committed, the SKU is the one that has been made
    let I (d' : WmsDb) : Prop := ∀ sku, d'.get? (.sku data.sku) = some (.sku sku) → sku.id = ids 0
    have hset (d' : WmsDb) (key : WmsKey) (row : WmsRow) (hI : I d') (hrow : row.sku? = none) :
        I (d'.set key row) := by
      intro sku hsku
      rw [Dict.get?_set] at hsku
      split_ifs at hsku
      · cases hsku
        cases hrow
      · exact hI sku hsku
    have hworking : I (Txn.overlay d (skuWrites sku' created)) := by
      intro sku hsku
      rw [skuWrites, if_pos hc, Txn.overlay_cons, Txn.overlay_nil, Dict.get?_set,
        if_pos (by rw [(hplaced.skuFound.made hc).1])] at hsku
      cases hsku
      exact (hcreated hc).2
    have hcommitted : I d := fun sku hsku => by
      rw [hfree] at hsku
      cases hsku
    rw [Prog.run, hexec] at h
    exact ((writes_adjustStock rt now data whId locId sku' created).exec (I := I)
      (fun d' key _ row' hI _ => hset d' key row' hI) (fun d' key row hI _ => hset d' key row hI)
      hcommitted hworking).1 sku h

end Plan

end Wms

end OmsWmsTms
