import OmsWmsTms.Control.Except
import OmsWmsTms.Txn.Keeps
import OmsWmsTms.Wms.Adjust

/-!
# What an adjustment commits

An attempt of `adjust_inventory` reads the stock once, and writes at most one row of it, guarded by
the version that it has read.  The facts below hold whatever the other programs commit, as long as
the rows stay in their places.

* `Steady`, `Advances` : how a row may change: it stays in its place; its version grows.
* `StockWrite` : the row of the stock that an attempt writes, from what it has read.
* `AdjustCommit` : the transaction of a call when it commits.
* `safe_adjustInventory` : every commit of a call is an `AdjustCommit`; a call that raises has
  committed nothing; a call that returns has committed once, or has rolled back three times.
-/

namespace OmsWmsTms

namespace Wms

open Txn (Prog Local Contract Safe Keeps)

/-! ### Rows -/

/-- The same warehouse, location and SKU. -/
def SamePlace (inv inv' : Inventory) : Prop :=
  inv'.warehouseId = inv.warehouseId ∧ inv'.locationId = inv.locationId ∧ inv'.skuId = inv.skuId

theorem SamePlace.trans {inv inv' inv'' : Inventory} (h : SamePlace inv inv')
    (h' : SamePlace inv' inv'') : SamePlace inv inv'' :=
  ⟨h'.1.trans h.1, h'.2.1.trans h.2.1, h'.2.2.trans h.2.2⟩

/-- Stock stays in its place, and other rows stay as they are. -/
inductive Steady : WmsRow → WmsRow → Prop
  | refl (row : WmsRow) : Steady row row
  | inventory {inv inv' : Inventory} : SamePlace inv inv' →
      Steady (.inventory inv) (.inventory inv')

/-- The version of a row of the stock grows with every change, and other rows stay as they are. -/
inductive Advances : WmsRow → WmsRow → Prop
  | refl (row : WmsRow) : Advances row row
  | inventory {inv inv' : Inventory} : SamePlace inv inv' → inv.version < inv'.version →
      Advances (.inventory inv) (.inventory inv')

instance : Std.Refl Steady := ⟨.refl⟩

instance : Std.Refl Advances := ⟨.refl⟩

instance : IsTrans WmsRow Steady where
  trans _ _ _ h h' := by
    cases h with
    | refl => exact h'
    | inventory h =>
      cases h' with
      | refl => exact .inventory h
      | inventory h' => exact .inventory (h.trans h')

instance : IsTrans WmsRow Advances where
  trans _ _ _ h h' := by
    cases h with
    | refl => exact h'
    | inventory h hlt =>
      cases h' with
      | refl => exact .inventory h hlt
      | inventory h' hlt' => exact .inventory (h.trans h') (hlt.trans hlt')

theorem Advances.steady {row row' : WmsRow} (h : Advances row row') : Steady row row' := by
  cases h with
  | refl => exact .refl _
  | inventory h => exact .inventory h

/-- The stock in the row with a key. -/
def inventoryAt (d : WmsDb) (key : WmsKey) : Option Inventory := (d.get? key).bind WmsRow.inventory?

theorem inventoryAt_eq_some_iff {d : WmsDb} {key : WmsKey} {inv : Inventory} :
    inventoryAt d key = some inv ↔ d.get? key = some (.inventory inv) := by
  unfold inventoryAt
  cases d.get? key with
  | none => simp
  | some row => cases row <;> simp [WmsRow.inventory?]

section Steady

variable {d d' : WmsDb} {key : WmsKey}

theorem get?_warehouse_of_steady (h : Keeps Steady d d') {warehouse : Warehouse}
    (hget : d.get? key = some (.warehouse warehouse)) :
    d'.get? key = some (.warehouse warehouse) := by
  obtain ⟨row', hrow', hsteady⟩ := h key _ hget
  cases hsteady
  exact hrow'

theorem get?_sku_of_steady (h : Keeps Steady d d') {sku : Oms.Sku}
    (hget : d.get? key = some (.sku sku)) : d'.get? key = some (.sku sku) := by
  obtain ⟨row', hrow', hsteady⟩ := h key _ hget
  cases hsteady
  exact hrow'

theorem get?_inventory_of_steady (h : Keeps Steady d d') {inv : Inventory}
    (hget : d.get? key = some (.inventory inv)) :
    ∃ inv', d'.get? key = some (.inventory inv') ∧ SamePlace inv inv' := by
  obtain ⟨row', hrow', hsteady⟩ := h key _ hget
  cases hsteady with
  | refl => exact ⟨inv, hrow', rfl, rfl, rfl⟩
  | inventory hplace => exact ⟨_, hrow', hplace⟩

end Steady

/-! ### Choices -/

/-- The stock in the answer to a query. -/
def stockOf (rows : List (WmsKey × WmsRow)) : List (WmsKey × Inventory) :=
  rows.filterMap fun item => item.2.inventory?.map (item.1, ·)

theorem mem_stockOf {rows : List (WmsKey × WmsRow)} {key : WmsKey} {inv : Inventory} :
    (key, inv) ∈ stockOf rows ↔ (key, .inventory inv) ∈ rows := by
  rw [stockOf, List.mem_filterMap]
  constructor
  · rintro ⟨⟨k, row⟩, hmem, hrow⟩
    cases row <;> simp_all [WmsRow.inventory?]
  · intro h
    exact ⟨_, h, rfl⟩

/-- The query for the stock of an attempt. -/
def stockQuery (data : AdjustData) (whId locId skuId : Uuid) : Txn.Query WmsKey WmsRow :=
  fun _ row => row.inventory?.any
    (if 0 < data.quantity then inboundCond whId locId skuId data.batchNo
      else pickCond whId (some locId) skuId)

/-- The choice of an attempt that has read these rows. -/
def choiceOf (rt : Runtime) (data : AdjustData) (rows : List (WmsKey × WmsRow)) : Choice :=
  if 0 < data.quantity then chooseInbound (stockOf rows)
  else chooseOutbound |data.quantity| (batchesOf rt data.pickingStrategy (stockOf rows))

/-- An attempt reads the stock once. -/
theorem chooseStock_eq (rt : Runtime) (data : AdjustData) (whId locId skuId : Uuid) :
    chooseStock rt data whId locId skuId =
      .select (stockQuery data whId locId skuId) fun rows => .ret (choiceOf rt data rows) := by
  unfold chooseStock stockQuery choiceOf
  by_cases hq : 0 < data.quantity
  · simp only [if_pos hq]
    rfl
  · simp only [if_neg hq]
    rfl

section Choice

variable {rt : Runtime} {data : AdjustData} {rows : List (WmsKey × WmsRow)} {key : WmsKey}
  {inv : Inventory} {stock : List (WmsKey × Inventory)}

theorem chooseInbound_eq_update (h : chooseInbound stock = .update key inv) :
    stock = [(key, inv)] := by
  match stock with
  | [] => cases h
  | [(_, _)] =>
    cases h
    rfl
  | _ :: _ :: _ => cases h

theorem chooseOutbound_eq_update {need : ℚ} (h : chooseOutbound need stock = .update key inv) :
    ∃ rest, stock = (key, inv) :: rest ∧
      need ≤ (stock.map fun batch => batch.2.available).sum ∧ need ≤ inv.quantity.toRat := by
  match stock with
  | [] => cases h
  | (key', inv') :: rest =>
    simp only [chooseOutbound] at h
    split_ifs at h with hsum hfirst
    cases h
    exact ⟨rest, rfl, not_lt.1 hsum, by linarith⟩

/-- The row that is chosen has been read. -/
theorem mem_of_choiceOf_eq_update (h : choiceOf rt data rows = .update key inv) :
    (key, .inventory inv) ∈ rows := by
  unfold choiceOf at h
  split_ifs at h
  · exact mem_stockOf.1 (chooseInbound_eq_update h ▸ List.mem_singleton_self _)
  · obtain ⟨rest, hrest, -⟩ := chooseOutbound_eq_update h
    have hmem : (key, inv) ∈ batchesOf rt data.pickingStrategy (stockOf rows) :=
      hrest ▸ List.mem_cons_self
    exact mem_stockOf.1 (mem_orderBy.1 (List.mem_of_mem_filter hmem))

/-- The row that is chosen has enough stock. -/
theorem nonneg_of_choiceOf_eq_update (h : choiceOf rt data rows = .update key inv)
    (hinv : 0 ≤ inv.quantity.toRat) : 0 ≤ inv.quantity.toRat + data.quantity := by
  unfold choiceOf at h
  split_ifs at h with hq
  · exact add_nonneg hinv hq.le
  · obtain ⟨rest, -, -, hneed⟩ := chooseOutbound_eq_update h
    rw [abs_of_nonpos (not_lt.1 hq)] at hneed
    linarith

/-- The row that is chosen is at the location. -/
theorem place_of_stockQuery {whId locId skuId : Uuid}
    (h : stockQuery data whId locId skuId key (.inventory inv) = true) :
    inv.warehouseId = whId ∧ inv.locationId = some locId ∧ inv.skuId = skuId := by
  unfold stockQuery at h
  simp only [WmsRow.inventory?, Option.any_some] at h
  split_ifs at h
  · simp only [inboundCond, decide_eq_true_eq] at h
    exact ⟨h.1, h.2.1, h.2.2.1⟩
  · simp only [pickCond, Option.all_some, decide_eq_true_eq] at h
    exact ⟨h.1, h.2.2.2, h.2.1⟩

end Choice

/-- The row of the stock that an attempt writes on the committed rows `d`, after reading `rows`. -/
inductive StockWrite (rt : Runtime) (now : ℤ) (data : AdjustData) (whId locId skuId : Uuid)
    (rows : List (WmsKey × WmsRow)) (d : WmsDb) : WmsKey → Inventory → Prop
  | update {key : WmsKey} {inv cur : Inventory} {values : StockValues} :
      choiceOf rt data rows = .update key inv → stockValues data inv = .ok values →
      d.get? key = some (.inventory cur) → cur.version = inv.version →
      StockWrite rt now data whId locId skuId rows d key (setStock now values cur)
  | insert {id : Uuid} {stock : Inventory} :
      choiceOf rt data rows = .insert → newStock now data whId locId skuId id = .ok stock →
      d.get? (.inventory id) = none →
      StockWrite rt now data whId locId skuId rows d (.inventory id) stock

/-- What an attempt has written. -/
theorem StockWrite.inv {rt : Runtime} {now : ℤ} {data : AdjustData} {whId locId skuId : Uuid}
    {rows : List (WmsKey × WmsRow)} {d : WmsDb} {key : WmsKey} {stock : Inventory}
    (h : StockWrite rt now data whId locId skuId rows d key stock) :
    (∃ inv cur values, choiceOf rt data rows = .update key inv ∧
      stockValues data inv = .ok values ∧ d.get? key = some (.inventory cur) ∧
      cur.version = inv.version ∧ stock = setStock now values cur) ∨
    ∃ id, choiceOf rt data rows = .insert ∧ newStock now data whId locId skuId id = .ok stock ∧
      d.get? key = none ∧ key = .inventory id := by
  cases h with
  | update hchoice hvalues hcur hversion =>
    exact .inl ⟨_, _, _, hchoice, hvalues, hcur, hversion, rfl⟩
  | insert hchoice hnew hfree => exact .inr ⟨_, hchoice, hnew, hfree, rfl⟩

/-- A row that was free and is not stock has not been written. -/
theorem StockWrite.ne_key {rt : Runtime} {now : ℤ} {data : AdjustData} {whId locId skuId : Uuid}
    {rows : List (WmsKey × WmsRow)} {d : WmsDb} {key k : WmsKey} {stock : Inventory}
    (h : StockWrite rt now data whId locId skuId rows d key stock) (hfree : d.get? k = none)
    (hk : ∀ id, k ≠ .inventory id) : k ≠ key := by
  rintro rfl
  rcases h.inv with ⟨inv, cur, values, -, -, hcur, -⟩ | ⟨id, -, -, -, hkey⟩
  · rw [hfree] at hcur
    cases hcur
  · exact hk id hkey

/-- The writes of a session that has made a SKU. -/
def skuWrites (sku : Oms.Sku) (created : Bool) : List (WmsKey × WmsRow) :=
  if created then [(.sku sku.sku, .sku sku)] else []

/-- What a call knows of its SKU: it is there, or the call has made it for its code. -/
structure SkuFound (data : AdjustData) (sku : Oms.Sku) (created : Bool) (d : WmsDb) : Prop where
  found : created = false → d.get? (.sku data.sku) = some (.sku sku)
  made : created = true → sku.sku = data.sku ∧ sku.name = data.sku ∧ data.sku.length ≤ 50

/-- What a call has found, and what stays so. -/
structure Placed (data : AdjustData) (whId locId : Uuid) (sku : Oms.Sku) (created : Bool)
    (d : WmsDb) : Prop where
  whId_eq : data.warehouseId.uuid? = some whId
  locId_eq : data.locationId.uuid? = some locId
  warehouse : ∃ warehouse, d.get? (.warehouse whId) = some (.warehouse warehouse)
  location : ∃ row, d.get? (.location locId) = some row
  skuFound : SkuFound data sku created d

/-- **The transaction of a call when it commits** on the rows `d`. -/
structure AdjustCommit (rt : Runtime) (now : ℕ → ℤ) (data : AdjustData)
    (l : Local WmsKey WmsRow) (d : WmsDb) where
  /-- The attempt. -/
  attempt : ℕ
  /-- The warehouse. -/
  whId : Uuid
  /-- The location. -/
  locId : Uuid
  /-- The SKU. -/
  sku : Oms.Sku
  /-- Whether the call has made it. -/
  created : Bool
  /-- What the attempt has read of the stock. -/
  rows : List (WmsKey × WmsRow)
  /-- The row of the stock that it writes. -/
  key : WmsKey
  /-- Its new contents. -/
  stock : Inventory
  /-- The movement. -/
  movement : StockMovement
  placed : Placed data whId locId sku created d
  skuFree : created = true → attempt = 0 ∧ d.get? (.sku data.sku) = none
  read : ⟨stockQuery data whId locId sku.id, skuWrites sku created, rows⟩ ∈ l.observed
  matched : ∀ item ∈ rows, stockQuery data whId locId sku.id item.1 item.2 = true
  write : StockWrite rt (now attempt) data whId locId sku.id rows d key stock
  movement_eq : newMovement data whId locId sku.id movement.id = .ok movement
  movementFree : d.get? (.stockMovement movement.id) = none
  pending : l.pending = skuWrites sku created ++
    [(key, .inventory stock), (.stockMovement movement.id, .stockMovement movement)]

/-- The contract of a call. -/
def adjustContract (rt : Runtime) (now : ℕ → ℤ) (data : AdjustData) :
    Contract WmsKey WmsRow ServiceError where
  rely := Keeps Steady
  guar l d _ := l.commits = [] ∧ l.rollbacks < maxRetries ∧ Nonempty (AdjustCommit rt now data l d)
  exc _ l _ := l.commits = []
  mayFail := True

instance (rt : Runtime) (now : ℕ → ℤ) (data : AdjustData) :
    (adjustContract rt now data).Preordered where
  refl := .refl
  trans _ _ _ h h' := h.trans h'

/-! ### One attempt -/

section Attempt

variable {rt : Runtime} {now : ℕ → ℤ} {data : AdjustData} {whId locId : Uuid} {sku : Oms.Sku}
  {created : Bool} {j : ℕ} {l : Local WmsKey WmsRow} {d d' : WmsDb}

theorem SkuFound.steady (h : SkuFound data sku created d) (hsteady : Keeps Steady d d') :
    SkuFound data sku created d' :=
  ⟨fun hc => get?_sku_of_steady hsteady (h.found hc), h.made⟩

theorem Placed.steady (h : Placed data whId locId sku created d) (hsteady : Keeps Steady d d') :
    Placed data whId locId sku created d' where
  whId_eq := h.whId_eq
  locId_eq := h.locId_eq
  warehouse := h.warehouse.imp fun _ => get?_warehouse_of_steady hsteady
  location := by
    obtain ⟨row, hrow⟩ := h.location
    obtain ⟨row', hrow', -⟩ := hsteady _ _ hrow
    exact ⟨row', hrow'⟩
  skuFound := h.skuFound.steady hsteady

/-- A call that has rolled back `j` times and has not committed. -/
def Uncommitted (j : ℕ) (l : Local WmsKey WmsRow) : Prop := l.commits = [] ∧ l.rollbacks = j

/-- A call before its attempt `j`. -/
structure AttemptStart (data : AdjustData) (whId locId : Uuid) (sku : Oms.Sku) (created : Bool)
    (j : ℕ) (l : Local WmsKey WmsRow) (d : WmsDb) : Prop where
  placed : Placed data whId locId sku created d
  uncommitted : Uncommitted j l
  pending : l.pending = if j = 0 then skuWrites sku created else []
  skuFree : created = true → j = 0 → d.get? (.sku data.sku) = none

/-- A call that has broken out of the loop. -/
structure AttemptDone (key : WmsKey) (l : Local WmsKey WmsRow) (d : WmsDb) : Prop where
  pending : l.pending = []
  commits : l.commits.length = 1
  rollbacks : l.rollbacks < maxRetries
  stock : ∃ inv, d.get? key = some (.inventory inv)

/-- A call after its attempt `j`: it goes on, has fallen out of the loop or has broken out of it. -/
def attemptPost (data : AdjustData) (whId locId : Uuid) (sku : Oms.Sku) (created : Bool) (j : ℕ)
    (answer : WmsKey ⊕ WmsKey) (l : Local WmsKey WmsRow) (d : WmsDb) : Prop :=
  answer.elim
    (fun _ => if j = 0 + (maxRetries - 1) then Uncommitted maxRetries l
      else AttemptStart data whId locId sku created (j + 1) l d)
    fun key => AttemptDone key l d

theorem AttemptStart.env (h : AttemptStart data whId locId sku created j l d)
    (henv : (adjustContract rt now data).Env l d d') :
    AttemptStart data whId locId sku created j l d' where
  placed := h.placed.steady henv.1
  uncommitted := h.uncommitted
  pending := h.pending
  skuFree hc hj := by
    have hlocked : .sku data.sku ∈ l.locks := by
      simp [Local.locks, h.pending, hj, skuWrites, hc, (h.placed.skuFound.made hc).1]
    rw [henv.2 _ hlocked]
    exact h.skuFree hc hj

/-- `db.refresh(inv)`. -/
theorem safe_refreshInventory {A : Type} {c : Contract WmsKey WmsRow ServiceError}
    {post : A → Local WmsKey WmsRow → WmsDb → Prop} {key : WmsKey} {f : Inventory → WmsProg A}
    (hsome : ∀ d' rows inv, c.Env l d d' → inventoryAt (Txn.overlay d' l.pending) key = some inv →
      Safe c post (f inv) (l.see (Txn.keyQuery key) rows) d')
    (hnone : ∀ d' rows, c.Env l d d' → inventoryAt (Txn.overlay d' l.pending) key = none →
      Safe c post (.throw .staleData) (l.see (Txn.keyQuery key) rows) d') :
    Safe c post ((refreshInventory key).bind f) l d := by
  intro d' henv
  have hfind : ((Txn.select (Txn.keyQuery key) (Txn.overlay d' l.pending)).findSome?
      fun item => item.2.inventory?) = inventoryAt (Txn.overlay d' l.pending) key :=
    Txn.findSome?_select_keyQuery _
  generalize Txn.select (Txn.keyQuery key) (Txn.overlay d' l.pending) = rows at hfind
  dsimp only [Prog.ret_bind]
  rw [hfind]
  cases hinv : inventoryAt (Txn.overlay d' l.pending) key with
  | none => exact hnone d' rows henv hinv
  | some inv => exact hsome d' rows inv henv hinv

/-- After a rollback. -/
theorem safe_rollback (hplaced : Placed data whId locId sku created d) (hl : Uncommitted j l)
    (key : WmsKey) : Safe (adjustContract rt now data) (attemptPost data whId locId sku created j)
      (.rollback (.ret (.inl key))) l d := by
  intro d₁ henv₁ d₂ henv₂
  have hplaced₂ := hplaced.steady (henv₁.1.trans henv₂.1)
  unfold attemptPost
  simp only [Sum.elim_inl]
  split_ifs with hlast
  · exact ⟨hl.1, by rw [Local.rollback, Local.abort, hl.2, hlast]; rfl⟩
  · exact {
      placed := hplaced₂
      uncommitted := ⟨hl.1, by rw [Local.rollback, Local.abort, hl.2]⟩
      pending := rfl
      skuFree := fun _ hj => by cases hj }

/-- After a commit that has failed. -/
theorem safe_failAttempt (hplaced : Placed data whId locId sku created d) (hl : Uncommitted j l)
    (key : WmsKey) (e : ServiceError) : Safe (adjustContract rt now data)
      (attemptPost data whId locId sku created j) (failAttempt j key e) l d := by
  unfold failAttempt
  split
  · exact safe_rollback hplaced hl key
  · exact fun _ _ => hl.1

/-- An attempt that has written its row of the stock. -/
structure StockWritten (rt : Runtime) (now : ℕ → ℤ) (data : AdjustData) (whId locId : Uuid)
    (sku : Oms.Sku) (created : Bool) (j : ℕ) (rows : List (WmsKey × WmsRow)) (key : WmsKey)
    (stock : Inventory) (l : Local WmsKey WmsRow) (d : WmsDb) : Prop where
  skuFree : created = true → j = 0 ∧ d.get? (.sku data.sku) = none
  read : ⟨stockQuery data whId locId sku.id, skuWrites sku created, rows⟩ ∈ l.observed
  matched : ∀ item ∈ rows, stockQuery data whId locId sku.id item.1 item.2 = true
  write : StockWrite rt (now j) data whId locId sku.id rows d key stock
  pending : l.pending = skuWrites sku created ++ [(key, .inventory stock)]

section StockWritten

variable {rows : List (WmsKey × WmsRow)} {key : WmsKey} {stock : Inventory}
  (h : StockWritten rt now data whId locId sku created j rows key stock l d)

include h

theorem StockWritten.locked : key ∈ l.locks := by
  simp [Local.locks, h.pending]

theorem StockWritten.env (hsku : SkuFound data sku created d)
    (hlocked : ∀ key ∈ l.locks, d'.get? key = d.get? key) :
    StockWritten rt now data whId locId sku created j rows key stock l d' where
  skuFree hc := by
    have hmem : .sku data.sku ∈ l.locks := by
      simp [Local.locks, h.pending, skuWrites, hc, (hsku.made hc).1]
    rw [hlocked _ hmem]
    exact h.skuFree hc
  read := h.read
  matched := h.matched
  write := by
    have hkey := hlocked key h.locked
    cases h.write with
    | update hchoice hvalues hcur hversion =>
      exact .update hchoice hvalues (hkey.trans hcur) hversion
    | insert hchoice hnew hfree => exact .insert hchoice hnew (hkey.trans hfree)
  pending := h.pending

/-- The movement and the commit. -/
theorem StockWritten.safe_insertMovement (hplaced : Placed data whId locId sku created d)
    (hl : Uncommitted j l) (hj : j < maxRetries) {id : Uuid} {movement : StockMovement}
    (hmovement : newMovement data whId locId sku.id id = .ok movement) :
    Safe (adjustContract rt now data) (attemptPost data whId locId sku created j)
      ((Prog.insertAll [(.stockMovement id, .stockMovement movement)]).bind (finishAttempt j key))
      l d := by
  have hid : movement.id = id := by
    obtain ⟨quantity, -, hok⟩ := bind_eq_ok_iff.1 hmovement
    cases hok
    rfl
  subst hid
  intro d₁ henv₁
  have hplaced₁ := hplaced.steady henv₁.1
  refine ⟨fun hfree => ?_, fun row' _ => safe_failAttempt (l := l.see _ _) hplaced₁ hl key _⟩
  obtain ⟨hfree₁, hnew⟩ := Txn.get?_overlay_eq_none hfree
  intro d₂ henv₂
  have hplaced₂ := hplaced₁.steady henv₂.1
  have hlocked₂ (k : WmsKey) (hk : k ∈ l.locks ∨ k = .stockMovement movement.id) :
      d₂.get? k = d₁.get? k := henv₂.2 k (by simpa using hk)
  have hwritten := (h.env hplaced.skuFound henv₁.2).env hplaced₁.skuFound
    fun k hk => hlocked₂ k (.inl hk)
  refine ⟨⟨hl.1, hl.2 ▸ hj, ⟨{
    attempt := j, whId, locId, sku, created, rows, key, stock, movement
    placed := hplaced₂
    skuFree := hwritten.skuFree
    read := by simp [Local.see, Local.write, h.read]
    matched := h.matched
    write := hwritten.write
    movement_eq := hmovement
    movementFree := by rw [hlocked₂ _ (.inr rfl), hfree₁]
    pending := by simp [Local.see, Local.write, h.pending] }⟩⟩, ?_, fun _ => ?_⟩
  · intro d₃ henv₃
    have hne : WmsKey.stockMovement movement.id ≠ key := fun heq => hnew (heq ▸ h.locked)
    have hstock : (Txn.overlay d₂ ((l.see (Txn.keyQuery (.stockMovement movement.id)) []).write
        (.stockMovement movement.id) (.stockMovement movement)).pending).get? key =
        some (.inventory stock) := by
      simp [Local.see, Local.write, h.pending, Txn.overlay_append, hne]
    obtain ⟨inv', hinv', -⟩ := get?_inventory_of_steady henv₃.1 hstock
    exact ⟨rfl, by simp [Local.commit, Local.see, Local.write, hl.1], hl.2 ▸ hj, inv', hinv'⟩
  · exact safe_failAttempt (l := Local.abort _) hplaced₂ hl key _

end StockWritten

theorem movementRow_eq_ok_iff {skuId id : Uuid} {inserts : List (WmsKey × WmsRow)} :
    movementRow data whId locId skuId id = .ok inserts ↔ ∃ movement,
      newMovement data whId locId skuId id = .ok movement ∧
      inserts = [(.stockMovement id, .stockMovement movement)] := by
  simp only [movementRow, bind_eq_ok_iff, pure_eq_ok_iff, eq_comm (b := inserts)]

theorem stockRows_eq_ok_iff {now : ℤ} {skuId id movementId : Uuid}
    {inserts : List (WmsKey × WmsRow)} :
    stockRows now data whId locId skuId id movementId = .ok inserts ↔ ∃ stock movement,
      newStock now data whId locId skuId id = .ok stock ∧
      newMovement data whId locId skuId movementId = .ok movement ∧
      inserts = [(.inventory id, .inventory stock),
        (.stockMovement movementId, .stockMovement movement)] := by
  simp only [stockRows, bind_eq_ok_iff, pure_eq_ok_iff, movementRow_eq_ok_iff]
  constructor
  · rintro ⟨stock, hstock, rows, ⟨movement, hmovement, rfl⟩, rfl⟩
    exact ⟨stock, movement, hstock, hmovement, rfl⟩
  · rintro ⟨stock, movement, hstock, hmovement, rfl⟩
    exact ⟨stock, hstock, _, ⟨movement, hmovement, rfl⟩, rfl⟩

/-- The commit of an attempt: what is left is the `INSERT` of the new rows. -/
theorem safe_commitAttempt (hplaced : Placed data whId locId sku created d) (hl : Uncommitted j l)
    {key : WmsKey} {inserts : Except ServiceError (List (WmsKey × WmsRow))}
    (h : ∀ rows, inserts = .ok rows → ¬ (created && decide (0 < j)) = true →
      Safe (adjustContract rt now data) (attemptPost data whId locId sku created j)
        ((Prog.insertAll rows).bind (finishAttempt j key)) l d) :
    Safe (adjustContract rt now data) (attemptPost data whId locId sku created j)
      (commitAttempt j key (created && decide (0 < j)) inserts) l d := by
  unfold commitAttempt
  split
  · exact safe_failAttempt hplaced hl key _
  · split
    · exact safe_failAttempt hplaced hl key _
    · exact h _ rfl ‹_›

/-- An attempt that can commit has written nothing but its SKU. -/
theorem AttemptStart.pending_eq (h : AttemptStart data whId locId sku created j l d)
    (horphan : ¬ (created && decide (0 < j)) = true) :
    l.pending = skuWrites sku created ∧
      (created = true → j = 0 ∧ d.get? (.sku data.sku) = none) := by
  have hj (hc : created = true) : j = 0 := by
    rw [hc, Bool.true_and, decide_eq_true_eq] at horphan
    omega
  refine ⟨?_, fun hc => ⟨hj hc, h.skuFree hc (hj hc)⟩⟩
  rw [h.pending]
  split_ifs with h0
  · rfl
  · have hc : ¬ created = true := fun hc => h0 (hj hc)
    rw [skuWrites, if_neg hc]

/-- A row that is not the SKU of the call. -/
theorem get?_overlay_skuWrites {key : WmsKey} (h : created = true → WmsKey.sku sku.sku ≠ key) :
    (Txn.overlay d (skuWrites sku created)).get? key = d.get? key := by
  unfold skuWrites
  split_ifs with hc
  · rw [Txn.overlay_cons, Txn.overlay_nil, Dict.get?_set, if_neg (h hc)]
  · rfl

theorem get?_of_overlay_skuWrites {key : WmsKey} {inv : Inventory}
    (h : (Txn.overlay d (skuWrites sku created)).get? key = some (.inventory inv)) :
    d.get? key = some (.inventory inv) := by
  unfold skuWrites at h
  split_ifs at h
  · rw [Txn.overlay_cons, Txn.overlay_nil, Dict.get?_set] at h
    split_ifs at h
    · cases h
    · exact h
  · exact h

section Chosen

variable {rows : List (WmsKey × WmsRow)}
  (hmatched : ∀ item ∈ rows, stockQuery data whId locId sku.id item.1 item.2 = true)

include hmatched

/-- An attempt that changes a row which it has read. -/
theorem safe_updateStock (h : AttemptStart data whId locId sku created j l d) (hj : j < maxRetries)
    {key : WmsKey} {inv : Inventory} (hchoice : choiceOf rt data rows = .update key inv) :
    Safe (adjustContract rt now data) (attemptPost data whId locId sku created j)
      (updateStock (now j) data whId locId sku.id (created && decide (0 < j)) j key inv)
      (l.see (stockQuery data whId locId sku.id) rows) d := by
  unfold updateStock
  cases hvalues : stockValues data inv with
  | error e => exact fun _ _ => h.uncommitted.1
  | ok values =>
    intro d₁ henv₁
    have h₁ : AttemptStart data whId locId sku created j l d₁ := h.env (l := l) henv₁
    refine ⟨fun _ => safe_rollback (l := Local.see (l.see _ _) _ _) h₁.placed h.uncommitted key,
      fun row hrow => ⟨fun hg => ?_, fun _ =>
        safe_rollback (l := Local.see (l.see _ _) _ _) h₁.placed h.uncommitted key⟩⟩
    -- the row is still stock, of the version that was read
    obtain ⟨cur, rfl, hversion⟩ : ∃ cur, row = .inventory cur ∧ cur.version = inv.version := by
      cases row <;> simp_all [WmsRow.inventory?]
    refine safe_refreshInventory (fun d₂ rows' _ henv₂ _ => ?_) fun _ _ _ _ _ _ => h.uncommitted.1
    have hplaced₂ := h₁.placed.steady henv₂.1
    intro movementId
    refine safe_commitAttempt (l := (Local.write (Local.see (l.see _ _) _ _) _ _).see _ _) hplaced₂
      h.uncommitted
      fun inserts hinserts horphan => ?_
    obtain ⟨movement, hmovement, rfl⟩ := movementRow_eq_ok_iff.1 hinserts
    obtain ⟨hpending, hfree⟩ := h₁.pending_eq horphan
    have hcur : d₁.get? key = some (.inventory cur) :=
      get?_of_overlay_skuWrites (hpending ▸ hrow)
    have hwritten : StockWritten rt now data whId locId sku created j rows key
        (setStock (now j) values cur) ((((l.see (stockQuery data whId locId sku.id) rows).see
          (Txn.keyQuery key) [(key, .inventory cur)]).write key
            (.inventory (setStock (now j) values cur))).see (Txn.keyQuery key) rows') d₁ :=
      { skuFree := hfree
        read := by simp [Local.see, Local.write, hpending]
        matched := hmatched
        write := .update hchoice hvalues hcur hversion
        pending := by simp [Local.see, Local.write, hpending] }
    exact (hwritten.env h₁.placed.skuFound henv₂.2).safe_insertMovement hplaced₂ h.uncommitted hj
      hmovement

/-- An attempt that makes a row. -/
theorem safe_insertStock (h : AttemptStart data whId locId sku created j l d) (hj : j < maxRetries)
    (hchoice : choiceOf rt data rows = .insert) :
    Safe (adjustContract rt now data) (attemptPost data whId locId sku created j)
      (insertStock (now j) data whId locId sku.id (created && decide (0 < j)) j)
      (l.see (stockQuery data whId locId sku.id) rows) d := by
  intro id movementId
  refine safe_commitAttempt (l := l.see _ _) h.placed h.uncommitted
    fun inserts hinserts horphan => ?_
  obtain ⟨stock, movement, hstock, hmovement, rfl⟩ := stockRows_eq_ok_iff.1 hinserts
  intro d₁ henv₁
  have h₁ : AttemptStart data whId locId sku created j l d₁ := h.env (l := l) henv₁
  obtain ⟨hpending, hfree⟩ := h₁.pending_eq horphan
  refine ⟨fun hnone => ?_, fun row' _ =>
    safe_failAttempt (l := Local.see (l.see _ _) _ _) h₁.placed h.uncommitted _ _⟩
  have hwritten : StockWritten rt now data whId locId sku created j rows (.inventory id) stock
      (((l.see (stockQuery data whId locId sku.id) rows).see (Txn.keyQuery (.inventory id))
        []).write
        (.inventory id) (.inventory stock)) d₁ :=
    { skuFree := hfree
      read := by simp [Local.see, Local.write, hpending]
      matched := hmatched
      write := .insert hchoice hstock (Txn.get?_overlay_eq_none hnone).1
      pending := by simp [Local.see, Local.write, hpending] }
  exact hwritten.safe_insertMovement h₁.placed h.uncommitted hj hmovement

end Chosen

/-- **One attempt.** -/
theorem safe_adjustAttempt (h : AttemptStart data whId locId sku created j l d)
    (hj : j < maxRetries) : Safe (adjustContract rt now data)
      (attemptPost data whId locId sku created j)
      (adjustAttempt rt now data whId locId sku created j) l d := by
  unfold adjustAttempt skuObjId
  split
  · simp only [Prog.pure_eq, Prog.bind_eq, Prog.ret_bind, chooseStock_eq]
    intro d₁ henv₁
    have h₁ := h.env henv₁
    simp only [Prog.bind]
    cases hchoice : choiceOf rt data
        (Txn.select (stockQuery data whId locId sku.id) (Txn.overlay d₁ l.pending)) with
    | raise e => exact fun _ _ => h.uncommitted.1
    | retry key => exact safe_rollback (l := l.see _ _) h₁.placed h.uncommitted key
    | update key inv =>
      exact safe_updateStock (fun _ hitem => (Txn.mem_select.1 hitem).2) h₁ hj hchoice
    | insert => exact safe_insertStock (fun _ hitem => (Txn.mem_select.1 hitem).2) h₁ hj hchoice
  · exact fun _ _ => h.uncommitted.1

/-! ### The call -/

/-- A call that returns: it has committed once, or has rolled back three times. -/
def adjustPost (l : Local WmsKey WmsRow) : Prop :=
  l.commits.length = 1 ∧ l.rollbacks < maxRetries ∨ Uncommitted maxRetries l

/-- After the retry loop the row is read once more. -/
theorem safe_answer {key : WmsKey} (h : AttemptDone key l d ∨ Uncommitted maxRetries l) :
    Safe (adjustContract rt now data) (fun _ l _ => adjustPost l)
      ((refreshInventory key).bind fun inv => .ret (invToDict inv data.sku)) l d := by
  refine safe_refreshInventory (fun d₁ rows inv _ _ d₂ _ => ?_) fun d₁ rows henv hnone d₂ _ => ?_
  · exact h.imp (fun h => ⟨h.commits, h.rollbacks⟩) id
  · rcases h with h | h
    · -- the row that was committed is still there
      obtain ⟨inv, hinv⟩ := h.stock
      obtain ⟨inv', hinv', -⟩ := get?_inventory_of_steady henv.1 hinv
      rw [h.pending, Txn.overlay_nil, inventoryAt_eq_some_iff.2 hinv'] at hnone
      cases hnone
    · exact h.1

/-- The retry loop, and what follows it. -/
theorem safe_attempts (h : AttemptStart data whId locId sku created 0 l d) :
    Safe (adjustContract rt now data) (fun _ l _ => adjustPost l)
      ((Prog.attempts (adjustAttempt rt now data whId locId sku created) 0 (maxRetries - 1)).bind
        fun key => (refreshInventory key).bind fun inv => .ret (invToDict inv data.sku)) l d := by
  refine Safe.bind (Safe.attempts (maxRetries - 1)
    (I := fun j l d => j < maxRetries ∧ AttemptStart data whId locId sku created j l d)
    (Q := fun _ l _ => Uncommitted maxRetries l) (fun j l d hj => ?_)
    (fun key l d hlast d' _ => safe_answer (.inr hlast))
    (fun key l d hpost d' henv => hpost.stable henv) ⟨by decide, h⟩)
  refine (safe_adjustAttempt hj.2 hj.1).mono ?_
  rintro (key | key) l d hpost
  · unfold attemptPost at hpost
    simp only [Sum.elim_inl] at hpost ⊢
    split_ifs at hpost ⊢
    · exact hpost
    · exact ⟨by unfold maxRetries at *; omega, hpost⟩
  · exact safe_answer (.inl hpost)

section Find

variable {A : Type} {c : Contract WmsKey WmsRow ServiceError}
  {post : A → Local WmsKey WmsRow → WmsDb → Prop} {id : Uuid} (hl : l.pending = [])

include hl

/-- The check of the warehouse. -/
theorem safe_warehouseById {f : Warehouse → WmsProg A} (hexc : ∀ e l' d', l'.commits = l.commits →
      c.exc e l' d')
    (h : ∀ d' rows warehouse, c.Env l d d' → d'.get? (.warehouse id) = some (.warehouse warehouse) →
      Safe c post (f warehouse) (l.see (Txn.keyQuery (.warehouse id)) rows) d') :
    Safe c post ((warehouseById id).bind f) l d := by
  intro d' henv
  have hfind : ((Txn.select (Txn.keyQuery (.warehouse id)) (Txn.overlay d' l.pending)).findSome?
      fun item => item.2.warehouse?) =
        ((Txn.overlay d' l.pending).get? (.warehouse id)).bind WmsRow.warehouse? :=
    Txn.findSome?_select_keyQuery _
  generalize Txn.select (Txn.keyQuery (.warehouse id)) (Txn.overlay d' l.pending) = rows at hfind
  dsimp only [Prog.ret_bind]
  rw [hfind, hl, Txn.overlay_nil]
  cases hrow : d'.get? (.warehouse id) with
  | none => exact fun d'' _ => hexc _ _ d'' rfl
  | some row =>
    cases row with
    | warehouse warehouse => exact h d' rows warehouse henv hrow
    | _ => exact fun d'' _ => hexc _ _ d'' rfl

/-- The check of the location. -/
theorem safe_checkLocation {f : Unit → WmsProg A} (hexc : ∀ e l' d', l'.commits = l.commits →
      c.exc e l' d')
    (h : ∀ d' rows row, c.Env l d d' → d'.get? (.location id) = some row →
      Safe c post (f ()) (l.see (Txn.keyQuery (.location id)) rows) d') :
    Safe c post ((checkLocation id).bind f) l d := by
  intro d' henv
  cases hrow : d'.get? (.location id) with
  | none =>
    have hnone : Txn.select (Txn.keyQuery (.location id)) (Txn.overlay d' l.pending) = [] := by
      rw [hl, Txn.overlay_nil, Txn.select_keyQuery_eq_nil_iff.2 hrow]
    rw [hnone]
    exact fun d'' _ => hexc _ _ d'' rfl
  | some row =>
    have hsome : Txn.select (Txn.keyQuery (.location id)) (Txn.overlay d' l.pending) =
        [(.location id, row)] := by
      rw [hl, Txn.overlay_nil, Txn.select_keyQuery_of_get? hrow]
    rw [hsome]
    exact h d' _ row henv hrow

/-- The SKU of the call. -/
theorem safe_getOrCreateSku [c.Preordered] {code : String} {f : Oms.Sku × Bool → WmsProg A}
    (hexc : ∀ e l' d', l'.commits = l.commits → c.exc e l' d')
    (hfound : ∀ d' rows sku, c.rely d d' → d'.get? (.sku code) = some (.sku sku) →
      Safe c post (f (sku, false)) (l.see (Txn.keyQuery (.sku code)) rows) d')
    (hmade : ∀ d' l' sku, c.rely d d' → l'.commits = l.commits → l'.rollbacks = l.rollbacks →
      l'.pending = skuWrites sku true → sku.sku = code → sku.name = code → code.length ≤ 50 →
      d'.get? (.sku code) = none → Safe c post (f (sku, true)) l' d') :
    Safe c post ((getOrCreateSku code).bind f) l d := by
  intro d₁ henv₁
  have hfind : ((Txn.select (Txn.keyQuery (.sku code)) (Txn.overlay d₁ l.pending)).findSome?
      fun item => item.2.sku?) = ((Txn.overlay d₁ l.pending).get? (.sku code)).bind WmsRow.sku? :=
    Txn.findSome?_select_keyQuery _
  generalize Txn.select (Txn.keyQuery (.sku code)) (Txn.overlay d₁ l.pending) = rows at hfind
  dsimp only [Prog.ret_bind]
  rw [hfind, hl, Txn.overlay_nil]
  cases hsku : (d₁.get? (.sku code)).bind WmsRow.sku? with
  | some sku =>
    refine hfound d₁ rows sku henv₁.1 ?_
    obtain ⟨row, hrow, hsku⟩ := Option.bind_eq_some_iff.1 hsku
    cases row <;> cases hsku
    exact hrow
  | none =>
    intro id
    by_cases hcode : code.length ≤ 50
    · rw [storeWhole, if_pos hcode, storeText_of_length_le (hcode.trans (by decide))]
      intro d₂ henv₂
      refine ⟨fun hfree => ?_, fun _ _ d₃ _ => hexc _ _ d₃ rfl⟩
      refine hmade d₂ _ ⟨id, code, code⟩
        (Contract.Preordered.trans _ _ _ henv₁.1 henv₂.1) rfl rfl ?_
        rfl rfl hcode (Txn.get?_overlay_eq_none hfree).1
      simp [Local.see, Local.write, hl, skuWrites]
    · rw [storeWhole, if_neg hcode]
      exact fun d₃ _ => hexc _ _ d₃ rfl

end Find

/-- **What a call commits**, whatever the other programs do. -/
theorem safe_adjustInventory (rt : Runtime) (now : ℕ → ℤ) (data : AdjustData) (d : WmsDb) :
    Safe (adjustContract rt now data) (fun _ l _ => adjustPost l) (adjustInventory rt now data)
      .start d := by
  unfold adjustInventory toUuid
  cases hwh : data.warehouseId.uuid? with
  | none => exact fun _ _ => rfl
  | some whId =>
    cases hloc : data.locationId.uuid? with
    | none => exact fun _ _ => rfl
    | some locId =>
      refine safe_warehouseById rfl (fun _ _ _ h => h) fun d₁ _ warehouse henv₁ hwarehouse => ?_
      refine safe_checkLocation rfl (fun _ _ _ h => h) fun d₂ _ row henv₂ hlocation => ?_
      refine safe_getOrCreateSku rfl (fun _ _ _ h => h) (fun d₃ _ sku hrely hsku => ?_)
        fun d₃ l sku hrely hcommits hrollbacks hpending hcode hname hlength hfree => ?_
      · exact safe_attempts {
          placed := ⟨hwh, hloc, ⟨warehouse,
            get?_warehouse_of_steady (henv₂.1.trans hrely) hwarehouse⟩,
            (hrely _ _ hlocation).imp fun _ h => h.1, ⟨fun _ => hsku, fun h => (nomatch h)⟩⟩
          uncommitted := ⟨rfl, rfl⟩
          pending := rfl
          skuFree := fun h => (nomatch h) }
      · exact safe_attempts {
          placed := ⟨hwh, hloc, ⟨warehouse,
            get?_warehouse_of_steady (henv₂.1.trans hrely) hwarehouse⟩,
            (hrely _ _ hlocation).imp fun _ h => h.1,
            ⟨fun h => (nomatch h), fun _ => ⟨hcode, hname, hlength⟩⟩⟩
          uncommitted := ⟨hcommits, hrollbacks⟩
          pending := hpending
          skuFree := fun _ _ => hfree }

end Attempt

end Wms

end OmsWmsTms
