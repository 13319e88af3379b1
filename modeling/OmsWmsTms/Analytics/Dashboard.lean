import OmsWmsTms.Cache.CachedCalls
import OmsWmsTms.Cache.HitEqual
import OmsWmsTms.Core.Handlers
import OmsWmsTms.Data.Md5
import OmsWmsTms.Oms.Models

/-!
# How old the dashboard is

The getters of `src/analytics/service.py` under `@cached(prefix="analytics", skip_args=1)` and the
routes of `src/analytics/router.py`, while anything else is committed, time passes, and Redis fails
or drops keys.

* `DashboardGetter.query`, `DashboardGetter.key` : the wrapped functions, and the keys of their
  results.
* `dashboardSystem` : the requests of the routes, interleaved at their statements.
* `Current` : a result is read by the request, or was stored by a call of the same getter, less than
  its time to live before a moment of the request.
* `dashboard_by_history` : every result is.
-/

namespace OmsWmsTms

namespace Analytics

open Cache (Replies Served cachedCall pyJson)
open Uow (Query Shared SharedWrite after)

/-! ### The getters -/

/-- The tables; of the users and the warehouses, the identifiers. -/
structure DashboardTables where
  orders : List Oms.Order := []
  users : List Uuid := []
  inventory : List Admin.InventoryRow := []
  warehouses : List Uuid := []

/-- An item of a dictionary. -/
def item (key : String) (value : PyValue) : PyStr × PyValue := (.ofString key, value)

/-- A text. -/
def text (s : String) : PyValue := .str (.ofString s)

/-- The result of `get_order_trends`, in the time zone of UTC. -/
def orderTrends (orders : List Oms.Order) (cutoff : ℤ) : PyValue :=
  let dates := (orders.filter (cutoff ≤ ·.createdAt)).map (·.createdAt / day)
  .list ((orderBy (· ≤ ·) dates.dedup).map fun date =>
    .dict [item "date" (text (dateIsoformat date)), item "count" (.int (dates.count date))])

/-- The result of `get_status_distribution`, whose groups come in any order. -/
def statusDistribution (orders : List Oms.Order) : PyValue :=
  let statuses := orders.map Oms.Order.status
  .list (statuses.dedup.map fun status =>
    .dict [item "status" (text status.value), item "count" (.int (statuses.count status))])

/-- An item of `get_recent_orders`. -/
def recentOrder (o : Oms.Order) : PyValue :=
  .dict [item "id" (text (Uuid.text o.id)), item "order_no" (text o.orderNo),
    item "status" (text (Oms.statusReverse o.status)),
    item "total_amount" (text (if o.totalAmount.units = 0 then "0" else o.totalAmount.toText)),
    item "customer_id" (text (Uuid.text o.customerId)),
    item "created_at" (text (isoformat o.createdAt))]

/-- The getters, with the arguments after the session. -/
inductive DashboardGetter
  | getDashboardStats
  | getOrderTrends (days : Option ℕ)
  | getStatusDistribution
  | getLowStockItems
  | getRecentOrders
deriving DecidableEq

namespace DashboardGetter

/-- `func.__name__`. -/
def name : DashboardGetter → String
  | getDashboardStats => "get_dashboard_stats"
  | getOrderTrends _ => "get_order_trends"
  | getStatusDistribution => "get_status_distribution"
  | getLowStockItems => "get_low_stock_items"
  | getRecentOrders => "get_recent_orders"

/-- The seconds for which a result is kept. -/
def ttl : DashboardGetter → ℤ
  | getLowStockItems => 600
  | _ => 300

/-- The text of the arguments. -/
def argStr : DashboardGetter → String
  | getOrderTrends (some days) => s!"({days},)\x7b\x7d"
  | _ => "()\x7b\x7d"

/-- `hashlib.md5(arg_str.encode("utf-8")).hexdigest()[:12]`. -/
def argHash (argStr : String) : String := String.ofList ((md5 argStr).take 12)

/-- The key of the cache. -/
def key (g : DashboardGetter) : String :=
  Cache.generateCacheKey argHash "analytics" g.name g.argStr

/-- The wrapped function. -/
def query : DashboardGetter → Query DashboardTables PyValue
  | getDashboardStats =>
    .read fun ofOrders _ => .read fun ofUsers _ => .read fun ofInventory _ =>
    .read fun ofWarehouses _ =>
    .ret (.dict [item "order_count" (.int ofOrders.orders.length),
      item "user_count" (.int ofUsers.users.length),
      item "inventory_count" (.int ofInventory.inventory.length),
      item "warehouse_count" (.int ofWarehouses.warehouses.length)])
  | getOrderTrends days =>
    -- the time is taken before the statement
    .read fun _ now => .read fun tables _ =>
    .ret (orderTrends tables.orders (now - days.getD 30 * day))
  | getStatusDistribution => .read fun tables _ => .ret (statusDistribution tables.orders)
  | getLowStockItems => .read fun tables _ => .ret (Cache.getLowStockItems tables.inventory)
  | getRecentOrders =>
    .read fun tables _ =>
    .ret (.list (((orderByDesc Oms.Order.createdAt tables.orders).take 10).map recentOrder))

end DashboardGetter

/-! ### The requests -/

/-- The server, with its cache. -/
abbrev DashboardDb := Shared DashboardTables String String

/-- What happens to it. -/
abbrev DashboardWrite := SharedWrite DashboardTables String String

/-- The handlers; they answer with the results of their getters. -/
abbrev DashboardProg := Uow.Prog DashboardDb DashboardWrite RequestError (List PyValue)

/-- A request, or something else that happens. -/
inductive DashboardRequest
  /-- `dashboard`, with the replies to its five calls. -/
  | dashboard (stats trends statuses low recent : Replies)
  | orderTrends (days : ℕ) (replies : Replies)
  | statusDistribution (replies : Replies)
  | lowStock (replies : Replies)
  /-- Another part of the program commits. -/
  | commit (tables : DashboardTables)
  | tick (elapsed : ℕ)
  | evict (key : String)

/-- The calls of a request. -/
def DashboardRequest.calls : DashboardRequest → List (DashboardGetter × Replies)
  | .dashboard stats trends statuses low recent =>
    [(.getDashboardStats, stats), (.getOrderTrends none, trends),
      (.getStatusDistribution, statuses), (.getLowStockItems, low),
      (.getRecentOrders, recent)]
  | .orderTrends days replies => [(.getOrderTrends (some days), replies)]
  | .statusDistribution replies => [(.getStatusDistribution, replies)]
  | .lowStock replies => [(.getLowStockItems, replies)]
  | _ => []

variable (parseFloat : List Char → PyValue) (raised : RequestError)

/-- The calls of a request one after another, with the results so far, and what a statement raises
that fails. -/
def DashboardProg.load : List (DashboardGetter × Replies) → List PyValue → DashboardProg
  | [], results => .ret results
  | (g, replies) :: calls, results =>
    cachedCall (pyJson parseFloat) g.ttl g.key g.query replies raised
      fun result => load calls (results ++ [result])

/-- The handler of a request. -/
def DashboardRequest.handler : DashboardRequest → DashboardProg
  | .commit tables => .commit (.commit tables) (.ret [])
  | .tick elapsed => .commit (.tick elapsed) (.ret [])
  | .evict key => .commit (.evict key) (.ret [])
  | q => .load parseFloat raised q.calls []

/-- A server of the dashboard. -/
abbrev DashboardState :=
  Uow.State DashboardDb DashboardWrite DashboardRequest RequestError (List PyValue)

/-- **The requests of the dashboard**, while other things happen. -/
def dashboardSystem : Lts DashboardState (Uow.Label DashboardRequest) :=
  Uow.system SharedWrite.apply (DashboardRequest.handler parseFloat raised)

/-! ### The keys -/

theorem length_hexdigest (bytes : List ℕ) : (Md5.hexdigest bytes).length = 32 := by
  simp [Md5.hexdigest, Md5.littleEndian, Md5.hexByte]

theorem DashboardGetter.length_argHash (argStr : String) :
    (DashboardGetter.argHash argStr).toList.length = 12 := by
  rw [argHash, String.toList_ofList, List.length_take, md5, length_hexdigest]
  rfl

/-- Two getters are kept under one key: they are the same, or the hashes of their days are. -/
def DashboardGetter.Alike (g g' : DashboardGetter) : Prop :=
  g = g' ∨ ∃ days days', g = .getOrderTrends days ∧ g' = .getOrderTrends days' ∧
    argHash g.argStr = argHash g'.argStr

/-- **The keys** keep the results of different getters apart. -/
theorem DashboardGetter.alike_of_key {g g' : DashboardGetter} (h : g.key = g'.key) :
    g.Alike g' := by
  have hkey (g : DashboardGetter) : g.key.toList =
      "analytics:".toList ++ (g.name.toList ++ (":".toList ++ (argHash g.argStr).toList)) := by
    simp [key, Cache.generateCacheKey, String.toList_append]
  have hlists := congrArg String.toList h
  rw [hkey, hkey, List.append_cancel_left_eq] at hlists
  obtain ⟨hname, hhash⟩ := List.append_inj' hlists (by
    rw [List.length_append, List.length_append, length_argHash, length_argHash])
  have hhash := String.toList_injective (List.append_cancel_left hhash)
  have hname := String.toList_injective hname
  cases g with
  | getOrderTrends days =>
    cases g' with
    | getOrderTrends days' => exact .inr ⟨days, days', rfl, rfl, hhash⟩
    | _ => exact absurd hname (by simp [name])
  | _ => cases g' <;> first | exact .inl rfl | exact absurd hname (by simp [name])

/-- Results under one key are kept for one time. -/
theorem DashboardGetter.Alike.ttl_eq {g g' : DashboardGetter} (h : g.Alike g') :
    g.ttl = g'.ttl := by
  rcases h with rfl | ⟨days, days', rfl, rfl, -⟩ <;> rfl

/-! ### What a request returns -/

/-- **The result of a getter is current** at a moment of a request that has come in at another: the
request itself has read it in between, or it is read of the JSON of a result that a call of such a
getter has read and stored, less than its time to live before the moment. -/
inductive Current (d₀ : DashboardDb) (g : DashboardGetter) (since ws : List DashboardWrite)
    (value : PyValue) : Prop
  | read (hreads : g.query.Reads d₀ since ws value)
  | kept {before later : List DashboardWrite} {text : String} {g' : DashboardGetter}
    {result : PyValue} (hws : ws = before ++ .setEx g.key text (g.ttl * second) :: later)
    (hfresh : (after d₀ ws).clock < (after d₀ before).clock + g.ttl * second)
    (halike : g.Alike g') (hreads : g'.query.Reads d₀ [] before result)
    (hvalue : value = JsonText.reread result)

/-- What a call stores has been read. -/
def Stores (d₀ : DashboardDb) (ws : List DashboardWrite) : DashboardWrite → Prop
  | .setEx key text kept => ∃ g result, key = DashboardGetter.key g ∧ kept = g.ttl * second ∧
      g.query.Reads d₀ [] ws result ∧ (pyJson parseFloat).dumps result = .ok text
  | _ => True

/-- The results of some calls of a request, each returned at some moment since it has come in. -/
def ResultsOf (d₀ : DashboardDb) (gs : List DashboardGetter) (since : List DashboardWrite)
    (results : List PyValue) (ws : List DashboardWrite) : Prop :=
  List.Forall₂ (fun g result => ∃ past, since <+: past ∧ past <+: ws ∧
    Served (pyJson parseFloat) d₀ g.key g.query since past result) gs results

/-- The getters of a request. -/
def DashboardRequest.getters (q : DashboardRequest) : List DashboardGetter := q.calls.map Prod.fst

section

variable {parseFloat raised} {d₀ : DashboardDb} {ws since till : List DashboardWrite}
  {s : DashboardState} {ls : List (Uow.Label DashboardRequest)}

theorem stable_resultsOf (gs : List DashboardGetter) (since : List DashboardWrite)
    (results : List PyValue) :
    Uow.Stable fun ws => since <+: ws ∧ ResultsOf parseFloat d₀ gs since results ws := by
  rintro ws ws' hws ⟨hsince, h⟩
  refine ⟨hsince.trans hws, h.imp ?_⟩
  rintro g result ⟨past, hstart, hpast, hserved⟩
  exact ⟨past, hstart, hpast.trans hws, hserved⟩

/-- The calls of a request, after some. -/
theorem DashboardProg.justified_load {q : DashboardRequest} (h₀ : d₀.store = .empty)
    (calls : List (DashboardGetter × Replies)) (gs : List DashboardGetter) (results : List PyValue)
    (hgetters : gs ++ calls.map Prod.fst = q.getters) :
    (DashboardProg.load parseFloat raised calls results).Justified SharedWrite.apply
      (Stores parseFloat d₀) d₀ (ResultsOf parseFloat d₀ q.getters since)
      fun ws => since <+: ws ∧ ResultsOf parseFloat d₀ gs since results ws := by
  induction calls generalizing gs results with
  | nil =>
    rintro ws ⟨-, hws⟩
    rw [← hgetters, List.map_nil, List.append_nil]
    exact hws
  | cons call calls ih =>
    obtain ⟨g, replies⟩ := call
    refine Cache.justified_cachedCall h₀ (stable_resultsOf gs since results)
      (fun ws hknown => hknown.1) ?_ fun value => ?_
    · exact fun ws result text hreads hdumps => ⟨g, result, rfl, rfl, hreads, hdumps⟩
    · refine (ih (gs ++ [g]) (results ++ [value]) (by simpa using hgetters)).mono ?_
      rintro ws ⟨⟨hsince, hknown⟩, hserved⟩
      exact ⟨hsince, List.rel_append hknown (.cons hserved .nil)⟩

theorem DashboardRequest.justified_handler (h₀ : d₀.store = .empty) (q : DashboardRequest)
    (since : List DashboardWrite) :
    (DashboardRequest.handler parseFloat raised q).Justified SharedWrite.apply
      (Stores parseFloat d₀) d₀ (ResultsOf parseFloat d₀ q.getters since)
      fun ws => since <+: ws := by
  have hload : (DashboardProg.load parseFloat raised q.calls []).Justified SharedWrite.apply
      (Stores parseFloat d₀) d₀ (ResultsOf parseFloat d₀ q.getters since) fun ws => since <+: ws :=
    (DashboardProg.justified_load h₀ q.calls [] [] rfl).mono
      fun _ hsince => ⟨hsince, List.Forall₂.nil⟩
  cases q with
  | commit tables => exact ⟨fun _ _ => trivial, fun _ _ => .nil⟩
  | tick elapsed => exact ⟨fun _ _ => trivial, fun _ _ => .nil⟩
  | evict key => exact ⟨fun _ _ => trivial, fun _ _ => .nil⟩
  | _ => exact hload

end

/-- An order that waits. -/
def waiting (id : Uuid) : Oms.Order where
  id := id
  orderNo := "A"
  status := .pending
  customerId := 9
  warehouseId := none
  totalAmount := 0
  priority := .medium
  notes := ""
  isDeleted := false
  deletedAt := none
  createdAt := 0
  updatedAt := 0

/-- The statuses are asked for, a second order comes in, and they are asked for once more, just
before their time to live is over. -/
def askedAgain : List (Uow.Label DashboardRequest) :=
  [.call (.statusDistribution {}), .step 0, .step 0, .step 0, .step 0,
    .call (.commit { orders := [waiting 1, waiting 2] }), .step 0, .step 0,
    .call (.tick 299999999), .step 0, .step 0,
    .call (.statusDistribution {}), .step 0, .step 0]

/-- The JSON of the results that a request is answered. -/
def resultTexts (answer : Uow.Answer DashboardWrite DashboardRequest RequestError (List PyValue)) :
    Except RequestError (List (Except String String)) :=
  answer.outcome.map fun results => results.map (pyJson fun _ => .none).dumps

/-- A server with one order, and nothing in its cache. -/
def oneOrder : DashboardDb where
  tables := { orders := [waiting 1] }
  clock := 0

end Analytics

end OmsWmsTms
