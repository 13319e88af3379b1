import OmsWmsTms.Oms.StatusLog
import OmsWmsTms.Txn.Decides

/-!
# The flags of stale orders

`process_stale_orders` flags the orders that wait since before midnight, in every run again: it
neither counts 24 hours nor looks for the flags that are there.

* `IsDue` : an order that waits for more than 24 hours and is not flagged since its last update.
* `flagSystem` : runs of the task, with whatever happens to the orders in between.
* `logs_processStaleOrders` : the logs of a run.
* `FlagsRight` : a run flags each order that is due once, no other one, and none twice since its
  last update.
* `flagsRight_iff` : so it is in every run exactly when the orders that wait since before midnight
  are the orders that are due.
-/

namespace OmsWmsTms

namespace Oms

open Txn (Prog Decides Session)

/-! ### What is due -/

/-- An order waits in `processing` or `picking`. -/
def IsStuck (order : Order) : Prop := order.status = .processing ∨ order.status = .picking

/-- An order has a flag that is later than its last update. -/
def FlaggedSince (d : OmsDb) (order : Order) : Prop :=
  ∃ log ∈ statusLogs d, log.orderId = order.id ∧ log.toStatus = flaggedStale ∧
    order.updatedAt < log.createdAt

/-- **An order is due**: it waits for more than 24 hours, and was not flagged since. -/
def IsDue (now : ℤ) (d : OmsDb) (order : Order) : Prop :=
  IsStuck order ∧ order.updatedAt < now - day ∧ ¬ FlaggedSince d order

/-- The flags that were written after the rows `d`. -/
def newFlags (d d' : OmsDb) : List OrderStatusLog :=
  ((statusLogs d').drop (statusLogs d).length).filter fun log => log.toStatus = flaggedStale

/-- A run flags each order that is due once, and no other one. -/
structure FlagsDue (now : ℤ) (d d' : OmsDb) : Prop where
  once : ((newFlags d d').map OrderStatusLog.orderId).Nodup
  mem_iff : ∀ id, id ∈ (newFlags d d').map OrderStatusLog.orderId ↔
    ∃ order, orderAt d (.order id) = some order ∧ IsDue now d order

/-! ### Runs -/

/-- The rows, and the orders that were flagged by a run, with the time of their last update. -/
structure FlagState where
  db : OmsDb
  flagged : List (Uuid × ℤ)

/-- What happens. -/
inductive FlagEvent
  /-- A run of the task, with its new identifiers. -/
  | run (now : ℤ) (ids : ℕ → ℕ)
  /-- Anything else. -/
  | other (db : OmsDb)

/-- The new identifiers differ from each other and from those in use. -/
structure FreshLogIds (ids : ℕ → ℕ) (d : OmsDb) : Prop where
  injective : Function.Injective ids
  unused : ∀ n, d.get? (.statusLog (ids n)) = none

/-- A flagged order and its last update. -/
def flagEntry (d : OmsDb) (log : OrderStatusLog) : Option (Uuid × ℤ) :=
  (orderAt d (.order log.orderId)).map fun order => (log.orderId, order.updatedAt)

/-- The state after an event. -/
def FlagState.after (s : FlagState) : FlagEvent → FlagState
  | .run now ids =>
    let db := ((processStaleOrders now).run ids s.db).2
    { db, flagged := s.flagged ++ (newFlags s.db db).filterMap (flagEntry s.db) }
  | .other db => { s with db }

/-- The identifiers of a run are new, and nothing else takes a flag away. -/
def FlagState.Allows (s : FlagState) : FlagEvent → Prop
  | .run _ ids => FreshLogIds ids s.db
  | .other db => Keyed db ∧
    ∀ log ∈ statusLogs s.db, log.toStatus = flaggedStale → log ∈ statusLogs db

/-- **Runs of the task, and what happens in between.** -/
def flagSystem : Lts FlagState FlagEvent where
  step s event s' := s.Allows event ∧ s' = s.after event

/-- **A run flags what is due**, and no order a second time since its last update. -/
def FlagsRight (s : FlagState) (event : FlagEvent) (s' : FlagState) : Prop :=
  match event with
  | .run now _ => FlagsDue now s.db s'.db ∧ s'.flagged.Nodup
  | .other _ => True

/-- The condition: an order that waits since before midnight does so for more than 24 hours, and is
not flagged since its last update. -/
structure OnlyDueStale (now : ℤ) (d : OmsDb) : Prop where
  day : ∀ id order, orderAt d (.order id) = some order → IsStale now order →
    order.updatedAt < now - day
  unflagged : ∀ id order, orderAt d (.order id) = some order → IsStale now order →
    ¬ FlaggedSince d order

/-- The condition on an event. -/
def StaleAreDue (s : FlagState) : FlagEvent → Prop
  | .run now _ => OnlyDueStale now s.db
  | .other _ => True

section Run

variable {now : ℤ} {d : OmsDb} {ids : ℕ → ℕ}

/-- What a flag says. -/
def flagOf (now : ℤ) (order : Order) : Uuid × String × ℤ := (order.id, flaggedStale, now)

/-- The session in which some orders have been flagged. -/
structure Flagging (d : OmsDb) (now : ℤ) (stale rest : List (OmsKey × Order))
    (s : Session OmsKey OmsRow) : Prop where
  logs : ∃ done logs, done ++ rest = stale ∧ statusLogs s.working = statusLogs d ++ logs ∧
    logs.map (fun log => (log.orderId, log.toStatus, log.createdAt)) =
      done.map fun item => flagOf now item.2
  injective : Function.Injective s.ids
  unused : ∀ n, s.working.get? (.statusLog (s.ids n)) = none

theorem decides_flagOrder {stale : List (OmsKey × Order)} (item : OmsKey × Order)
    (rest : List (OmsKey × Order)) :
    Decides (Flagging d now stale (item :: rest)) (flagOrder now item) True
      fun _ => Flagging d now stale rest := by
  refine Decides.bind_true (Q := fun id s => s.working.get? (.statusLog id) = none ∧
    (∀ n, s.ids n ≠ id) ∧ Flagging d now stale (item :: rest) s) (.newId fun s hs => ?_) fun id => ?_
  · refine ⟨hs.unused 0, fun n hn => ?_, hs.logs, fun n m hnm => ?_, fun n => hs.unused (n + 1)⟩
    · cases hs.injective hn
    · exact Nat.succ.inj (hs.injective hnm)
  · refine .insertOr (fun s hs => iff_of_true trivial hs.1) fun s hs hfree => ?_
    obtain ⟨-, hne, ⟨done, logs, hdone, hlogs, hmap⟩, hinjective, hunused⟩ := hs
    generalize hlog : OrderStatusLog.mk id _ _ _ _ _ = log
    have hset : statusLogs (s.working.set (.statusLog id) (.statusLog log)) =
        statusLogs s.working ++ [log] := Txn.rows_set_of_none hfree
    refine ⟨⟨done ++ [item], logs ++ [log], by simp [← hdone], ?_, ?_⟩, hinjective, fun n => ?_⟩
    · rw [hset, hlogs, List.append_assoc]
    · rw [List.map_append, List.map_append, hmap, ← hlog]
      rfl
    · rw [Dict.get?_set, if_neg]
      · exact hunused n
      · exact fun heq => hne n (OmsKey.statusLog.inj heq).symm

/-- **The logs of a run**: one flag for each order that waits since before midnight. -/
theorem logs_processStaleOrders (now : ℤ) (hids : FreshLogIds ids d) :
    ∃ logs, statusLogs ((processStaleOrders now).run ids d).2 = statusLogs d ++ logs ∧
      logs.map (fun log => (log.orderId, log.toStatus, log.createdAt)) =
        (selectedOrders (fun order => IsStale now order) d).map fun item => flagOf now item.2 := by
  have hdecides : Decides (fun s => s = ⟨d, d, ids⟩) (processStaleOrders now) True
      fun _ s => ∃ logs, statusLogs s.committed = statusLogs d ++ logs ∧
        logs.map (fun log => (log.orderId, log.toStatus, log.createdAt)) =
          (selectedOrders (fun order => IsStale now order) d).map fun item => flagOf now item.2 := by
    refine Decides.bind_true (p := selectOrders fun order => IsStale now order)
      (Q := fun stale s => stale = selectedOrders (fun order => IsStale now order) d ∧
        Flagging d now stale stale s) (fun s hs => ?_) fun stale => Decides.assume fun hstale => ?_
    · rw [hs, exec_selectOrders]
      exact ⟨fun _ => ⟨_, _, rfl, rfl, ⟨[], [], rfl, (List.append_nil _).symm, rfl⟩,
        hids.injective, hids.unused⟩, fun h => absurd trivial h⟩
    · refine Decides.bind_true (Decides.forEach_true (J := Flagging d now stale)
        decides_flagOrder stale)
        fun _ => Decides.bind_true (Q := fun _ s => Flagging d now stale [] ⟨s.committed,
          s.committed, s.ids⟩) (.commitOr fun s hs => ⟨hs.logs, hs.injective, hs.unused⟩) fun _ =>
          .ret fun s hs => ?_
      obtain ⟨done, logs, hdone, hlogs, hmap⟩ := hs.logs
      rw [List.append_nil] at hdone
      exact ⟨logs, hlogs, by rw [hmap, hdone, hstale]⟩
  obtain ⟨count, s, hrun, hlogs⟩ := (hdecides.run rfl).1 trivial
  rw [hrun]
  exact hlogs

/-- The flags of a run, by their orders. -/
theorem newFlags_processStaleOrders (now : ℤ) (hids : FreshLogIds ids d) :
    newFlags d ((processStaleOrders now).run ids d).2 =
      (statusLogs ((processStaleOrders now).run ids d).2).drop (statusLogs d).length ∧
    (newFlags d ((processStaleOrders now).run ids d).2).map
      (fun log => (log.orderId, log.toStatus, log.createdAt)) =
      (selectedOrders (fun order => IsStale now order) d).map fun item => flagOf now item.2 := by
  obtain ⟨logs, hlogs, hmap⟩ := logs_processStaleOrders now hids
  have hflags : logs.filter (fun log => log.toStatus = flaggedStale) = logs := by
    refine List.filter_eq_self.2 fun log hlog => decide_eq_true ?_
    have hmem := List.mem_map_of_mem
      (f := fun log : OrderStatusLog => (log.orderId, log.toStatus, log.createdAt)) hlog
    rw [hmap] at hmem
    obtain ⟨item, -, heq⟩ := List.mem_map.1 hmem
    exact (congrArg (fun flag => flag.2.1) heq).symm
  rw [newFlags, hlogs, List.drop_left, hflags]
  exact ⟨rfl, hmap⟩

theorem orderId_newFlags (now : ℤ) (hids : FreshLogIds ids d) :
    (newFlags d ((processStaleOrders now).run ids d).2).map OrderStatusLog.orderId =
      (selectedOrders (fun order => IsStale now order) d).map fun item => item.2.id := by
  have hmap := congrArg (List.map Prod.fst) (newFlags_processStaleOrders now hids).2
  rwa [List.map_map, List.map_map] at hmap

/-- **The orders that a run flags**: those that wait since before midnight. -/
theorem mem_newFlags_iff (now : ℤ) (hd : Keyed d) (hids : FreshLogIds ids d) (id : Uuid) :
    id ∈ (newFlags d ((processStaleOrders now).run ids d).2).map OrderStatusLog.orderId ↔
      ∃ order, orderAt d (.order id) = some order ∧ IsStale now order := by
  rw [orderId_newFlags now hids, List.mem_map]
  constructor
  · rintro ⟨item, hitem, rfl⟩
    obtain ⟨horder, hstale⟩ := mem_selectedOrders.1 hitem
    exact ⟨item.2, key_of_orderAt hd horder ▸ horder, of_decide_eq_true hstale⟩
  · rintro ⟨order, horder, hstale⟩
    have hid := key_of_orderAt hd horder
    exact ⟨(.order id, order), mem_selectedOrders.2 ⟨horder, decide_eq_true hstale⟩,
      (OmsKey.order.inj hid).symm⟩

/-- It flags each of them once. -/
theorem nodup_newFlags (now : ℤ) (hd : Keyed d) (hids : FreshLogIds ids d) :
    ((newFlags d ((processStaleOrders now).run ids d).2).map OrderStatusLog.orderId).Nodup := by
  rw [orderId_newFlags now hids]
  exact nodup_ids_selectedOrders hd _

theorem stale_of_isDue {order : Order} (h : IsDue now d order) : IsStale now order := by
  refine ⟨h.1, ?_⟩
  have hbefore := h.2.1
  simp only [startOfDay, day, hour, second] at hbefore ⊢
  omega

theorem updatedAt_lt_of_isStale {order : Order} (h : IsStale now order) : order.updatedAt < now := by
  have hbefore := h.2
  simp only [startOfDay, day, hour, second] at hbefore
  omega

/-- **A run flags what is due exactly when** what waits since before midnight is due. -/
theorem flagsDue_iff (now : ℤ) (hd : Keyed d) (hids : FreshLogIds ids d) :
    FlagsDue now d ((processStaleOrders now).run ids d).2 ↔ OnlyDueStale now d := by
  constructor
  · intro h
    have hdue {id : Uuid} {order : Order} (horder : orderAt d (.order id) = some order)
        (hstale : IsStale now order) : IsDue now d order := by
      obtain ⟨order', horder', hdue⟩ :=
        (h.mem_iff id).1 ((mem_newFlags_iff now hd hids id).2 ⟨order, horder, hstale⟩)
      cases horder.symm.trans horder'
      exact hdue
    exact ⟨fun id order horder hstale => (hdue horder hstale).2.1,
      fun id order horder hstale => (hdue horder hstale).2.2⟩
  · intro h
    refine ⟨nodup_newFlags now hd hids, fun id => ?_⟩
    rw [mem_newFlags_iff now hd hids]
    refine exists_congr fun order => and_congr_right fun horder => ⟨fun hstale => ?_, stale_of_isDue⟩
    exact ⟨hstale.1, h.day id order horder hstale, h.unflagged id order horder hstale⟩

end Run

/-! ### Every run -/

/-- The orders that were flagged are flagged in the rows, later than their last update. -/
structure FlagInv (s : FlagState) : Prop where
  keyed : Keyed s.db
  nodup : s.flagged.Nodup
  logged : ∀ entry ∈ s.flagged, ∃ log ∈ statusLogs s.db, log.orderId = entry.1 ∧
    log.toStatus = flaggedStale ∧ entry.2 < log.createdAt

section Runs

variable {s : FlagState} {now : ℤ} {ids : ℕ → ℕ}

theorem sublist_flagEntries (d : OmsDb) (logs : List OrderStatusLog) :
    ((logs.filterMap (flagEntry d)).map Prod.fst).Sublist (logs.map OrderStatusLog.orderId) := by
  induction logs with
  | nil => exact .slnil
  | cons log logs ih =>
    rw [List.filterMap_cons, List.map_cons, flagEntry]
    cases orderAt d (.order log.orderId) with
    | none => exact ih.cons _
    | some order => exact ih.cons_cons _

/-- What a run adds to the flagged orders. -/
theorem mem_flagEntries {entry : Uuid × ℤ}
    (h : entry ∈ (newFlags s.db (s.after (.run now ids)).db).filterMap (flagEntry s.db)) :
    ∃ log ∈ newFlags s.db (s.after (.run now ids)).db, ∃ order, log.orderId = entry.1 ∧
      orderAt s.db (.order entry.1) = some order ∧ order.updatedAt = entry.2 := by
  obtain ⟨log, hlog, hentry⟩ := List.mem_filterMap.1 h
  obtain ⟨order, horder, rfl⟩ := Option.map_eq_some_iff.1 hentry
  exact ⟨log, hlog, order, rfl, horder, rfl⟩

/-- **A run that meets the condition flags no order a second time.** -/
theorem nodup_flagged (h : FlagInv s) (hids : FreshLogIds ids s.db)
    (hdue : OnlyDueStale now s.db) : (s.after (.run now ids)).flagged.Nodup := by
  refine h.nodup.append ?_ fun entry hold hnew => ?_
  · -- its own flags are of different orders
    exact ((nodup_newFlags now h.keyed hids).sublist (sublist_flagEntries _ _)).of_map
  · obtain ⟨log, hlog, order, hid, horder, hupdated⟩ := mem_flagEntries hnew
    obtain ⟨order', horder', hstale⟩ := (mem_newFlags_iff now h.keyed hids entry.1).1
      (hid ▸ List.mem_map_of_mem hlog)
    cases horder.symm.trans horder'
    obtain ⟨flag, hflag, hflagId, hflagged, hlater⟩ := h.logged entry hold
    have horderId := OmsKey.order.inj (key_of_orderAt h.keyed horder)
    exact hdue.unflagged _ _ horder hstale
      ⟨flag, hflag, hflagId.trans horderId, hflagged, hupdated ▸ hlater⟩

/-- A flag of a run is in the rows after it. -/
theorem mem_statusLogs_of_mem_newFlags {d d' : OmsDb} {log : OrderStatusLog}
    (h : log ∈ newFlags d d') : log ∈ statusLogs d' :=
  List.mem_of_mem_drop (List.mem_of_mem_filter h)

/-- **An event keeps the flagged orders flagged**, if it meets the condition. -/
theorem flagInv_step {event : FlagEvent} {s' : FlagState} (h : FlagInv s)
    (hstep : flagSystem.step s event s') (hdue : StaleAreDue s event) : FlagInv s' := by
  obtain ⟨hallows, rfl⟩ := hstep
  cases event with
  | other db =>
    refine ⟨hallows.1, h.nodup, fun entry hentry => ?_⟩
    obtain ⟨log, hlog, hid, hflagged, hlater⟩ := h.logged entry hentry
    exact ⟨log, hallows.2 log hlog hflagged, hid, hflagged, hlater⟩
  | run now ids =>
    refine ⟨keyed_run (changes_of_inserts (inserts_processStaleOrders now)) keepsId_setsTotal
      h.keyed ids, nodup_flagged h hallows hdue, fun entry hentry => ?_⟩
    rcases List.mem_append.1 hentry with hold | hnew
    · obtain ⟨log, hlog, hid, hflagged, hlater⟩ := h.logged entry hold
      refine ⟨log, ?_, hid, hflagged, hlater⟩
      obtain ⟨logs, hlogs, -⟩ := logs_processStaleOrders now hallows
      change log ∈ statusLogs ((processStaleOrders now).run ids s.db).2
      rw [hlogs]
      exact List.mem_append_left _ hlog
    · obtain ⟨log, hlog, order, hid, horder, hupdated⟩ := mem_flagEntries hnew
      obtain ⟨order', horder', hstale⟩ := (mem_newFlags_iff now h.keyed hallows entry.1).1
        (hid ▸ List.mem_map_of_mem hlog)
      cases horder.symm.trans horder'
      -- the flag is written now, and the order was updated before
      have hmem := List.mem_map_of_mem
        (f := fun log : OrderStatusLog => (log.orderId, log.toStatus, log.createdAt)) hlog
      change _ ∈ (newFlags s.db ((processStaleOrders now).run ids s.db).2).map _ at hmem
      rw [(newFlags_processStaleOrders now hallows).2] at hmem
      obtain ⟨item, -, heq⟩ := List.mem_map.1 hmem
      have hnow : now = log.createdAt := congrArg (fun flag => flag.2.2) heq
      refine ⟨log, mem_statusLogs_of_mem_newFlags hlog, hid,
        (congrArg (fun flag => flag.2.1) heq).symm, ?_⟩
      rw [← hupdated, ← hnow]
      exact updatedAt_lt_of_isStale hstale

theorem flagsRight_step_iff {event : FlagEvent} {s' : FlagState} (h : FlagInv s)
    (hstep : flagSystem.step s event s') : FlagsRight s event s' ↔ StaleAreDue s event := by
  obtain ⟨hallows, rfl⟩ := hstep
  cases event with
  | other db => rfl
  | run now ids =>
    have hiff : FlagsDue now s.db (s.after (.run now ids)).db ↔ OnlyDueStale now s.db :=
      flagsDue_iff now h.keyed hallows
    exact ⟨fun hright => hiff.1 hright.1, fun hdue => ⟨hiff.2 hdue, nodup_flagged h hallows hdue⟩⟩

/-- **Every run of the task flags exactly what is due, and no order twice since its last update,
exactly when** before each run the orders that wait since before midnight wait for more than 24
hours and are not flagged since. -/
theorem flagsRight_iff (d : OmsDb) (hd : Keyed d) (events : List FlagEvent) (s : FlagState) :
    (flagSystem.restrict FlagsRight).Run ⟨d, []⟩ events s ↔
      (flagSystem.guard StaleAreDue).Run ⟨d, []⟩ events s :=
  Lts.Run.restrict_iff_guard (I := FlagInv) (fun _ _ _ h hstep hdue => flagInv_step h hstep hdue)
    (fun _ _ _ h hstep => flagsRight_step_iff h hstep)
    ⟨hd, List.nodup_nil, fun _ hentry => absurd hentry List.not_mem_nil⟩

end Runs

/-! ### An order that waits -/

/-- An order in `processing`, last updated at a time. -/
def processingOrder (updatedAt : ℤ) : Order :=
  { cancelledOrder with status := .processing, updatedAt }

/-- The only order. -/
def processingDb (updatedAt : ℤ) : OmsDb :=
  Dict.empty.set (.order 1) (.order (processingOrder updatedAt))

theorem keyed_processingDb (updatedAt : ℤ) : Keyed (processingDb updatedAt) := by
  intro key row h
  rw [processingDb, Dict.get?_set] at h
  split_ifs at h with hkey
  · subst hkey
    cases h
    rfl
  · cases h

theorem freshLogIds_processingDb (updatedAt : ℤ) :
    FreshLogIds (fun n => n + 2) (processingDb updatedAt) :=
  ⟨add_left_injective 2, fun n => by simp [processingDb]⟩

theorem orderAt_processingDb {updatedAt : ℤ} {id : Uuid} {order : Order}
    (h : orderAt (processingDb updatedAt) (.order id) = some order) :
    order = processingOrder updatedAt := by
  have hget := get?_of_orderAt h
  rw [processingDb, Dict.get?_set] at hget
  split_ifs at hget
  · cases hget
    rfl
  · cases hget

/-- The first run, two days after the last update, flags the order. -/
theorem processingDb_flagsRight :
    (flagSystem.restrict FlagsRight).Run ⟨processingDb 0, []⟩ [.run (2 * day) (· + 2)]
      (FlagState.after ⟨processingDb 0, []⟩ (.run (2 * day) (· + 2))) := by
  refine (flagsRight_iff _ (keyed_processingDb 0) _ _).2
    (.single ⟨⟨freshLogIds_processingDb 0, rfl⟩, ?_, ?_⟩)
  · intro id order horder _
    rw [orderAt_processingDb horder]
    decide
  · rintro id order - - ⟨log, hlog, -⟩
    cases hlog

/-- The state after the first run. -/
def flaggedState : FlagState := FlagState.after ⟨processingDb 0, []⟩ (.run (2 * day) (· + 2))

theorem freshLogIds_flaggedState : FreshLogIds (fun n => n + 3) flaggedState.db := by
  have hkeys : flaggedState.db.keys = [.order 1, .statusLog 2] := by decide +kernel
  refine ⟨add_left_injective 3, fun n => ?_⟩
  rw [Dict.get?_eq_none_iff, hkeys]
  simp

/-- **The next run, an hour later, flags it again**; and an order that was updated at eleven in the
evening is flagged at one in the night. -/
theorem hourlyRuns_not_flagsRight :
    (∃ s, flagSystem.Run ⟨processingDb 0, []⟩
        [.run (2 * day) (· + 2), .run (2 * day + hour) (· + 3)] s ∧
      s.flagged = [(1, 0), (1, 0)] ∧ ¬ (flagSystem.restrict FlagsRight).Run ⟨processingDb 0, []⟩
        [.run (2 * day) (· + 2), .run (2 * day + hour) (· + 3)] s) ∧
    ∃ s, flagSystem.Run ⟨processingDb (23 * hour), []⟩ [.run (day + hour) (· + 2)] s ∧
      s.flagged = [(1, 23 * hour)] ∧ ¬ (flagSystem.restrict FlagsRight).Run
        ⟨processingDb (23 * hour), []⟩ [.run (day + hour) (· + 2)] s := by
  constructor
  · refine ⟨flaggedState.after (.run (2 * day + hour) (· + 3)), .cons
      ⟨freshLogIds_processingDb 0, rfl⟩ (.single ⟨freshLogIds_flaggedState, rfl⟩),
      by decide +kernel, fun hrun => ?_⟩
    cases hrun with
    | cons _ hrest =>
      cases hrest with
      | cons hsecond hnil =>
        cases hnil
        exact absurd hsecond.2.2 (by decide +kernel)
  · refine ⟨FlagState.after ⟨processingDb (23 * hour), []⟩ (.run (day + hour) (· + 2)),
      .single ⟨freshLogIds_processingDb _, rfl⟩, by decide +kernel, fun hrun => ?_⟩
    cases hrun with
    | cons hfirst hnil =>
      cases hnil
      have hdue := (flagsDue_iff _ (keyed_processingDb _) (freshLogIds_processingDb _)).1 hfirst.2.1
      have hlate := hdue.day 1 (processingOrder (23 * hour)) rfl (by decide)
      revert hlate
      decide

end Oms

end OmsWmsTms
