import OmsWmsTms.Data.Dict
import OmsWmsTms.Data.OrderBy
import OmsWmsTms.Lts.Basic
import Mathlib.Data.Nat.Notation

/-!
# The sync queue of a device

`src/core/offline.py` and `src/tasks/sync.py` on the device, and `sync_push` of
`src/api/v1/mobile.py` on the server.  A push fails where the network, the outbox insert or the
commit does; the pushes of a run are marked at its end.

* `SyncRecord`, `SyncQueue` : the table `sync_queue`; `getPending`, `markSynced`, `markFailed`.
* `appendEvent`, `syncPush`, `handle` : a request on the server, and what it commits.
* `post` : one push of `process_pda_sync_queue`.
* `State.next`, `syncSystem` : its runs.
-/

namespace OmsWmsTms

namespace Pda

/-! ### The device -/

/-- What `json.loads` reads. -/
inductive JsonValue
  /-- An object, with the text of its members. -/
  | object (members : String)
  /-- Anything else. -/
  | other (text : String)
deriving DecidableEq

/-- A text, and what `json.loads` reads in it (`none` when it is malformed). -/
structure JsonText where
  /-- The text. -/
  text : String
  /-- The value that it denotes. -/
  value? : Option JsonValue
deriving DecidableEq

/-- The values of `sync_queue.status`. -/
inductive SyncStatus
  | pending | synced | failed
deriving DecidableEq

/-- A row of `sync_queue`. -/
structure SyncRecord where
  entityType : String
  entityId : String
  operation : String
  payload : Option JsonText
  status : SyncStatus := .pending
  /-- When a push failed. -/
  failedAt : Option ℤ := none
  /-- Its error. -/
  errorMessage : Option String := none
deriving DecidableEq

/-- The table `sync_queue`. -/
abbrev SyncQueue := Dict ℕ SyncRecord

/-- The row that every `SyncQueueService` inserts. -/
def initRecord : SyncRecord where
  entityType := "Order"
  entityId := "ORD-INIT"
  operation := "create"
  payload := some ⟨"\x7b\x7d", some (.object "")⟩

/-- The next key of an `INTEGER PRIMARY KEY`. -/
def nextId (queue : SyncQueue) : ℕ := queue.keys.foldl max 0 + 1

/-- `SyncQueueService.__init__`; the table has no other unique key, so that nothing is ignored. -/
def openQueue (queue : SyncQueue) : SyncQueue := queue.set (nextId queue) initRecord

/-- `get_pending`. -/
def getPending (limit : ℕ) (queue : SyncQueue) : List (ℕ × SyncRecord) :=
  (orderBy (fun a b => a.1 ≤ b.1) (queue.items.filter fun item => item.2.status = .pending)).take
    limit

/-- `mark_synced`. -/
def markSynced (ids : List ℕ) (queue : SyncQueue) : SyncQueue :=
  ids.foldl (fun queue id => queue.modify id fun record => { record with status := .synced }) queue

/-- `mark_failed`. -/
def markFailed (now : ℤ) (id : ℕ) (error : String) (queue : SyncQueue) : SyncQueue :=
  queue.modify id fun record =>
    { record with status := .failed, errorMessage := some error, failedAt := some now }

/-! ### The server -/

/-- `SyncPushItem`, before its payload is validated. -/
structure PushedItem where
  entityType : String
  entityId : String
  operation : String
  payload : JsonValue
  clientTimestamp : Option String := none
deriving DecidableEq

/-- The outbox event of an item. -/
structure SyncEvent where
  aggregateType : String
  eventType : String
  entityId : String
  operation : String
  /-- The members of the payload. -/
  data : String
  clientTimestamp : Option String
deriving DecidableEq

/-- The event that `sync_push` appends for an item; `none` when the payload is not an object. -/
def PushedItem.event? (item : PushedItem) : Option SyncEvent :=
  match item.payload with
  | .object members => some {
      aggregateType := item.entityType
      eventType := s!"{item.entityType}.{item.operation}"
      entityId := item.entityId
      operation := item.operation
      data := members
      clientTimestamp := item.clientTimestamp }
  | .other _ => none

/-- The session of a request: what it has inserted, and whether a flush has failed. -/
structure Session where
  events : List SyncEvent := []
  /-- A failed flush rolls the transaction back; until then nothing else can be done with it. -/
  deactive : Bool := false

/-- What comes of an item. -/
inductive Insert
  /-- The row is flushed. -/
  | stored
  /-- Something before the flush raises. -/
  | refused (error : String)
  /-- The flush raises. -/
  | failed (error : String)
deriving DecidableEq

/-- The text of `PendingRollbackError`. -/
def pendingRollback : String :=
  "This Session's transaction has been rolled back due to a previous exception during flush."

/-- `append_event`, with the error that it raises. -/
def appendEvent (insert : SyncEvent → Insert) (session : Session) (event : SyncEvent) :
    Option String × Session :=
  match insert event with
  | .refused error => (some error, session)
  | .stored =>
    if session.deactive then (some pendingRollback, session)
    else (none, { session with events := session.events ++ [event] })
  | .failed error =>
    if session.deactive then (some pendingRollback, session)
    else (some error, { events := [], deactive := true })

/-- `SyncPushResult`. -/
structure SyncPushResult where
  accepted : ℕ := 0
  /-- The entity and the error of every item that has failed. -/
  failed : List (String × String) := []
deriving DecidableEq

/-- `sync_push`: an item that raises is listed, and the next one is tried. -/
def syncPush (insert : SyncEvent → Insert) (events : List SyncEvent) (session : Session) :
    SyncPushResult × Session :=
  events.foldl (fun (result, session) event =>
    match appendEvent insert session event with
    | (none, session) => ({ result with accepted := result.accepted + 1 }, session)
    | (some error, session) =>
      ({ result with failed := result.failed ++ [(event.entityId, error)] }, session))
    ({}, session)

/-- The commit at the end of `get_db`: what it commits, `none` when it raises. -/
def commit (refused : Bool) (session : Session) : Option (List SyncEvent) :=
  if session.deactive ∨ refused then none else some session.events

/-- When the web framework runs the end of `get_db`. -/
inductive Timing
  | beforeResponse | afterResponse
deriving DecidableEq

/-- The responses. -/
inductive Response
  /-- 200. -/
  | ok (result : SyncPushResult)
  /-- 422. -/
  | unprocessable
  /-- 500. -/
  | serverError
deriving DecidableEq

/-- `raise_for_status` does not raise. -/
def Response.isSuccess : Response → Bool
  | .ok _ => true
  | _ => false

/-- A request with a batch, and what it commits: the body is validated before anything runs. -/
def handle (timing : Timing) (insert : SyncEvent → Insert) (refused : Bool)
    (batch : List PushedItem) : Response × List SyncEvent :=
  match batch.mapM PushedItem.event? with
  | none => (.unprocessable, [])
  | some events =>
    let (result, session) := syncPush insert events {}
    match commit refused session, timing with
    | some events, _ => (.ok result, events)
    | none, .beforeResponse => (.serverError, [])
    | none, .afterResponse => (.ok result, [])

/-! ### The pushes -/

/-- What the network does to a request. -/
inductive Link
  /-- The request does not reach the server. -/
  | unreached
  /-- The response does not reach the device. -/
  | unanswered
  | answered
deriving DecidableEq

/-- What is pushed of a record; `none` when `json.loads` raises. -/
def SyncRecord.item? (record : SyncRecord) : Option PushedItem :=
  (record.payload.bind JsonText.value?).map fun payload =>
    { entityType := record.entityType
      entityId := record.entityId
      operation := record.operation
      payload }

/-- The event of a record. -/
def SyncRecord.event? (record : SyncRecord) : Option SyncEvent :=
  record.item?.bind PushedItem.event?

/-- One push of `process_pda_sync_queue`: whether it ends without an exception, and what the server
commits. -/
def post (timing : Timing) (link : Link) (insert : SyncEvent → Insert) (refused : Bool)
    (record : SyncRecord) : Bool × List SyncEvent :=
  match record.item? with
  | none => (false, [])
  | some item =>
    let (response, events) := handle timing insert refused [item]
    match link with
    | .unreached => (false, [])
    | .unanswered => (false, events)
    | .answered => (response.isSuccess, events)

/-- `process_pda_sync_queue` in its loop: what it still has to push, and `pushed_ids`. -/
structure Run where
  todo : List (ℕ × SyncRecord)
  pushed : List ℕ := []

/-- The queue of the device, the events that the server has committed, each with the record whose
push it was, and the task, if it runs. -/
structure State where
  queue : SyncQueue
  committed : List (ℕ × SyncEvent)
  run? : Option Run

/-- What happens next. -/
inductive Label
  /-- The queue is opened and read. -/
  | start
  /-- One push; `error` is the text of its exception. -/
  | push (link : Link) (insert : SyncEvent → Insert) (refused : Bool) (error : String) (now : ℤ)
  /-- `mark_synced`. -/
  | finish

/-- **One step.** -/
def State.next (timing : Timing) (s : State) : Label → Option State
  | .start =>
    match s.run? with
    | none =>
      let queue := openQueue s.queue
      let pending := getPending 50 queue
      some { s with queue, run? := if pending = [] then none else some { todo := pending } }
    | some _ => none
  | .push link insert refused error now =>
    match s.run? with
    | some ⟨(id, record) :: todo, pushed⟩ =>
      let (done, events) := post timing link insert refused record
      let committed := s.committed ++ events.map fun event => (id, event)
      if done then some { s with committed, run? := some ⟨todo, pushed ++ [id]⟩ }
      else some {
        queue := markFailed now id error s.queue
        committed
        run? := some ⟨todo, pushed⟩ }
    | _ => none
  | .finish =>
    match s.run? with
    | some ⟨[], pushed⟩ => some { s with queue := markSynced pushed s.queue, run? := none }
    | _ => none

/-- **The runs of the task.** -/
def syncSystem (timing : Timing) : Lts State Label := .ofNext (State.next timing)

/-! ### What a step does -/

/-- The steps, case by case. -/
inductive Step (timing : Timing) (s : State) : Label → State → Prop
  | start (hrun : s.run? = none) :
    Step timing s .start { s with
      queue := openQueue s.queue
      run? := if getPending 50 (openQueue s.queue) = [] then none
        else some { todo := getPending 50 (openQueue s.queue) } }
  /-- A push that ends without an exception. -/
  | pushed (link : Link) (insert : SyncEvent → Insert) (refused : Bool) (error : String) (now : ℤ)
    (id : ℕ) (record : SyncRecord) (todo : List (ℕ × SyncRecord)) (pushed : List ℕ)
    (hrun : s.run? = some ⟨(id, record) :: todo, pushed⟩)
    (hdone : (post timing link insert refused record).1 = true) :
    Step timing s (.push link insert refused error now) { s with
      committed := s.committed ++
        (post timing link insert refused record).2.map fun event => (id, event)
      run? := some ⟨todo, pushed ++ [id]⟩ }
  /-- A push with an exception. -/
  | failed (link : Link) (insert : SyncEvent → Insert) (refused : Bool) (error : String) (now : ℤ)
    (id : ℕ) (record : SyncRecord) (todo : List (ℕ × SyncRecord)) (pushed : List ℕ)
    (hrun : s.run? = some ⟨(id, record) :: todo, pushed⟩)
    (hfailed : (post timing link insert refused record).1 = false) :
    Step timing s (.push link insert refused error now) {
      queue := markFailed now id error s.queue
      committed := s.committed ++
        (post timing link insert refused record).2.map fun event => (id, event)
      run? := some ⟨todo, pushed⟩ }
  | finish (pushed : List ℕ) (hrun : s.run? = some ⟨[], pushed⟩) :
    Step timing s .finish { s with queue := markSynced pushed s.queue, run? := none }

theorem step_of_next {timing : Timing} {s s' : State} {label : Label}
    (h : (syncSystem timing).step s label s') : Step timing s label s' := by
  replace h : s.next timing label = some s' := h
  cases label with
  | start =>
    simp only [State.next] at h
    split at h
    · rename_i hrun
      cases h
      exact .start hrun
    · cases h
  | push link insert refused error now =>
    simp only [State.next] at h
    split at h
    · rename_i id record todo pushed hrun
      split_ifs at h with hdone
      · cases h
        exact .pushed link insert refused error now id record todo pushed hrun hdone
      · cases h
        exact .failed link insert refused error now id record todo pushed hrun
          (by simpa using hdone)
    · cases h
  | finish =>
    simp only [State.next] at h
    split at h
    · rename_i pushed hrun
      cases h
      exact .finish pushed hrun
    · cases h

end Pda

end OmsWmsTms
