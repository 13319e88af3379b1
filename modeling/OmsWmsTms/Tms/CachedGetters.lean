import OmsWmsTms.Cache.Decorators
import OmsWmsTms.Lts.Basic
import OmsWmsTms.Tms.Tracking

/-!
# The cached getters

`get_transport_order`, `get_hub` and `get_route_plan` of `src/tms/service.py` under
`@cached(ttl=300, prefix="tms", skip_args=1)`, with Redis available, among any commits of the
services that write their rows.  No service deletes a key.

* `Getter.query` : the wrapped functions; `Entry` : a result in Redis, with the state it was read
  in.
* `TrackState.act`, `trackSystem` : the statements of the getters' calls, and the commits.
* `ReadsCommitted` : a getter returns what it reads in a state committed since its call.
* `Unchanged` : a call that finds a result in Redis would read the same.
* `readsCommitted_iff` : the runs of such calls.
-/

namespace OmsWmsTms

namespace Tms

/-! ### The wrapped functions -/

/-- The result of a getter. -/
inductive Details
  | order (row : OrderRow)
  | hub (row : HubRow)
  | plan (row : RoutePlan) (segments : List SegmentRow)
deriving DecidableEq

namespace TrackingDb

/-- `get_transport_order`. -/
def getTransportOrder (db : TrackingDb) (orderId : IdArg) : Except TmsError Details :=
  match orderId.uuid?.bind db.order? with
  | none => throw (.notFound s!"TransportOrder {orderId.text} not found")
  | some row => return .order row

/-- `get_hub`. -/
def getHub (db : TrackingDb) (hubId : IdArg) : Except TmsError Details :=
  match hubId.uuid?.bind db.hub? with
  | none => throw (.notFound s!"Hub {hubId.text} not found")
  | some row => return .hub row

/-- `get_route_plan`.  No service changes a plan, so its two queries are one. -/
def getRoutePlan (db : TrackingDb) (planId : IdArg) : Except TmsError Details :=
  match planId.uuid?.bind db.plan? with
  | none => throw (.notFound s!"RoutePlan {planId.text} not found")
  | some row => return .plan row (db.segmentsOf row.transportOrderId)

end TrackingDb

/-- The cached getters. -/
inductive Getter
  | getTransportOrder | getHub | getRoutePlan
deriving DecidableEq

namespace Getter

/-- `func.__name__`. -/
def name : Getter → String
  | getTransportOrder => "get_transport_order"
  | getHub => "get_hub"
  | getRoutePlan => "get_route_plan"

/-- The wrapped function. -/
def query : Getter → TrackingDb → IdArg → Except TmsError Details
  | getTransportOrder, db, id => db.getTransportOrder id
  | getHub, db, id => db.getHub id
  | getRoutePlan, db, id => db.getRoutePlan id

end Getter

/-! ### What is written and read -/

/-- What a change is a change of. -/
inductive Target
  | order (id : Uuid)
  | hub (id : Uuid)
  /-- The segments of a transport order. -/
  | segments (orderId : Uuid)
deriving DecidableEq

/-- What a change is a change of. -/
def Change.target : Change → Target
  | .order id _ => .order id
  | .event added _ => .order added.transportOrderId
  | .hub id _ => .hub id
  | .segment _ orderId _ => .segments orderId

/-- What a getter reads that changes. -/
def Getter.target (db : TrackingDb) (id : IdArg) : Getter → Option Target
  | getTransportOrder => id.uuid?.map .order
  | getHub => id.uuid?.map .hub
  | getRoutePlan => (id.uuid?.bind db.plan?).map fun row => .segments row.transportOrderId

/-! ### Calls -/

/-- A result in Redis, with the call that has stored it and the state that it had read. -/
structure Entry where
  getter : Getter
  id : IdArg
  db : TrackingDb
  details : Details
  query_eq : getter.query db id = .ok details

/-- Where the call of a getter stands. -/
inductive GetterPhase
  /-- Before its `GET`. -/
  | called
  /-- Nothing is cached, and the function is to be called. -/
  | missed
  /-- The function has returned, and its result is to be stored. -/
  | selected (entry : Entry)
  /-- The function has raised, and the handler is to call it again. -/
  | failed
  | returned (outcome : Except TmsError Details)

/-- The call of a getter. -/
structure GetterCall where
  getter : Getter
  id : IdArg
  /-- The number of earlier states of the database when it was called. -/
  since : ℕ
  /-- A service had committed a change of its object by then. -/
  touched : Bool
  phase : GetterPhase := .called

/-- The database with its earlier states, Redis, and the calls. -/
structure TrackState where
  db : TrackingDb
  /-- The earlier states of the database. -/
  past : List TrackingDb := []
  redis : Keyspace String Entry
  /-- The time of the last step. -/
  clock : ℤ
  /-- What the services have read, and will commit. -/
  pending : List Change := []
  /-- What the services have changed. -/
  written : List Target := []
  calls : List GetterCall := []

/-- A statement of a getter. -/
inductive GetterStep
  /-- The `GET`. -/
  | get
  /-- The function is called. -/
  | select
  /-- The `SET`. -/
  | set
  /-- The handler calls the function. -/
  | retry
deriving DecidableEq

/-- A step of a service or of a getter. -/
inductive TrackAction
  /-- A service reads its row. -/
  | write (call : WriteCall)
  | commit (i : ℕ)
  | rollback (i : ℕ)
  /-- Another service commits. -/
  | other (db : TrackingDb)
  | call (getter : Getter) (id : IdArg)
  /-- A step of a call. -/
  | step (i : ℕ) (step : GetterStep)

/-- A step at a time. -/
structure TrackLabel where
  now : ℤ
  action : TrackAction

namespace TrackState

variable (md5 argStr : String → String) (s : TrackState)

/-- The states of the database since it had some number of earlier ones. -/
def statesSince (n : ℕ) : List TrackingDb := s.past.drop n ++ [s.db]

/-- A commit. -/
def commit (db : TrackingDb) : TrackState := { s with db := db, past := s.past ++ [s.db] }

/-- The next phase of a call. -/
def move (i : ℕ) (call : GetterCall) (phase : GetterPhase) : TrackState :=
  { s with calls := s.calls.set i { call with phase := phase } }

/-- The key of a call. -/
def key (call : GetterCall) : String :=
  Cache.generateCacheKey md5 "tms" call.getter.name (argStr call.id.text)

/-- A step of a call. -/
def advance (i : ℕ) (call : GetterCall) : GetterStep → Option TrackState
  | .get =>
    match call.phase with
    | .called =>
      match s.redis.get s.clock (key md5 argStr call) with
      | some entry => some (s.move i call (.returned (.ok entry.details)))
      | none => some (s.move i call .missed)
    | _ => none
  | .select =>
    match call.phase with
    | .missed =>
      match h : call.getter.query s.db call.id with
      | .ok details => some (s.move i call (.selected ⟨call.getter, call.id, s.db, details, h⟩))
      | .error _ => some (s.move i call .failed)
    | _ => none
  | .set =>
    match call.phase with
    | .selected entry => some { s.move i call (.returned (.ok entry.details)) with
        redis := s.redis.setEx s.clock (key md5 argStr call) entry (300 * second) }
    | _ => none
  | .retry =>
    match call.phase with
    | .failed => some (s.move i call (.returned (call.getter.query s.db call.id)))
    | _ => none

/-- A step. -/
def act : TrackAction → Option TrackState
  | .write call =>
    match call.read s.db s.clock with
    | .ok change => some { s with pending := s.pending ++ [change] }
    | .error _ => some s
  | .commit i => s.pending[i]?.map fun change =>
      { s.commit (change.apply s.db) with
        pending := s.pending.eraseIdx i, written := change.target :: s.written }
  | .rollback i => some { s with pending := s.pending.eraseIdx i }
  | .other db => some (s.commit db)
  | .call getter id => some { s with
      calls := s.calls ++ [{
        getter := getter
        id := id
        since := s.past.length
        touched := (getter.target s.db id).any (· ∈ s.written) }] }
  | .step i step => s.calls[i]?.bind fun call => s.advance md5 argStr i call step

/-- A step, at a time that does not go back. -/
def next (label : TrackLabel) : Option TrackState :=
  if s.clock ≤ label.now then { s with clock := label.now }.act md5 argStr label.action else none

end TrackState

/-- The runs of the services and the getters. -/
def trackSystem (md5 argStr : String → String) : Lts TrackState TrackLabel :=
  Lts.ofNext (TrackState.next md5 argStr)

/-- A getter that is called when one of the services has committed a change of its object returns
what it reads in a state committed since its call. -/
def ReadsCommitted (_ : TrackState) (label : TrackLabel) (s' : TrackState) : Prop :=
  ∀ (i : ℕ) step call outcome, label.action = .step i step → s'.calls[i]? = some call →
    call.touched → call.phase = .returned outcome →
    ∃ db ∈ s'.statesSince call.since, call.getter.query db call.id = outcome

/-- A call that finds a result in Redis would read, in a state committed since, what was read
then. -/
def Unchanged (md5 argStr : String → String) (s : TrackState) (label : TrackLabel) : Prop :=
  ∀ (i : ℕ) call entry, label.action = .step i .get → s.calls[i]? = some call → call.touched →
    call.phase = .called →
    s.redis.get label.now (TrackState.key md5 argStr call) = some entry →
    ∃ db ∈ s.statesSince call.since,
      call.getter.query db call.id = entry.getter.query entry.db entry.id

/-- What a call is to store, it has read since it was called. -/
structure TrackState.Good (s : TrackState) : Prop where
  since : ∀ call ∈ s.calls, call.since ≤ s.past.length
  selected : ∀ call ∈ s.calls, ∀ entry, call.phase = .selected entry →
    entry.getter = call.getter ∧ entry.id = call.id ∧ entry.db ∈ s.statesSince call.since

/-- The ways in which a call goes on. -/
inductive Advances (md5 argStr : String → String) (s : TrackState) (i : ℕ) (call : GetterCall) :
    GetterStep → TrackState → Prop
  | hit {entry : Entry} (hphase : call.phase = .called)
      (hget : s.redis.get s.clock (TrackState.key md5 argStr call) = some entry) :
      Advances md5 argStr s i call .get (s.move i call (.returned (.ok entry.details)))
  | miss (hphase : call.phase = .called)
      (hget : s.redis.get s.clock (TrackState.key md5 argStr call) = none) :
      Advances md5 argStr s i call .get (s.move i call .missed)
  | selected {entry : Entry} (hgetter : entry.getter = call.getter) (hid : entry.id = call.id)
      (hdb : entry.db = s.db) : Advances md5 argStr s i call .select
        (s.move i call (.selected entry))
  | failed : Advances md5 argStr s i call .select (s.move i call .failed)
  | stored {entry : Entry} (hphase : call.phase = .selected entry) (redis : Keyspace String Entry) :
      Advances md5 argStr s i call .set
        { s.move i call (.returned (.ok entry.details)) with redis := redis }
  | retried : Advances md5 argStr s i call .retry
      (s.move i call (.returned (call.getter.query s.db call.id)))

variable {md5 argStr : String → String} {s s' : TrackState} {label : TrackLabel}

namespace TrackState

@[simp] theorem statesSince_move {i : ℕ} {call : GetterCall} {phase : GetterPhase} :
    (s.move i call phase).statesSince = s.statesSince := rfl

theorem mem_statesSince_self (n : ℕ) : s.db ∈ s.statesSince n := by
  simp [statesSince]

theorem statesSince_commit {n : ℕ} (hn : n ≤ s.past.length) (db : TrackingDb) :
    (s.commit db).statesSince n = s.statesSince n ++ [db] := by
  simp [statesSince, commit, List.drop_append_of_le_length hn]

theorem mem_calls_move {i : ℕ} {call call' : GetterCall} {phase : GetterPhase}
    (h : call' ∈ (s.move i call phase).calls) :
    call' ∈ s.calls ∨ call' = { call with phase := phase } :=
  List.mem_or_eq_of_mem_set h

/-- A commit keeps the invariant. -/
theorem Good.commit (h : s.Good) (db : TrackingDb) : (s.commit db).Good where
  since call hcall := (h.since call hcall).trans (by simp [TrackState.commit])
  selected call hcall entry hphase := by
    obtain ⟨hgetter, hid, hdb⟩ := h.selected call hcall entry hphase
    rw [statesSince_commit (h.since call hcall)]
    exact ⟨hgetter, hid, List.mem_append_left _ hdb⟩

/-- A call that changes its phase keeps the invariant if it has nothing else to store. -/
theorem Good.move (h : s.Good) {i : ℕ} {call : GetterCall} (hcall : s.calls[i]? = some call)
    {phase : GetterPhase} (hphase : ∀ entry, phase = .selected entry →
      entry.getter = call.getter ∧ entry.id = call.id ∧ entry.db ∈ s.statesSince call.since) :
    (s.move i call phase).Good where
  since call' hcall' := by
    rcases mem_calls_move hcall' with hold | rfl
    · exact h.since call' hold
    · exact h.since call (List.mem_of_getElem? hcall)
  selected call' hcall' := by
    rcases mem_calls_move hcall' with hold | rfl
    · exact h.selected call' hold
    · exact hphase

theorem advances_of_advance {i : ℕ} {call : GetterCall} {step : GetterStep}
    (h : s.advance md5 argStr i call step = some s') : Advances md5 argStr s i call step s' := by
  cases step with
  | get =>
    simp only [advance] at h
    split at h
    next hphase =>
      split at h
      next entry hget =>
        cases h
        exact .hit hphase hget
      next hget =>
        cases h
        exact .miss hphase hget
    next => cases h
  | select =>
    simp only [advance] at h
    split at h
    next =>
      split at h
      next details hquery =>
        cases h
        exact .selected rfl rfl rfl
      next =>
        cases h
        exact .failed
    next => cases h
  | set =>
    simp only [advance] at h
    split at h
    next entry hphase =>
      cases h
      exact .stored hphase _
    next => cases h
  | retry =>
    simp only [advance] at h
    split at h
    next =>
      cases h
      exact .retried
    next => cases h

theorem Good.advance (h : s.Good) {i : ℕ} {call : GetterCall} (hcall : s.calls[i]? = some call)
    {step : GetterStep} (hadvances : Advances md5 argStr s i call step s') : s'.Good := by
  cases hadvances with
  | hit | miss | failed | retried => exact h.move hcall (by simp)
  | selected hgetter hid hdb =>
    refine h.move hcall fun entry hentry => ?_
    cases hentry
    exact ⟨hgetter, hid, hdb ▸ mem_statesSince_self _⟩
  | @stored entry hphase redis =>
    have hmove : (s.move i call (.returned (.ok entry.details))).Good := h.move hcall (by simp)
    exact ⟨hmove.since, hmove.selected⟩

/-- **Every step keeps the invariant.** -/
theorem Good.next (h : s.Good) (hnext : s.next md5 argStr label = some s') : s'.Good := by
  obtain ⟨hclock, hact⟩ := Option.ite_none_right_eq_some.1 hnext
  obtain ⟨now, action⟩ := label
  have hgood : Good { s with clock := now } := ⟨h.since, h.selected⟩
  cases action with
  | write call =>
    simp only [act] at hact
    split at hact <;> cases hact <;> exact ⟨h.since, h.selected⟩
  | commit i =>
    obtain ⟨change, -, rfl⟩ := Option.map_eq_some_iff.1 hact
    have hcommit := hgood.commit (change.apply s.db)
    exact ⟨hcommit.since, hcommit.selected⟩
  | rollback i =>
    cases hact
    exact ⟨h.since, h.selected⟩
  | other db =>
    cases hact
    exact hgood.commit db
  | call getter id =>
    cases hact
    refine ⟨fun call hcall => ?_, fun call hcall => ?_⟩
    · rcases List.mem_append.1 hcall with hold | hnew
      · exact h.since call hold
      · rw [List.mem_singleton.1 hnew]
    · rcases List.mem_append.1 hcall with hold | hnew
      · exact h.selected call hold
      · rw [List.mem_singleton.1 hnew]
        simp
  | step i step =>
    obtain ⟨call, hcall, hadvance⟩ := Option.bind_eq_some_iff.1 hact
    exact hgood.advance hcall (advances_of_advance hadvance)

end TrackState

/-- What a call returns, by the ways in which it goes on. -/
theorem Advances.reads_iff (h : s.Good) {i : ℕ} {call : GetterCall} {step : GetterStep}
    (hcall : s.calls[i]? = some call) (hadvances : Advances md5 argStr s i call step s') :
    (∀ call' outcome, s'.calls[i]? = some call' → call'.touched →
      call'.phase = .returned outcome →
      ∃ db ∈ s'.statesSince call'.since, call'.getter.query db call'.id = outcome) ↔
    (∀ entry, step = .get → call.touched → call.phase = .called →
      s.redis.get s.clock (TrackState.key md5 argStr call) = some entry →
      ∃ db ∈ s.statesSince call.since,
        call.getter.query db call.id = entry.getter.query entry.db entry.id) := by
  have hmoved : ∀ phase, (s.move i call phase).calls[i]? = some { call with phase := phase } := by
    intro phase
    obtain ⟨hlt, -⟩ := List.getElem?_eq_some_iff.1 hcall
    simp [TrackState.move, hlt]
  cases hadvances with
  | @hit entry hphase hget =>
    constructor
    · intro hreads entry' _ htouched _ hget'
      cases hget.symm.trans hget'
      simp only [entry.query_eq]
      exact hreads { call with phase := .returned (.ok entry.details) } _ (hmoved _) htouched rfl
    · intro hunchanged call' outcome hcall' htouched houtcome
      obtain rfl := Option.some.inj ((hmoved _).symm.trans hcall')
      obtain rfl := GetterPhase.returned.inj houtcome
      have hsame := hunchanged entry rfl htouched hphase hget
      simp only [entry.query_eq] at hsame
      exact hsame
  | miss hphase hget =>
    refine iff_of_true (fun call' outcome hcall' _ houtcome => ?_) (by simp [hget])
    obtain rfl := Option.some.inj ((hmoved _).symm.trans hcall')
    cases houtcome
  | selected | failed =>
    refine iff_of_true (fun call' outcome hcall' _ houtcome => ?_) (by simp)
    obtain rfl := Option.some.inj ((hmoved _).symm.trans hcall')
    cases houtcome
  | @stored entry hphase redis =>
    obtain ⟨hgetter, hid, hdb⟩ := h.selected call (List.mem_of_getElem? hcall) entry hphase
    refine iff_of_true (fun call' outcome hcall' _ houtcome => ?_) (by simp)
    obtain rfl := Option.some.inj ((hmoved _).symm.trans hcall')
    obtain rfl := GetterPhase.returned.inj houtcome
    refine ⟨entry.db, hdb, ?_⟩
    rw [← hgetter, ← hid, entry.query_eq]
  | retried =>
    refine iff_of_true (fun call' outcome hcall' _ houtcome => ?_) (by simp)
    obtain rfl := Option.some.inj ((hmoved _).symm.trans hcall')
    obtain rfl := GetterPhase.returned.inj houtcome
    exact ⟨s.db, TrackState.mem_statesSince_self _, rfl⟩

/-- A step of a getter returns what was committed since its call if and only if a result that it
finds is unchanged. -/
theorem readsCommitted_iff_unchanged (h : s.Good) (hnext : s.next md5 argStr label = some s') :
    ReadsCommitted s label s' ↔ Unchanged md5 argStr s label := by
  obtain ⟨hclock, hact⟩ := Option.ite_none_right_eq_some.1 hnext
  obtain ⟨now, action⟩ := label
  unfold ReadsCommitted Unchanged
  cases action with
  | write | commit | rollback | other | call => simp
  | step i step =>
    obtain ⟨call, hcall, hadvance⟩ := Option.bind_eq_some_iff.1 hact
    have hgood : TrackState.Good { s with clock := now } := ⟨h.since, h.selected⟩
    have hiff := (TrackState.advances_of_advance hadvance).reads_iff hgood hcall
    constructor
    · rintro hreads j call' entry heq hcall' htouched hphase hget
      cases heq
      cases hcall.symm.trans hcall'
      exact hiff.1 (fun call'' outcome h₁ h₂ h₃ => hreads i .get call'' outcome rfl h₁ h₂ h₃) entry
        rfl htouched hphase hget
    · rintro hunchanged j step' call' outcome heq hcall' htouched hphase
      cases heq
      exact hiff.2 (fun entry hstep h₁ h₂ h₃ =>
        hunchanged i call entry (hstep ▸ rfl) hcall h₁ h₂ h₃)
        call' outcome hcall' htouched hphase

/-- The start of the services, with what Redis has. -/
def TrackState.start (db : TrackingDb) (redis : Keyspace String Entry) (clock : ℤ) :
    TrackState where
  db := db
  redis := redis
  clock := clock

/-- **The cached getters read the committed state** in exactly the runs in which a call that finds a
result in Redis would read the same. -/
theorem readsCommitted_iff {db : TrackingDb} {redis : Keyspace String Entry} {clock : ℤ}
    {labels : List TrackLabel} :
    ((trackSystem md5 argStr).restrict ReadsCommitted).Run (.start db redis clock) labels s' ↔
      ((trackSystem md5 argStr).guard (Unchanged md5 argStr)).Run
        (.start db redis clock) labels s' :=
  Lts.Run.restrict_iff_guard (I := TrackState.Good) (fun _ _ _ h hnext _ => h.next hnext)
    (fun _ _ _ h hnext => readsCommitted_iff_unchanged h hnext)
    ⟨by simp [TrackState.start], by simp [TrackState.start]⟩

/-- A draft transport order. -/
def draftOrder : OrderRow where
  order := ⟨7, none, none, none⟩
  updatedAt := 0

/-- The order is read, dispatched, and read again a minute later. -/
def readDispatchRead : List TrackLabel :=
  [⟨0, .call .getTransportOrder ⟨"7", some 7⟩⟩, ⟨0, .step 0 .get⟩, ⟨0, .step 0 .select⟩,
    ⟨0, .step 0 .set⟩, ⟨second, .write (.changeTransportStatus ⟨"7", some 7⟩ "dispatched")⟩,
    ⟨second, .commit 0⟩, ⟨60 * second, .call .getTransportOrder ⟨"7", some 7⟩⟩,
    ⟨60 * second, .step 1 .get⟩]

/-- **The second call returns the draft**, which is not committed any more. -/
theorem readDispatchRead_stale :
    ¬ ∀ labels s, (trackSystem id id).Run
      (.start { transportOrders := [draftOrder] } .empty 0) labels s →
      ∀ call ∈ s.calls, call.touched → ∀ outcome, call.phase = .returned outcome →
        ∃ db ∈ s.statesSince call.since, call.getter.query db call.id = outcome := by
  intro h
  have hrun : (Lts.runNext (TrackState.next id id)
      (.start { transportOrders := [draftOrder] } .empty 0) readDispatchRead).map
      (fun s => (s.statesSince 1, s.calls[1]?)) =
      some ([{ transportOrders :=
        [{ draftOrder with status := .dispatched, updatedAt := second }] }],
        some ⟨.getTransportOrder, ⟨"7", some 7⟩, 1, true, .returned (.ok (.order draftOrder))⟩) :=
          rfl
  obtain ⟨s, hs, hread⟩ := Lts.exists_run_of_map hrun
  obtain ⟨hstates, hcall⟩ := Prod.mk.inj hread
  obtain ⟨db, hdb, hquery⟩ := h _ s hs _ (List.mem_of_getElem? hcall) rfl _ rfl
  rw [hstates, List.mem_singleton] at hdb
  rw [hdb] at hquery
  exact absurd hquery (by decide)

end Tms

end OmsWmsTms
