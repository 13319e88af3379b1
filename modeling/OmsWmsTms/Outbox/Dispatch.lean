import OmsWmsTms.Core.Clock
import OmsWmsTms.Core.Errors
import OmsWmsTms.Core.Ids
import OmsWmsTms.Data.Dict
import OmsWmsTms.Data.OrderBy
import OmsWmsTms.Lts.Basic
import Mathlib.Data.Fintype.Basic
import Mathlib.Logic.Function.Basic

/-!
# The dispatch of outbox events

`src/core/outbox.py` and `src/tasks/outbox.py`: any number of workers fetch pending events, post
them one by one and record the outcomes, each statement of which is a step.  The session of a fetch
is closed before the first post, and its row locks with it.

* `dispatchPendingEvents`, `markDispatched`, `failUpdate`, `deadRetry`, `deadLetter` : the
  statements of `dispatch_pending_events`, `mark_dispatched` and `mark_failed`.
* `Phase` : where a worker is in `dispatch_outbox_events`.
* `State.next` : one step of a worker; `outboxSystem` : the runs, when the sessions open.
* `getSession` : `_get_session`, with which no session opens; `dispatchSystem` : the runs with a
  session factory.
* `Step` : what a step does, case by case.
-/

namespace OmsWmsTms

namespace Outbox

/-! ### Events -/

/-- `OutboxEventStatus`. -/
inductive OutboxEventStatus
  | pending | dispatched | failed
deriving DecidableEq

/-- The columns of `OutboxEvent` that the dispatch reads and writes. -/
structure OutboxEvent where
  /-- The status. -/
  status : OutboxEventStatus := .pending
  /-- The number of failed dispatches. -/
  retryCount : ℤ := 0
  /-- The last error. -/
  errorMessage : Option String := none
  /-- When the event should be sent again. -/
  scheduledAt : Option ℤ := none
  /-- When it was sent. -/
  dispatchedAt : Option ℤ := none
  /-- When it was created. -/
  createdAt : ℤ
deriving DecidableEq

/-- The table `outbox_events`. -/
abbrev Events := Dict Uuid OutboxEvent

/-- The condition of the query of `dispatch_pending_events`. -/
def IsDue (now : ℤ) (event : OutboxEvent) : Prop :=
  event.status = .pending ∧ ∀ t ∈ event.scheduledAt, t ≤ now

instance (now : ℤ) (event : OutboxEvent) : Decidable (IsDue now event) :=
  inferInstanceAs (Decidable (_ ∧ _))

/-- The default of `batch_size`. -/
def batchSize : ℕ := 100

/-- `dispatch_pending_events`: the due events that no other transaction has locked, oldest first. -/
def dispatchPendingEvents (now : ℤ) (locked : Uuid → Bool) (events : Events) : List Uuid :=
  let due := events.items.filter fun item => IsDue now item.2 ∧ ¬ locked item.1
  ((orderBy (fun a b => a.2.createdAt ≤ b.2.createdAt) due).take batchSize).map Prod.fst

/-- `mark_dispatched`. -/
def markDispatched (now : ℤ) (ids : List Uuid) (events : Events) : Events :=
  ids.foldl (fun events id => events.modify id fun event =>
    { event with status := .dispatched, dispatchedAt := some now }) events

/-- The condition of the first statement of `mark_failed`. -/
def MayFail (event : OutboxEvent) : Prop := event.status = .dispatched ∧ event.retryCount < 5

instance (event : OutboxEvent) : Decidable (MayFail event) := inferInstanceAs (Decidable (_ ∧ _))

/-- The first statement of `mark_failed`; `none` when it changes no row. -/
def failUpdate (now : ℤ) (id : Uuid) (error : String) (events : Events) : Option Events :=
  if (events.get? id).any fun event => MayFail event then
    some (events.modify id fun event => { event with
      status := .failed
      errorMessage := some (String.ofList (error.toList.take 500))
      retryCount := event.retryCount + 1
      scheduledAt := some (now + 60 * second) })
  else none

/-- Its second statement: the retries of the event, if it is dispatched. -/
def deadRetry (id : Uuid) (events : Events) : Option ℤ :=
  ((events.get? id).filter fun event => event.status = .dispatched).map OutboxEvent.retryCount

/-- Its third statement. -/
def deadLetter (id : Uuid) (retries : ℤ) (error : String) (events : Events) : Events :=
  events.modify id fun event => { event with
    status := .failed
    errorMessage := some s!"Max retries exceeded ({retries} attempts): {String.ofList
      (error.toList.take 400)}" }

section Events

variable {events : Events} {id : Uuid}

/-- `mark_dispatched` writes its events and no others. -/
theorem get?_markDispatched (now : ℤ) (ids : List Uuid) (events : Events) (key : Uuid) :
    (markDispatched now ids events).get? key = if key ∈ ids then (events.get? key).map fun event =>
      { event with status := .dispatched, dispatchedAt := some now } else events.get? key := by
  unfold markDispatched
  exact Dict.get?_foldl_modify (by exact fun _ => rfl) ids events key

theorem get?_markDispatched_of_mem (now : ℤ) {ids : List Uuid} {event : OutboxEvent}
    (hid : id ∈ ids)
    (hevent : events.get? id = some event) : (markDispatched now ids events).get? id =
      some { event with status := .dispatched, dispatchedAt := some now } := by
  rw [get?_markDispatched, if_pos hid, hevent]
  rfl

/-- What is fetched is due, and no other transaction has locked it. -/
theorem mem_dispatchPendingEvents {now : ℤ} {locked : Uuid → Bool}
    (h : id ∈ dispatchPendingEvents now locked events) :
    ∃ event, events.get? id = some event ∧ IsDue now event ∧ locked id = false := by
  obtain ⟨⟨key, event⟩, hitem, rfl⟩ := List.mem_map.1 h
  obtain ⟨hmem, hdue⟩ := List.mem_filter.1 (mem_orderBy.1 (List.mem_of_mem_take hitem))
  have hdue := of_decide_eq_true hdue
  exact ⟨event, Dict.get?_of_mem_items hmem, hdue.1, by simpa using hdue.2⟩

/-- What is due and free is fetched, unless the batch is full. -/
theorem mem_dispatchPendingEvents_or_full {now : ℤ} {locked : Uuid → Bool} {event : OutboxEvent}
    (hevent : events.get? id = some event) (hdue : IsDue now event) (hfree : locked id = false) :
    id ∈ dispatchPendingEvents now locked events ∨
      (dispatchPendingEvents now locked events).length = batchSize := by
  unfold dispatchPendingEvents
  have hmem : (id, event) ∈ orderBy (fun a b : Uuid × OutboxEvent => a.2.createdAt ≤ b.2.createdAt)
      (events.items.filter fun item => IsDue now item.2 ∧ ¬ locked item.1) := by
    refine mem_orderBy.2 (List.mem_filter.2 ⟨Dict.mem_items_of_get? hevent, ?_⟩)
    simp [hdue, hfree]
  refine (mem_take_or_full batchSize hmem).imp (fun htake => List.mem_map_of_mem htake)
    fun hfull => ?_
  rw [List.length_map]
  exact hfull

theorem nodup_dispatchPendingEvents (now : ℤ) (locked : Uuid → Bool) (events : Events) :
    (dispatchPendingEvents now locked events).Nodup := by
  unfold dispatchPendingEvents
  have hperm := orderBy_perm (fun a b : Uuid × OutboxEvent => a.2.createdAt ≤ b.2.createdAt)
    (events.items.filter fun item => IsDue now item.2 ∧ ¬ locked item.1)
  have hnodup := events.nodup.sublist (List.Sublist.map Prod.fst (List.filter_sublist
    (p := fun item => decide (IsDue now item.2 ∧ ¬ locked item.1))))
  exact ((hperm.map Prod.fst).nodup_iff.2 hnodup).sublist ((List.take_sublist _ _).map Prod.fst)

end Events

/-! ### Workers -/

/-- Where a worker is in `dispatch_outbox_events`; `todo` are the events that it still has to post,
and `done` is `dispatched_ids`. -/
inductive Phase
  /-- Between two runs. -/
  | idle
  /-- The session of the fetch is open, and the rows are locked. -/
  | fetching (todo : List Uuid)
  /-- In the loop. -/
  | posting (todo done : List Uuid)
  /-- At the first statement of `mark_failed`. -/
  | failing (id : Uuid) (error : String) (todo done : List Uuid)
  /-- At its second statement. -/
  | checking (id : Uuid) (error : String) (todo done : List Uuid)
  /-- At its third statement. -/
  | burying (id : Uuid) (error : String) (retries : ℤ) (todo done : List Uuid)
deriving DecidableEq

namespace Phase

/-- The events that the worker still has to post. -/
def todo : Phase → List Uuid
  | idle => []
  | fetching todo => todo
  | posting todo _ => todo
  | failing _ _ todo _ => todo
  | checking _ _ todo _ => todo
  | burying _ _ _ todo _ => todo

/-- The events that it has posted and will record as dispatched. -/
def done : Phase → List Uuid
  | idle => []
  | fetching _ => []
  | posting _ done => done
  | failing _ _ _ done => done
  | checking _ _ _ done => done
  | burying _ _ _ _ done => done

/-- The event whose post has failed and is being recorded. -/
def failed? : Phase → Option Uuid
  | failing id _ _ _ => some id
  | checking id _ _ _ => some id
  | burying id _ _ _ _ => some id
  | _ => none

/-- The rows that its open transaction has locked. -/
def locked : Phase → List Uuid
  | fetching todo => todo
  | _ => []

end Phase

/-- The table, the workers and the posts so far, each with its outcome. -/
structure State (W : Type) where
  /-- The table. -/
  events : Events
  /-- The workers. -/
  workers : W → Phase
  /-- The posts, in order. -/
  posts : List (Uuid × Bool)

/-- What happens next. -/
inductive Label (W : Type)
  /-- A service commits a new event. -/
  | append (id : Uuid) (createdAt : ℤ)
  /-- `dispatch_pending_events` of a worker. -/
  | fetch (w : W) (now : ℤ)
  /-- The end of its session. -/
  | close (w : W)
  /-- One post, with its error. -/
  | post (w : W) (error : Option String)
  /-- The first statement of `mark_failed`. -/
  | fail (w : W) (now : ℤ)
  /-- Its second statement. -/
  | check (w : W)
  /-- Its third statement. -/
  | bury (w : W)
  /-- `mark_dispatched`. -/
  | finish (w : W) (now : ℤ)

section System

variable {W : Type} [DecidableEq W] [Fintype W]

/-- A worker comes to another phase. -/
def State.goto (s : State W) (w : W) (phase : Phase) : State W :=
  { s with workers := Function.update s.workers w phase }

/-- The rows that other workers have locked. -/
def State.lockedByOthers (s : State W) (w : W) (id : Uuid) : Bool :=
  decide (∃ v, v ≠ w ∧ id ∈ (s.workers v).locked)

/-- What a fetch gives. -/
def State.fetched (s : State W) (w : W) (now : ℤ) : List Uuid :=
  dispatchPendingEvents now (s.lockedByOthers w) s.events

/-- **One step.** -/
def State.next (s : State W) : Label W → Option (State W)
  | .append id createdAt =>
    if s.events.get? id = none then some { s with events := s.events.set id { createdAt } }
    else none
  | .fetch w now =>
    match s.workers w with
    | .idle => some (s.goto w (.fetching (s.fetched w now)))
    | _ => none
  | .close w =>
    match s.workers w with
    | .fetching todo => some (s.goto w (if todo = [] then .idle else .posting todo []))
    | _ => none
  | .post w error =>
    match s.workers w, error with
    | .posting (id :: todo) done, none =>
      some { s.goto w (.posting todo (done ++ [id])) with posts := s.posts ++ [(id, true)] }
    | .posting (id :: todo) done, some error =>
      some { s.goto w (.failing id error todo done) with posts := s.posts ++ [(id, false)] }
    | _, _ => none
  | .fail w now =>
    match s.workers w with
    | .failing id error todo done =>
      match failUpdate now id error s.events with
      | some events => some { s.goto w (.posting todo done) with events }
      | none => some (s.goto w (.checking id error todo done))
    | _ => none
  | .check w =>
    match s.workers w with
    | .checking id error todo done =>
      match deadRetry id s.events with
      | some retries =>
        some (s.goto w (if 5 ≤ retries then .burying id error retries todo done
          else .posting todo done))
      | none => some (s.goto w (.posting todo done))
    | _ => none
  | .bury w =>
    match s.workers w with
    | .burying id error retries todo done =>
      some { s.goto w (.posting todo done) with events := deadLetter id retries error s.events }
    | _ => none
  | .finish w now =>
    match s.workers w with
    | .posting [] done => some { s.goto w .idle with events := markDispatched now done s.events }
    | _ => none

/-- **The runs of the workers**, when the sessions open. -/
def outboxSystem : Lts (State W) (Label W) := .ofNext State.next

/-! ### Sessions -/

/-- What `_get_session` may return. -/
inductive SessionFactory
  /-- A context manager that opens a session. -/
  | session
  /-- A function, which is none. -/
  | function
deriving DecidableEq

/-- `_get_session`: it returns `get_session` without a call. -/
def getSession : SessionFactory := .function

/-- `async with`. -/
def SessionFactory.enter : SessionFactory → Except ServiceError Unit
  | session => .ok ()
  | function => .error .typeError

/-- The worker that opens a session at a step. -/
def Label.opens? : Label W → Option W
  | fetch w _ => some w
  | fail w _ => some w
  | finish w _ => some w
  | _ => none

/-- **One step** with a session factory.  A worker that cannot open its session ends its run with the
exception. -/
def State.nextWith (factory : SessionFactory) (s : State W) (label : Label W) : Option (State W) :=
  match label.opens?, factory.enter with
  | some w, .error _ => (s.next label).map fun _ => s.goto w .idle
  | _, _ => s.next label

/-- The runs of the workers with a session factory. -/
def dispatchSystem (factory : SessionFactory) : Lts (State W) (Label W) :=
  .ofNext (State.nextWith factory)

theorem dispatchSystem_session : dispatchSystem (W := W) .session = outboxSystem := by
  refine congrArg Lts.ofNext (funext fun s => funext fun label => ?_)
  unfold State.nextWith
  cases label.opens? <;> rfl

/-- The start: no worker runs, nothing has been posted, and every event is as it was appended. -/
structure Start (s : State W) : Prop where
  idle : ∀ w, s.workers w = .idle
  posts : s.posts = []
  events : ∀ id event, s.events.get? id = some event →
    event.status = .pending ∧ event.retryCount = 0

/-- Idle workers and no events. -/
def noEvents (W : Type) : State W where
  events := Dict.empty
  workers := fun _ => .idle
  posts := []

theorem start_noEvents (W : Type) : Start (noEvents W) :=
  ⟨fun _ => rfl, rfl, fun _ _ h => nomatch h⟩

/-! ### What a step does -/

/-- The steps, case by case. -/
inductive Step (s : State W) : Label W → State W → Prop
  | append (id : Uuid) (createdAt : ℤ) (hfree : s.events.get? id = none) :
    Step s (.append id createdAt) { s with events := s.events.set id { createdAt } }
  | fetch (w : W) (now : ℤ) (hw : s.workers w = .idle) :
    Step s (.fetch w now) (s.goto w (.fetching (s.fetched w now)))
  | close (w : W) (todo : List Uuid) (hw : s.workers w = .fetching todo) :
    Step s (.close w) (s.goto w (if todo = [] then .idle else .posting todo []))
  /-- A post that succeeds. -/
  | sent (w : W) (id : Uuid) (todo done : List Uuid)
      (hw : s.workers w = .posting (id :: todo) done) :
    Step s (.post w none)
      { s.goto w (.posting todo (done ++ [id])) with posts := s.posts ++ [(id, true)] }
  /-- A post that fails. -/
  | refused (w : W) (id : Uuid) (error : String) (todo done : List Uuid)
    (hw : s.workers w = .posting (id :: todo) done) :
    Step s (.post w (some error))
      { s.goto w (.failing id error todo done) with posts := s.posts ++ [(id, false)] }
  /-- `mark_failed` finds the event dispatched. -/
  | fail (w : W) (now : ℤ) (id : Uuid) (error : String) (todo done : List Uuid)
      (event : OutboxEvent)
    (events : Events) (hw : s.workers w = .failing id error todo done)
    (hevent : s.events.get? id = some event) (hmay : MayFail event)
    (hevents : failUpdate now id error s.events = some events) :
    Step s (.fail w now) { s.goto w (.posting todo done) with events }
  /-- It does not. -/
  | notFailed (w : W) (now : ℤ) (id : Uuid) (error : String) (todo done : List Uuid)
    (hw : s.workers w = .failing id error todo done)
    (hnot : ∀ event, s.events.get? id = some event → ¬ MayFail event) :
    Step s (.fail w now) (s.goto w (.checking id error todo done))
  /-- The event has failed too often. -/
  | tooOften (w : W) (id : Uuid) (error : String) (todo done : List Uuid) (event : OutboxEvent)
    (hw : s.workers w = .checking id error todo done) (hevent : s.events.get? id = some event)
    (hdispatched : event.status = .dispatched) (hretries : 5 ≤ event.retryCount) :
    Step s (.check w) (s.goto w (.burying id error event.retryCount todo done))
  /-- It has not. -/
  | checked (w : W) (id : Uuid) (error : String) (todo done : List Uuid)
    (hw : s.workers w = .checking id error todo done) :
    Step s (.check w) (s.goto w (.posting todo done))
  | bury (w : W) (id : Uuid) (error : String) (retries : ℤ) (todo done : List Uuid)
    (hw : s.workers w = .burying id error retries todo done) :
    Step s (.bury w)
      { s.goto w (.posting todo done) with events := deadLetter id retries error s.events }
  | finish (w : W) (now : ℤ) (done : List Uuid) (hw : s.workers w = .posting [] done) :
    Step s (.finish w now) { s.goto w .idle with events := markDispatched now done s.events }

theorem failUpdate_eq_none_iff {now : ℤ} {id : Uuid} {error : String} {events : Events} :
    failUpdate now id error events = none ↔
      ∀ event, events.get? id = some event → ¬ MayFail event := by
  unfold failUpdate
  cases events.get? id with
  | none => simp
  | some event => by_cases hmay : MayFail event <;> simp [hmay]

theorem exists_of_failUpdate {now : ℤ} {id : Uuid} {error : String} {events events' : Events}
    (h : failUpdate now id error events = some events') :
    ∃ event, events.get? id = some event ∧ MayFail event := by
  by_contra hnot
  have hnone : failUpdate now id error events = none :=
    failUpdate_eq_none_iff.2 fun event hevent hmay => hnot ⟨event, hevent, hmay⟩
  rw [hnone] at h
  cases h

/-- What the first statement of `mark_failed` changes is failed afterwards. -/
theorem failed_of_failUpdate {now : ℤ} {id : Uuid} {error : String} {events events' : Events}
    (h : failUpdate now id error events = some events') :
    ∃ event, events'.get? id = some event ∧ event.status = .failed := by
  obtain ⟨event, hevent, -⟩ := exists_of_failUpdate h
  unfold failUpdate at h
  split_ifs at h
  cases h
  refine ⟨_, (Dict.get?_modify _ _ _ _).trans ((if_pos rfl).trans (congrArg _ hevent)), rfl⟩

theorem step_of_next {s s' : State W} {label : Label W} (h : outboxSystem.step s label s') :
    Step s label s' := by
  replace h : s.next label = some s' := h
  cases label with
  | append id createdAt =>
    simp only [State.next] at h
    split_ifs at h with hfree
    cases h
    exact .append id createdAt hfree
  | fetch w now =>
    simp only [State.next] at h
    split at h
    · rename_i hw
      cases h
      exact .fetch w now hw
    · cases h
  | close w =>
    simp only [State.next] at h
    split at h
    · rename_i todo hw
      cases h
      exact .close w todo hw
    · cases h
  | post w error =>
    simp only [State.next] at h
    split at h
    · rename_i id todo done hw
      cases h
      exact .sent w id todo done hw
    · rename_i id todo done error hw
      cases h
      exact .refused w id error todo done hw
    · cases h
  | fail w now =>
    simp only [State.next] at h
    split at h
    · rename_i id error todo done hw
      split at h
      · rename_i events hevents
        obtain ⟨event, hevent, hmay⟩ := exists_of_failUpdate hevents
        cases h
        exact .fail w now id error todo done event events hw hevent hmay hevents
      · rename_i hevents
        cases h
        exact .notFailed w now id error todo done hw (failUpdate_eq_none_iff.1 hevents)
    · cases h
  | check w =>
    simp only [State.next] at h
    split at h
    · rename_i id error todo done hw
      split at h
      · rename_i retries hretries
        obtain ⟨event, hevent, rfl⟩ := Option.map_eq_some_iff.1 hretries
        obtain ⟨hevent, hdispatched⟩ := Option.filter_eq_some_iff.1 hevent
        cases h
        split_ifs with hmany
        · exact .tooOften w id error todo done event hw hevent (of_decide_eq_true hdispatched) hmany
        · exact .checked w id error todo done hw
      · cases h
        exact .checked w id error todo done hw
    · cases h
  | bury w =>
    simp only [State.next] at h
    split at h
    · rename_i id error retries todo done hw
      cases h
      exact .bury w id error retries todo done hw
    · cases h
  | finish w now =>
    simp only [State.next] at h
    split at h
    · rename_i done hw
      cases h
      exact .finish w now done hw
    · cases h

end System

end Outbox

end OmsWmsTms
