import OmsWmsTms.Tms.GenerateRoutePlan
import OmsWmsTms.Tms.Tracking

/-!
# The times of a transport segment

`create_segment`, `generate_route_plan` and `update_segment_status` of `src/tms/service.py`, one
call after another, among the services that write what the planner reads.

* `createSegment`, `plannedRows` : the rows that the first two insert.
* `segmentSystem` : the calls.
* `SegmentRow.Timed` : what each status says about the two times.
* `SegmentRow.Kept` : a segment that has ended stays as it is, and a time that is set stays.
* `segments_timed` : the times along every run.
-/

namespace OmsWmsTms

namespace Tms

/-! ### The rows that are inserted -/

/-- The payload of `create_segment`. -/
structure SegmentForm where
  transportOrderId : IdArg
  segmentNo : ℕ := 0
  originHubCode : Option String := none
  destHubCode : Option String := none
  carrierCode : Option String := none
  weightKg : ℚ := 0
  costAmount : ℚ := 0
  notes : Option String := none

/-- The row that `create_segment` inserts, for an order that exists.  Of the columns that no service
reads here only the checks are kept. -/
def createSegment (orders : List TransportOrder) (rows : List SegmentRow) (now : ℤ) (newId : Uuid)
    (data : SegmentForm) : Except TmsError SegmentRow :=
  match data.transportOrderId.uuid? with
  | none => throw .valueError
  | some orderId => do
    let _ ← (data.carrierCode.filter (· ≠ "")).mapM CarrierCode.ofValue
    let _ ← (store data.weightKg : Except TmsError (Numeric 20 4))
    let _ ← (store data.costAmount : Except TmsError (Numeric 18 2))
    let originHubCode ← data.originHubCode.mapM (storeText 50)
    let destHubCode ← data.destHubCode.mapM (storeText 50)
    let _ ← data.notes.mapM (storeText 500)
    if 2147483647 < data.segmentNo then throw .dataError
    else if orderId ∉ orders.map TransportOrder.id ∨ newId ∈ rows.map (·.id) then
      throw .integrityError
    else return {
      id := newId
      segment := ⟨orderId, data.segmentNo, originHubCode, destHubCode⟩
      updatedAt := now }

/-- The rows of the segments of a plan. -/
def plannedRows (now : ℤ) (ids : List Uuid) (segments : List TransportSegment) : List SegmentRow :=
  List.zipWith (fun id segment =>
    { id := id, segment := segment.columns, updatedAt := now }) ids segments

/-! ### Runs -/

/-- A call. -/
inductive SegmentCall
  | createSegment (newId : Uuid) (data : SegmentForm)
  /-- With the identifiers of the plan and of its segments. -/
  | generateRoutePlan (planId : Uuid) (segmentIds : List Uuid) (orderId : IdArg)
    (planType : String)
  | updateSegmentStatus (segId : IdArg) (status : String)
  /-- A call of a service that writes what the planner reads, or the passing of the planner's
  time. -/
  | routing (event : RouteEvent)

/-- A call at a time. -/
structure SegmentLabel where
  now : ℤ
  call : SegmentCall
  /-- The database takes the commit. -/
  committed : Bool := true

/-- What the planner reads and stores, the rows of `transport_segments`, and the time of the last
call. -/
structure SegmentTimes where
  route : RouteState
  db : TrackingDb
  clock : ℤ

namespace SegmentTimes

/-- Insert the rows of segments. -/
def insert (s : SegmentTimes) (rows : List SegmentRow) : SegmentTimes :=
  { s with db := { s.db with transportSegments := s.db.transportSegments ++ rows } }

/-- `create_segment`. -/
def create (s : SegmentTimes) (newId : Uuid) (data : SegmentForm) : SegmentTimes :=
  match createSegment s.route.db.transportOrders s.db.transportSegments s.clock newId data with
  | .ok row => s.insert [row]
  | .error _ => s

/-- `generate_route_plan`, with the result of the planner: when the database refuses the rows, what
the planner has put into Redis stays. -/
def generate (s : SegmentTimes) (segmentIds : List Uuid)
    (result : Except TmsError (RoutePlan × List TransportSegment) × RouteState) : SegmentTimes :=
  match result.1 with
  | .ok (_, segments) =>
    if segmentIds.length = segments.length ∧
        ((s.db.transportSegments ++ plannedRows s.clock segmentIds segments).map (·.id)).Nodup then
      { s with route := result.2 }.insert (plannedRows s.clock segmentIds segments)
    else { s with route := { result.2 with db := s.route.db } }
  | .error _ => { s with route := result.2 }

/-- `update_segment_status`. -/
def update (s : SegmentTimes) (segId : IdArg) (status : String) : SegmentTimes :=
  match s.db.updateSegmentStatus s.clock segId status with
  | .ok change => { s with db := change.apply s.db }
  | .error _ => s

/-- What a call does at the time of the clock. -/
def perform (s : SegmentTimes) : SegmentCall → SegmentTimes → Prop
  | .createSegment newId data, s' => s' = s.create newId data
  | .generateRoutePlan planId segmentIds orderId planType, s' => ∃ fuel result,
    generateRoutePlan fuel s.route planId orderId planType = some result ∧
      s' = s.generate segmentIds result
  | .updateSegmentStatus segId status, s' => s' = s.update segId status
  | .routing event, s' => ∃ route, routeSystem.step s.route event route ∧
      s' = { s with route := route }

/-- A call, at a time that does not go back.  When the database refuses its commit, the tables stay
as they were, whatever the planner has put into Redis. -/
def next (s : SegmentTimes) (label : SegmentLabel) (s' : SegmentTimes) : Prop :=
  s.clock ≤ label.now ∧
    if label.committed then { s with clock := label.now }.perform label.call s'
    else ∃ cache, s' = { s with route := { s.route with cache := cache }, clock := label.now }

/-- The start, with what the planner reads. -/
def start (route : RouteState) (clock : ℤ) : SegmentTimes where
  route := { route with db := { route.db with transportSegments := [] } }
  db := {}
  clock := clock

end SegmentTimes

/-- The runs of the services. -/
def segmentSystem : Lts SegmentTimes SegmentLabel where
  step := SegmentTimes.next

/-! ### One segment -/

/-- The columns of a move along the state machine. -/
def segmentMove (now : ℤ) (target : TransportSegmentStatus) : SegmentChange where
  status := target
  actualDepartureTime := if target = .dispatched then some now else none
  actualArrivalTime := if target = .completed then some now else none
  updatedAt := now

theorem TrackingDb.updateSegmentStatus_eq_ok {db : TrackingDb} {now : ℤ} {segId : IdArg}
    {status : String} {change : Change} (h : db.updateSegmentStatus now segId status = .ok change) :
    ∃ row ∈ db.transportSegments, ∃ target ∈ row.status.transitions,
      change = .segment row.id row.segment.transportOrderId (segmentMove now target) := by
  unfold TrackingDb.updateSegmentStatus at h
  split at h
  next => cases h
  next row hrow =>
    obtain ⟨i, -, hfind⟩ := Option.bind_eq_some_iff.1 hrow
    obtain ⟨target, -, h⟩ := bind_eq_ok_iff.1 h
    by_cases hmem : target ∈ row.status.transitions
    · rw [if_pos hmem] at h
      cases h
      exact ⟨row, List.mem_of_find?_eq_some hfind, target, hmem, rfl⟩
    · rw [if_neg hmem] at h
      cases h

namespace SegmentRow

/-- What the status of a segment says about its times, none of which is after the clock. -/
structure Timed (clock : ℤ) (row : SegmentRow) : Prop where
  draft : row.status = .draft → row.actualDepartureTime = none
  departed : row.status ≠ .draft → row.status ≠ .cancelled → row.actualDepartureTime.isSome
  arrived : row.actualArrivalTime.isSome ↔ row.status = .completed
  departure_le : ∀ departure ∈ row.actualDepartureTime, departure ≤ clock
  arrival : ∀ departure ∈ row.actualDepartureTime, ∀ arrival ∈ row.actualArrivalTime,
    departure ≤ arrival

/-- A segment that has ended stays as it is, and a time that is set stays. -/
structure Kept (row row' : SegmentRow) : Prop where
  id : row'.id = row.id
  ended : row.status = .completed ∨ row.status = .cancelled → row' = row
  departure : ∀ time ∈ row.actualDepartureTime, time ∈ row'.actualDepartureTime
  arrival : ∀ time ∈ row.actualArrivalTime, time ∈ row'.actualArrivalTime

variable {clock now : ℤ} {row row' row'' : SegmentRow}

theorem Timed.mono (h : row.Timed clock) (hnow : clock ≤ now) : row.Timed now where
  draft := h.draft
  departed := h.departed
  arrived := h.arrived
  departure_le departure hdeparture := (h.departure_le departure hdeparture).trans hnow
  arrival := h.arrival

theorem Timed.new {id : Uuid} {segment : SegmentColumns} {updatedAt : ℤ} :
    Timed clock { id := id, segment := segment, updatedAt := updatedAt } where
  draft _ := rfl
  departed h := absurd rfl h
  arrived := by simp
  departure_le := by simp
  arrival := by simp

/-- A completed segment has both times, in their order. -/
theorem Timed.completed (h : row.Timed clock) (hstatus : row.status = .completed) :
    ∃ departure ∈ row.actualDepartureTime, ∃ arrival ∈ row.actualArrivalTime,
      departure ≤ arrival := by
  have hdeparted := h.departed (by simp [hstatus]) (by simp [hstatus])
  obtain ⟨departure, hdeparture⟩ := Option.isSome_iff_exists.1 hdeparted
  obtain ⟨arrival, harrival⟩ := Option.isSome_iff_exists.1 (h.arrived.2 hstatus)
  exact ⟨departure, hdeparture, arrival, harrival, h.arrival _ hdeparture _ harrival⟩

theorem Kept.refl (row : SegmentRow) : Kept row row :=
  ⟨rfl, fun _ => rfl, fun _ h => h, fun _ h => h⟩

theorem Kept.trans (h : Kept row row') (h' : Kept row' row'') : Kept row row'' where
  id := h'.id.trans h.id
  ended hended := by
    obtain rfl := h.ended hended
    exact h'.ended hended
  departure time htime := h'.departure time (h.departure time htime)
  arrival time htime := h'.arrival time (h.arrival time htime)

variable {target : TransportSegmentStatus}

/-- **A move keeps what the status says about the times.**  The departure is set by the one move
that leaves `DRAFT` for `DISPATCHED`, the arrival by the one that ends in `COMPLETED`. -/
theorem Timed.move (h : row.Timed now) (htarget : target ∈ row.status.transitions) :
    ((segmentMove now target).write row).Timed now := by
  have hnone : row.actualArrivalTime = none := by
    rw [← Option.not_isSome_iff_eq_none, h.arrived]
    rintro hstatus
    simp [hstatus, TransportSegmentStatus.transitions] at htarget
  by_cases hdispatched : target = .dispatched
  · subst hdispatched
    refine ⟨by simp [segmentMove, SegmentChange.write], ?_, ?_, ?_, ?_⟩ <;>
      simp [segmentMove, SegmentChange.write, hnone]
  -- no other move returns to `DRAFT`, and only a cancellation leaves it
  have hnew : target ≠ .draft := by
    rintro rfl
    cases hstatus : row.status <;> simp [hstatus, TransportSegmentStatus.transitions] at htarget
  have hold : target ≠ .cancelled → row.actualDepartureTime.isSome := by
    intro hcancelled
    refine h.departed (fun hstatus => ?_) fun hstatus => ?_
    · simp [hstatus, TransportSegmentStatus.transitions, hdispatched, hcancelled] at htarget
    · simp [hstatus, TransportSegmentStatus.transitions] at htarget
  refine ⟨fun hdraft => absurd hdraft hnew, fun _ hcancelled => ?_, ?_, ?_, ?_⟩
  · simpa [segmentMove, SegmentChange.write, hdispatched] using hold hcancelled
  · simp [segmentMove, SegmentChange.write, hnone]
  · simpa [segmentMove, SegmentChange.write, hdispatched] using h.departure_le
  · simp only [segmentMove, SegmentChange.write, hdispatched, hnone, if_false, Option.none_or,
      Option.or_none, Option.mem_ite_none_right]
    rintro departure hdeparture arrival ⟨-, harrival⟩
    cases harrival
    exact h.departure_le departure hdeparture

/-- A move sets no time that is set. -/
theorem Timed.kept_move (h : row.Timed now) (htarget : target ∈ row.status.transitions) :
    Kept row ((segmentMove now target).write row) := by
  refine ⟨rfl, ?_, fun time htime => ?_, fun time htime => ?_⟩
  · rintro (hstatus | hstatus) <;>
      simp [hstatus, TransportSegmentStatus.transitions] at htarget
  · have hdispatched : target ≠ .dispatched := by
      rintro rfl
      have hdraft : row.status = .draft := by
        cases hstatus : row.status <;> simp [hstatus, TransportSegmentStatus.transitions] at htarget
        rfl
      rw [h.draft hdraft] at htime
      cases htime
    simpa [segmentMove, SegmentChange.write, hdispatched] using htime
  · have hcompleted := h.arrived.1 (Option.isSome_iff_exists.2 ⟨time, htime⟩)
    simp [hcompleted, TransportSegmentStatus.transitions] at htarget

end SegmentRow

/-! ### All segments -/

theorem timed_of_mem_plannedRows {clock now : ℤ} {ids : List Uuid}
    {segments : List TransportSegment} {row : SegmentRow}
    (h : row ∈ plannedRows now ids segments) : row.Timed clock := by
  obtain ⟨i, hi⟩ := List.mem_iff_getElem?.1 h
  obtain ⟨id, segment, -, -, rfl⟩ := List.getElem?_zipWith_eq_some.1 hi
  exact .new

theorem createSegment_eq_ok {orders : List TransportOrder} {rows : List SegmentRow} {now : ℤ}
    {newId : Uuid} {data : SegmentForm} {row : SegmentRow}
    (h : createSegment orders rows now newId data = .ok row) :
    row.id ∉ rows.map (·.id) ∧ ∀ clock, row.Timed clock := by
  unfold createSegment at h
  split at h
  next => cases h
  next orderId =>
    iterate 6
      obtain ⟨_, -, h⟩ := bind_eq_ok_iff.1 h
    split_ifs at h with hno hid
    cases h
    exact ⟨fun hmem => hid (.inr hmem), fun clock => .new⟩

namespace SegmentTimes

/-- The segments have different identifiers, and the times that their statuses say. -/
structure Good (s : SegmentTimes) : Prop where
  nodup : (s.db.transportSegments.map (·.id)).Nodup
  timed : ∀ row ∈ s.db.transportSegments, row.Timed s.clock

/-- Every segment is kept. -/
def Keeps (s s' : SegmentTimes) : Prop :=
  ∀ row ∈ s.db.transportSegments, ∃ row' ∈ s'.db.transportSegments, row.Kept row'

variable {s s' s'' : SegmentTimes} {now : ℤ}

theorem Keeps.refl (s : SegmentTimes) : s.Keeps s :=
  fun row hrow => ⟨row, hrow, .refl row⟩

theorem Keeps.trans (h : s.Keeps s') (h' : s'.Keeps s'') : s.Keeps s'' := by
  intro row hrow
  obtain ⟨row', hrow', hkept⟩ := h row hrow
  obtain ⟨row'', hrow'', hkept'⟩ := h' row' hrow'
  exact ⟨row'', hrow'', hkept.trans hkept'⟩

theorem Good.mono (h : s.Good) (hnow : s.clock ≤ now) : Good { s with clock := now } where
  nodup := h.nodup
  timed row hrow := (h.timed row hrow).mono hnow

theorem Good.insert (h : s.Good) {rows : List SegmentRow}
    (hnodup : ((s.db.transportSegments ++ rows).map (·.id)).Nodup)
    (htimed : ∀ row ∈ rows, row.Timed s.clock) :
    (s.insert rows).Good ∧ s.Keeps (s.insert rows) := by
  refine ⟨⟨hnodup, fun row hrow => ?_⟩, fun row hrow => ?_⟩
  · rcases List.mem_append.1 hrow with hold | hnew
    · exact h.timed row hold
    · exact htimed row hnew
  · exact ⟨row, List.mem_append_left _ hrow, .refl row⟩

theorem Good.create (h : s.Good) (newId : Uuid) (data : SegmentForm) :
    (s.create newId data).Good ∧ s.Keeps (s.create newId data) := by
  unfold SegmentTimes.create
  split
  next row hrow =>
    obtain ⟨hid, htimed⟩ := createSegment_eq_ok hrow
    refine h.insert (nodup_map_concat h.nodup hid) fun row' hrow' => ?_
    rw [List.mem_singleton.1 hrow']
    exact htimed s.clock
  next => exact ⟨h, .refl s⟩

theorem Good.generate (h : s.Good) (segmentIds : List Uuid)
    (result : Except TmsError (RoutePlan × List TransportSegment) × RouteState) :
    (s.generate segmentIds result).Good ∧ s.Keeps (s.generate segmentIds result) := by
  have hroute : ∀ route, Good { s with route := route } := fun _ => ⟨h.nodup, h.timed⟩
  unfold SegmentTimes.generate
  split
  next plan segments _ =>
    split_ifs with hfresh
    · exact (hroute result.2).insert hfresh.2 fun row hrow => timed_of_mem_plannedRows hrow
    · exact ⟨hroute _, .refl s⟩
  next => exact ⟨hroute result.2, .refl s⟩

theorem Good.update (h : s.Good) (segId : IdArg) (status : String) :
    (s.update segId status).Good ∧ s.Keeps (s.update segId status) := by
  unfold SegmentTimes.update
  split
  next change hchange =>
    obtain ⟨row, hrow, target, htarget, rfl⟩ := TrackingDb.updateSegmentStatus_eq_ok hchange
    refine ⟨⟨?_, ?_⟩, fun row' hrow' => ?_⟩
    · have hids : (updateRows (·.id) row.id (segmentMove s.clock target).write
          s.db.transportSegments).map (·.id) = s.db.transportSegments.map (·.id) :=
        map_id_updateRows fun _ => rfl
      exact hids ▸ h.nodup
    · exact (forall_mem_updateRows_iff h.nodup h.timed hrow).2 ((h.timed row hrow).move htarget)
    · exact exists_mem_updateRows h.nodup SegmentRow.Kept.refl hrow
        ((h.timed row hrow).kept_move htarget) hrow'
  next => exact ⟨h, .refl s⟩

/-- **A call keeps the times and every segment.** -/
theorem Good.next (h : s.Good) {label : SegmentLabel} (hnext : s.next label s') :
    s'.Good ∧ s.Keeps s' := by
  obtain ⟨hclock, hnext⟩ := hnext
  have hnow := h.mono hclock
  split_ifs at hnext with hcommitted
  · obtain ⟨now, call, committed⟩ := label
    cases call with
    | createSegment newId data =>
      cases hnext
      exact hnow.create newId data
    | generateRoutePlan planId segmentIds orderId planType =>
      obtain ⟨fuel, result, -, rfl⟩ := hnext
      exact hnow.generate segmentIds result
    | updateSegmentStatus segId status =>
      cases hnext
      exact hnow.update segId status
    | routing event =>
      obtain ⟨route, -, rfl⟩ := hnext
      exact ⟨⟨hnow.nodup, hnow.timed⟩, .refl s⟩
  · obtain ⟨cache, rfl⟩ := hnext
    exact ⟨⟨hnow.nodup, hnow.timed⟩, .refl s⟩

theorem Good.run (h : s.Good) {labels : List SegmentLabel}
    (hrun : segmentSystem.Run s labels s') : s'.Good ∧ s.Keeps s' := by
  refine hrun.invariant (I := fun t => t.Good ∧ s.Keeps t) ⟨h, .refl s⟩
    fun t label t' ht hstep => ?_
  obtain ⟨hgood, hkeeps⟩ := ht.1.next hstep
  exact ⟨hgood, ht.2.trans hkeeps⟩

theorem Good.start (route : RouteState) (clock : ℤ) : (start route clock).Good :=
  ⟨List.nodup_nil, by simp [SegmentTimes.start]⟩

end SegmentTimes

/-- **The segment machine**: along every run a completed segment has both times in their order, and
every segment is kept. -/
theorem segments_timed {route : RouteState} {clock : ℤ} {labels labels' : List SegmentLabel}
    {s s' : SegmentTimes} (hrun : segmentSystem.Run (.start route clock) labels s)
    (hrun' : segmentSystem.Run s labels' s') :
    (∀ row ∈ s.db.transportSegments, row.status = .completed →
      ∃ departure ∈ row.actualDepartureTime, ∃ arrival ∈ row.actualArrivalTime,
        departure ≤ arrival) ∧
    ∀ row ∈ s.db.transportSegments, ∃ row', s'.db.segment? row.id = some row' ∧ row.Kept row' := by
  obtain ⟨hgood, -⟩ := (SegmentTimes.Good.start route clock).run hrun
  obtain ⟨hgood', hkeeps⟩ := hgood.run hrun'
  refine ⟨fun row hrow => (hgood.timed row hrow).completed, fun row hrow => ?_⟩
  obtain ⟨row', hrow', hkept⟩ := hkeeps row hrow
  exact ⟨row', hkept.id ▸ find?_id_of_mem hgood'.nodup hrow', hkept⟩

/-- A segment of the order of the small network goes all its way. -/
def segmentTrip : List SegmentLabel :=
  [⟨0, .createSegment 1 { transportOrderId := ⟨"7", some 7⟩ }, true⟩,
    ⟨1, .updateSegmentStatus ⟨"1", some 1⟩ "dispatched", true⟩,
    ⟨2, .updateSegmentStatus ⟨"1", some 1⟩ "pickup", true⟩,
    ⟨3, .updateSegmentStatus ⟨"1", some 1⟩ "in_transit", true⟩,
    ⟨4, .updateSegmentStatus ⟨"1", some 1⟩ "out_for_delivery", true⟩,
    ⟨5, .updateSegmentStatus ⟨"1", some 1⟩ "completed", true⟩]

theorem segmentTrip_timed : ∃ s : SegmentTimes,
    s.db.transportSegments.map (·.status) = [.completed] ∧
    (∀ row ∈ s.db.transportSegments, row.status = .completed →
      ∃ departure ∈ row.actualDepartureTime, ∃ arrival ∈ row.actualArrivalTime,
        departure ≤ arrival) ∧
    ∀ row ∈ s.db.transportSegments, ∃ row', s.db.segment? row.id = some row' ∧ row.Kept row' := by
  have hrun : segmentSystem.Run (.start smallState 0) segmentTrip _ :=
    .cons ⟨by decide, rfl⟩ (.cons ⟨by decide +kernel, rfl⟩ (.cons ⟨by decide +kernel, rfl⟩
      (.cons ⟨by decide +kernel, rfl⟩ (.cons ⟨by decide +kernel, rfl⟩
        (.cons ⟨by decide +kernel, rfl⟩ (.nil _))))))
  exact ⟨_, by decide +kernel, segments_timed hrun (.nil _)⟩

end Tms

end OmsWmsTms
