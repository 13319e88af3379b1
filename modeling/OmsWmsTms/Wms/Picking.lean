import OmsWmsTms.Control.Except
import OmsWmsTms.Core.Errors
import OmsWmsTms.Core.Ids
import OmsWmsTms.Data.Rows
import OmsWmsTms.Lts.Basic

/-!
# Picking waves

`create_picking_wave`, `start_picking`, `complete_picking` and `create_packing` of
`src/wms/service.py`, and `assign_pick_task` and `complete_pick` of
`src/wms/services/picking_service.py`, one call after another.  Both services complete a wave;
`complete_pick` looks neither at its status nor at the number of its items.

* `createPickingWave`, …, `createPacking` : the services.
* `pickingSystem` : their calls, with the earlier states of the tables.
* `PickingWrites` : what a call can do.
* `KeepsWaves` : the waves go their way, their counts are in bounds, and what is packed was picked.
* `CompletesStarted` : `complete_pick` finds a wave that is started, with a count in bounds.
* `keepsWaves_iff` : the runs that keep the waves.
-/

namespace OmsWmsTms

namespace Wms

/-! ### Rows -/

/-- `LocationStatus`. -/
inductive LocationStatus
  | active | reserved | maintenance | closed
deriving DecidableEq

/-- A location, as far as picking reads it. -/
structure PickLocation where
  id : Uuid
  status : LocationStatus
deriving DecidableEq

/-- The statuses of a wave, texts in the source. -/
inductive WaveStatus
  | pending | inProgress | completed
deriving DecidableEq

/-- The text of a status. -/
def WaveStatus.text : WaveStatus → String
  | pending => "pending"
  | inProgress => "in_progress"
  | completed => "completed"

/-- `PickingWave`. -/
structure PickingWave where
  id : Uuid
  warehouseId : Uuid
  code : String
  status : WaveStatus := .pending
  totalItems : ℤ := 0
  completedItems : ℤ := 0
  assigneeId : Option Uuid := none
deriving DecidableEq

/-- `PackingRecord`. -/
structure PackingRecord where
  id : Uuid
  pickingWaveId : Uuid
  packedBy : String
  boxCount : ℤ
  notes : String
deriving DecidableEq

/-- The tables; of the warehouses, the identifiers. -/
structure PickingDb where
  warehouses : List Uuid
  locations : List PickLocation
  pickingWaves : List PickingWave := []
  packingRecords : List PackingRecord := []
deriving DecidableEq

/-! ### The services -/

/-- `uuid.UUID(text)`. -/
def readUuid (arg : IdArg) : Except ServiceError Uuid :=
  match arg.uuid? with
  | some id => .ok id
  | none => .error .valueError

namespace PickingDb

/-- Insert a wave, of a warehouse that exists. -/
def insertWave (db : PickingDb) (wave : PickingWave) : Except ServiceError PickingDb :=
  if wave.id ∈ db.pickingWaves.map (·.id) ∨ wave.code ∈ db.pickingWaves.map (·.code) ∨
      wave.warehouseId ∉ db.warehouses then
    .error .integrityError
  else .ok { db with pickingWaves := db.pickingWaves ++ [wave] }

/-- `UPDATE` a wave. -/
def setWave (db : PickingDb) (wave : PickingWave) (write : PickingWave → PickingWave) : PickingDb :=
  { db with pickingWaves := updateRows (·.id) wave.id write db.pickingWaves }

/-- The wave of an identifier, or `NotFoundException`. -/
def findWave (db : PickingDb) (waveId : IdArg) : Except ServiceError PickingWave := do
  let id ← readUuid waveId
  match db.pickingWaves.find? (·.id = id) with
  | none => throw (.notFound s!"Picking wave {waveId.text} not found")
  | some wave => return wave

/-- `create_picking_wave`, with the eight digits of the code. -/
def createPickingWave (db : PickingDb) (newId : Uuid) (digits : String) (warehouseId : IdArg)
    (orderIds : List String) : Except ServiceError PickingDb := do
  let whId ← readUuid warehouseId
  if whId ∉ db.warehouses then
    throw (.notFound s!"Warehouse {Uuid.text whId} not found")
  else if orderIds = [] then
    throw (.validation "At least one order required" none)
  else db.insertWave { id := newId, warehouseId := whId, code := s!"WAVE-{digits}" }

/-- `locs.get(sid)` is an active location. -/
def validStop (db : PickingDb) (locIds : List Uuid) (stop : IdArg) : Bool :=
  db.locations.any fun loc =>
    loc.id ∈ locIds ∧ Uuid.text loc.id = stop.text ∧ loc.status = .active

/-- `assign_pick_task`, with the time stamp of the code. -/
def assignPickTask (db : PickingDb) (newId : Uuid) (stamp : String) (warehouseId : IdArg)
    (stopIds : List IdArg) : Except ServiceError PickingDb := do
  let warehouseUuid ← readUuid warehouseId
  let locIds ← stopIds.mapM readUuid
  match stopIds.find? fun stop => !db.validStop locIds stop with
  | some stop => throw (.validation s!"Location {stop.text} is invalid" none)
  | none => db.insertWave { id := newId, warehouseId := warehouseUuid, code := s!"PW-{stamp}" }

/-- `start_picking`. -/
def startPicking (db : PickingDb) (waveId assignee : IdArg) : Except ServiceError PickingDb := do
  let wave ← db.findWave waveId
  if wave.status ≠ .pending then
    throw (.validation s!"Wave is already {wave.status.text}" none)
  else return db.setWave wave fun row =>
    { row with status := .inProgress, assigneeId := assignee.uuid? }

/-- `complete_picking`. -/
def completePicking (db : PickingDb) (waveId : IdArg) : Except ServiceError PickingDb := do
  let wave ← db.findWave waveId
  if wave.status ≠ .inProgress then
    throw (.validation s!"Cannot complete wave in '{wave.status.text}' status" none)
  else return db.setWave wave fun row =>
    { row with status := .completed, completedItems := wave.totalItems }

/-- `actual_quantity or (wave.total_items or 0)`. -/
def pickedCount (wave : PickingWave) (actualQuantity : Option ℤ) : ℤ :=
  match actualQuantity with
  | none | some 0 => wave.totalItems
  | some n => n

/-- `complete_pick`. -/
def completePick (db : PickingDb) (pickTaskId : IdArg) (actualQuantity : Option ℤ) :
    Except ServiceError PickingDb := do
  let wave ← db.findWave pickTaskId
  let completedItems ← storeInt (pickedCount wave actualQuantity)
  return db.setWave wave fun row =>
    { row with status := .completed, completedItems := completedItems }

/-- `create_packing`. -/
def createPacking (db : PickingDb) (newId : Uuid) (pickingWaveId : IdArg) (packedBy : String)
    (boxCount : ℤ) (notes : String) : Except ServiceError PickingDb := do
  let wave ← db.findWave pickingWaveId
  if wave.status ≠ .completed then
    throw (.validation "Only completed waves can be packed" none)
  else
    let packedBy ← storeText 100 packedBy
    let boxCount ← storeInt boxCount
    if newId ∈ db.packingRecords.map (·.id) then throw .integrityError
    else return { db with
      packingRecords := db.packingRecords ++ [⟨newId, wave.id, packedBy, boxCount, notes⟩] }

end PickingDb

/-! ### Runs -/

/-- A call. -/
inductive PickingCall
  | createPickingWave (newId : Uuid) (digits : String) (warehouseId : IdArg)
      (orderIds : List String)
  | assignPickTask (newId : Uuid) (stamp : String) (warehouseId : IdArg) (stopIds : List IdArg)
  | startPicking (waveId assignee : IdArg)
  | completePicking (waveId : IdArg)
  | completePick (pickTaskId : IdArg) (actualQuantity : Option ℤ)
  | createPacking (newId : Uuid) (pickingWaveId : IdArg) (packedBy : String) (boxCount : ℤ)
    (notes : String)

/-- The tables after a call whose commit is taken. -/
def PickingCall.run (db : PickingDb) : PickingCall → Except ServiceError PickingDb
  | .createPickingWave newId digits warehouseId orderIds =>
    db.createPickingWave newId digits warehouseId orderIds
  | .assignPickTask newId stamp warehouseId stopIds =>
    db.assignPickTask newId stamp warehouseId stopIds
  | .startPicking waveId assignee => db.startPicking waveId assignee
  | .completePicking waveId => db.completePicking waveId
  | .completePick pickTaskId actualQuantity => db.completePick pickTaskId actualQuantity
  | .createPacking newId pickingWaveId packedBy boxCount notes =>
    db.createPacking newId pickingWaveId packedBy boxCount notes

/-- A call, and whether its changes are committed (by the caller, after `assign_pick_task`). -/
structure PickingLabel where
  call : PickingCall
  committed : Bool := true

/-- The tables, with their earlier states. -/
structure Picking where
  db : PickingDb
  past : List PickingDb := []

/-- A call.  One that raises is rolled back. -/
def Picking.next (s : Picking) (label : PickingLabel) : Option Picking :=
  some {
    db := match label.call.run s.db with
      | .ok db => if label.committed then db else s.db
      | .error _ => s.db
    past := s.db :: s.past }

/-- The runs of the two services. -/
def pickingSystem : Lts Picking PickingLabel := Lts.ofNext Picking.next

/-! ### The waves -/

/-- The ways of a wave in one step. -/
inductive WaveStatus.Leads : WaveStatus → WaveStatus → Prop
  | stays (status : WaveStatus) : Leads status status
  | starts : Leads pending inProgress
  | completes : Leads inProgress completed

/-- A wave has been in progress. -/
def Picking.Started (s : Picking) (waveId : Uuid) : Prop :=
  ∃ db ∈ s.past, ∃ wave ∈ db.pickingWaves, wave.id = waveId ∧ wave.status = .inProgress

/-- The counts of a wave are in bounds. -/
def PickingWave.Counted (wave : PickingWave) : Prop :=
  0 ≤ wave.completedItems ∧ wave.completedItems ≤ wave.totalItems

/-- A step takes every wave along its way and starts the new ones as `pending`; after it the counts
are in bounds, and what is packed has been in progress. -/
structure KeepsWaves (s s' : Picking) : Prop where
  moves : ∀ wave ∈ s.db.pickingWaves, ∃ wave' ∈ s'.db.pickingWaves, wave'.id = wave.id ∧
    wave.status.Leads wave'.status
  new : ∀ wave' ∈ s'.db.pickingWaves, wave'.id ∉ s.db.pickingWaves.map (·.id) →
    wave'.status = .pending
  counted : ∀ wave' ∈ s'.db.pickingWaves, wave'.Counted
  packed : ∀ record ∈ s'.db.packingRecords, s'.Started record.pickingWaveId

/-- `complete_pick` finds a wave that is started, and a count in its bounds; a count that the column
does not hold is refused. -/
def CompletesStarted (s : Picking) (label : PickingLabel) : Prop :=
  label.committed → ∀ pickTaskId actualQuantity wave,
    label.call = .completePick pickTaskId actualQuantity → s.db.findWave pickTaskId = .ok wave →
    FitsInteger (PickingDb.pickedCount wave actualQuantity) →
    wave.status ≠ .pending ∧ ∀ n ∈ actualQuantity, 0 ≤ n ∧ n ≤ wave.totalItems

/-! ### What a call can do -/

/-- What a call that does not raise does to the tables. -/
inductive PickingWrites (db : PickingDb) : PickingCall → PickingDb → Prop
  | insert {call : PickingCall} {wave : PickingWave} (hcall : ∀ id n, call ≠ .completePick id n)
      (hid : wave.id ∉ db.pickingWaves.map (·.id)) (hstatus : wave.status = .pending)
      (hcounted : wave.Counted) :
      PickingWrites db call { db with pickingWaves := db.pickingWaves ++ [wave] }
  | start {waveId assignee : IdArg} {wave : PickingWave} (hwave : db.findWave waveId = .ok wave)
      (hstatus : wave.status = .pending) : PickingWrites db (.startPicking waveId assignee)
        (db.setWave wave fun row =>
          { row with status := .inProgress, assigneeId := assignee.uuid? })
  | complete {waveId : IdArg} {wave : PickingWave} (hwave : db.findWave waveId = .ok wave)
      (hstatus : wave.status = .inProgress) : PickingWrites db (.completePicking waveId)
        (db.setWave wave fun row =>
          { row with status := .completed, completedItems := wave.totalItems })
  | pick {pickTaskId : IdArg} {actualQuantity : Option ℤ} {wave : PickingWave}
      (hwave : db.findWave pickTaskId = .ok wave)
      (hfits : FitsInteger (PickingDb.pickedCount wave actualQuantity)) :
      PickingWrites db (.completePick pickTaskId actualQuantity)
        (db.setWave wave fun row => { row with
          status := .completed, completedItems := PickingDb.pickedCount wave actualQuantity })
  | pack {newId : Uuid} {pickingWaveId : IdArg} {packedBy : String} {boxCount : ℤ} {notes : String}
      {wave : PickingWave} {record : PackingRecord} (hwave : db.findWave pickingWaveId = .ok wave)
      (hstatus : wave.status = .completed) (hrecord : record.pickingWaveId = wave.id) :
      PickingWrites db (.createPacking newId pickingWaveId packedBy boxCount notes)
        { db with packingRecords := db.packingRecords ++ [record] }

namespace PickingDb

variable {db db' : PickingDb} {wave : PickingWave}

theorem mem_of_findWave {waveId : IdArg} (h : db.findWave waveId = .ok wave) :
    wave ∈ db.pickingWaves := by
  obtain ⟨id, -, h⟩ := bind_eq_ok_iff.1 h
  split at h
  next => cases h
  next wave' hfind =>
    cases h
    exact List.mem_of_find?_eq_some hfind

/-- An `UPDATE` of other columns keeps the identifiers. -/
theorem nodup_setWave {write : PickingWave → PickingWave}
    (hnodup : (db.pickingWaves.map (·.id)).Nodup)
    (hid : ∀ row, (write row).id = row.id) :
    ((db.setWave wave write).pickingWaves.map (·.id)).Nodup := by
  rw [setWave, map_id_updateRows hid]
  exact hnodup

theorem insertWave_eq_ok (h : db.insertWave wave = .ok db') :
    wave.id ∉ db.pickingWaves.map (·.id) ∧
      db' = { db with pickingWaves := db.pickingWaves ++ [wave] } := by
  unfold insertWave at h
  split_ifs at h with htaken
  cases h
  exact ⟨fun hid => htaken (.inl hid), rfl⟩

theorem completePick_eq_ok_iff {pickTaskId : IdArg} {actualQuantity : Option ℤ} :
    db.completePick pickTaskId actualQuantity = .ok db' ↔
      ∃ wave, db.findWave pickTaskId = .ok wave ∧ FitsInteger (pickedCount wave actualQuantity) ∧
        (db.setWave wave fun row => { row with
          status := .completed, completedItems := pickedCount wave actualQuantity }) = db' := by
  simp only [completePick, bind_eq_ok_iff, storeInt_eq_ok_iff, pure_eq_ok_iff]
  refine exists_congr fun wave => and_congr_right fun _ => ?_
  constructor
  · rintro ⟨count, ⟨hfits, rfl⟩, hdb'⟩
    exact ⟨hfits, hdb'⟩
  · rintro ⟨hfits, hdb'⟩
    exact ⟨_, ⟨hfits, rfl⟩, hdb'⟩

/-- **What the calls do.** -/
theorem writes_of_run {call : PickingCall} (h : call.run db = .ok db') :
    PickingWrites db call db' := by
  cases call with
  | createPickingWave newId digits warehouseId orderIds =>
    obtain ⟨whId, -, h⟩ := bind_eq_ok_iff.1 h
    split_ifs at h with hwarehouse horders
    obtain ⟨hid, rfl⟩ := insertWave_eq_ok h
    exact .insert (by simp) hid rfl ⟨le_rfl, le_rfl⟩
  | assignPickTask newId stamp warehouseId stopIds =>
    obtain ⟨whId, -, h⟩ := bind_eq_ok_iff.1 h
    obtain ⟨locIds, -, h⟩ := bind_eq_ok_iff.1 h
    split at h
    next => cases h
    next =>
      obtain ⟨hid, rfl⟩ := insertWave_eq_ok h
      exact .insert (by simp) hid rfl ⟨le_rfl, le_rfl⟩
  | startPicking waveId assignee =>
    obtain ⟨wave, hwave, h⟩ := bind_eq_ok_iff.1 h
    split_ifs at h with hstatus
    cases h
    exact .start hwave (not_not.1 hstatus)
  | completePicking waveId =>
    obtain ⟨wave, hwave, h⟩ := bind_eq_ok_iff.1 h
    split_ifs at h with hstatus
    cases h
    exact .complete hwave (not_not.1 hstatus)
  | completePick pickTaskId actualQuantity =>
    obtain ⟨wave, hwave, hfits, rfl⟩ := completePick_eq_ok_iff.1 h
    exact .pick hwave hfits
  | createPacking newId pickingWaveId packedBy boxCount notes =>
    obtain ⟨wave, hwave, h⟩ := bind_eq_ok_iff.1 h
    by_cases hstatus : wave.status = .completed
    · rw [if_neg (not_not.2 hstatus)] at h
      obtain ⟨packedBy', -, h⟩ := bind_eq_ok_iff.1 h
      obtain ⟨boxCount', -, h⟩ := bind_eq_ok_iff.1 h
      split_ifs at h with htaken
      cases h
      exact .pack hwave hstatus rfl
    · rw [if_pos hstatus] at h
      cases h

end PickingDb

/-! ### What the steps keep -/

/-- The waves have different identifiers and counts in bounds; what is completed or packed has been
in progress. -/
structure Picking.Good (s : Picking) : Prop where
  nodup : (s.db.pickingWaves.map (·.id)).Nodup
  counted : ∀ wave ∈ s.db.pickingWaves, wave.Counted
  started : ∀ wave ∈ s.db.pickingWaves, wave.status = .completed → s.Started wave.id
  packed : ∀ record ∈ s.db.packingRecords, s.Started record.pickingWaveId

namespace Picking

variable {s s' : Picking} {label : PickingLabel} {db : PickingDb} {wave : PickingWave}
  {write : PickingWave → PickingWave}

theorem Started.mono {waveId : Uuid} (h : s.Started waveId) (hpast : s'.past = s.db :: s.past) :
    s'.Started waveId := by
  obtain ⟨db, hdb, hwave⟩ := h
  exact ⟨db, hpast ▸ List.mem_cons_of_mem _ hdb, hwave⟩

theorem started_of_mem (hwave : wave ∈ s.db.pickingWaves) (hstatus : wave.status = .inProgress)
    (hpast : s'.past = s.db :: s.past) : s'.Started wave.id :=
  ⟨s.db, hpast ▸ List.mem_cons_self, wave, hwave, rfl, hstatus⟩

/-- A step commits what a call does, or leaves the tables as they were. -/
theorem next_cases (hnext : s.next label = some s') :
    s'.past = s.db :: s.past ∧
      ((label.committed ∧ PickingWrites s.db label.call s'.db) ∨
        s'.db = s.db ∧ ¬ (label.committed ∧ ∃ db, label.call.run s.db = .ok db)) := by
  cases hnext
  refine ⟨rfl, ?_⟩
  cases hrun : label.call.run s.db with
  | ok db =>
    by_cases hcommitted : label.committed
    · simp only [if_pos hcommitted]
      exact .inl ⟨hcommitted, PickingDb.writes_of_run hrun⟩
    · exact .inr ⟨if_neg hcommitted, fun h => hcommitted h.1⟩
  | error e => exact .inr ⟨rfl, fun h => by simp at h⟩

/-- A step that leaves the waves as they are. -/
theorem Good.keepsWaves_same (h : s.Good) (hwaves : s'.db.pickingWaves = s.db.pickingWaves)
    (hpacked : ∀ record ∈ s'.db.packingRecords, s'.Started record.pickingWaveId) :
    KeepsWaves s s' where
  moves wave hwave := ⟨wave, hwaves ▸ hwave, rfl, .stays _⟩
  new _ hwave' hnew := absurd (List.mem_map_of_mem (hwaves ▸ hwave')) hnew
  counted := hwaves ▸ h.counted
  packed := hpacked

/-- The `UPDATE` of a wave keeps the waves exactly if it keeps this one. -/
theorem Good.keepsWaves_setWave_iff (h : s.Good) (hwave : wave ∈ s.db.pickingWaves)
    (hdb : s'.db = s.db.setWave wave write) (hid : ∀ row, (write row).id = row.id)
    (hpast : s'.past = s.db :: s.past) :
    KeepsWaves s s' ↔ wave.status.Leads (write wave).status ∧ (write wave).Counted := by
  have hwaves : s'.db.pickingWaves = updateRows (·.id) wave.id write s.db.pickingWaves := by
    rw [hdb]
    rfl
  constructor
  · intro hkeeps
    obtain ⟨wave', hwave', hid', hleads⟩ := hkeeps.moves wave hwave
    rw [hwaves] at hwave'
    refine ⟨?_, hkeeps.counted _ (hwaves ▸ mem_updateRows.2 (.inl ⟨wave, hwave, rfl, rfl⟩))⟩
    rcases mem_updateRows.1 hwave' with ⟨row, hrow, hsame, rfl⟩ | ⟨-, hother⟩
    · rwa [List.inj_on_of_nodup_map h.nodup hrow hwave hsame] at hleads
    · exact absurd hid' hother
  · rintro ⟨hleads, hcounted⟩
    refine ⟨fun wave₁ hwave₁ => ?_, fun wave' hwave' hnew => ?_, ?_, fun record hrecord => ?_⟩
    · rw [hwaves]
      exact exists_mem_updateRows
        (R := fun row row' => row'.id = row.id ∧ row.status.Leads row'.status) h.nodup
        (fun row => ⟨rfl, .stays _⟩) hwave ⟨hid wave, hleads⟩ hwave₁
    · refine absurd ?_ hnew
      rw [← map_id_updateRows hid, ← hwaves]
      exact List.mem_map_of_mem hwave'
    · rw [hwaves]
      exact (forall_mem_updateRows_iff h.nodup h.counted hwave).2 hcounted
    · rw [hdb] at hrecord
      exact (h.packed record hrecord).mono hpast

/-- A step keeps the waves exactly if a pick that it completes was started, with a count in its
bounds. -/
theorem Good.keepsWaves_next_iff (h : s.Good) (hnext : s.next label = some s') :
    KeepsWaves s s' ↔ CompletesStarted s label := by
  obtain ⟨hpast, hcases⟩ := next_cases hnext
  have hpacked : ∀ record ∈ s.db.packingRecords, s'.Started record.pickingWaveId :=
    fun record hrecord => (h.packed record hrecord).mono hpast
  obtain ⟨hcommitted, hwrites⟩ | ⟨hsame, hnone⟩ := hcases
  · obtain ⟨call, committed⟩ := label
    generalize hdb : s'.db = db' at hwrites
    cases hwrites with
    | @insert call wave hcall hid hstatus hcounted =>
      refine iff_of_true ⟨fun wave' hwave' => ?_, fun wave' hwave' hnew => ?_,
        fun wave' hwave' => ?_, ?_⟩ fun _ id n _ heq => absurd heq (hcall id n)
      · rw [hdb]
        exact ⟨wave', List.mem_append_left _ hwave', rfl, .stays _⟩
      · rw [hdb] at hwave'
        rcases List.mem_append.1 hwave' with hold | hadded
        · exact absurd (List.mem_map_of_mem hold) hnew
        · rw [List.mem_singleton.1 hadded, hstatus]
      · rw [hdb] at hwave'
        rcases List.mem_append.1 hwave' with hold | hadded
        · exact h.counted wave' hold
        · rwa [List.mem_singleton.1 hadded]
      · rw [hdb]
        exact hpacked
    | @start waveId assignee wave hwave hstatus =>
      have hmem := PickingDb.mem_of_findWave hwave
      refine iff_of_true ?_ fun _ _ _ _ heq => nomatch heq
      refine (h.keepsWaves_setWave_iff hmem hdb (fun _ => rfl) hpast).2 ⟨?_, h.counted wave hmem⟩
      rw [hstatus]
      exact .starts
    | @complete waveId wave hwave hstatus =>
      have hmem := PickingDb.mem_of_findWave hwave
      obtain ⟨hnonneg, hle⟩ := h.counted wave hmem
      refine iff_of_true ?_ fun _ _ _ _ heq => nomatch heq
      refine (h.keepsWaves_setWave_iff hmem hdb (fun _ => rfl) hpast).2
        ⟨?_, hnonneg.trans hle, le_rfl⟩
      rw [hstatus]
      exact .completes
    | @pick pickTaskId actualQuantity wave hwave hfits =>
      have hmem := PickingDb.mem_of_findWave hwave
      obtain ⟨hnonneg, hle⟩ := h.counted wave hmem
      refine (h.keepsWaves_setWave_iff hmem hdb (fun _ => rfl) hpast).trans ?_
      have hleads : wave.status.Leads .completed ↔ wave.status ≠ .pending := by
        cases wave.status with
        | pending => exact iff_of_false (fun hleads => nomatch hleads) (by simp)
        | inProgress => exact iff_of_true .completes (by simp)
        | completed => exact iff_of_true (.stays _) (by simp)
      have hcount : (0 ≤ PickingDb.pickedCount wave actualQuantity ∧
          PickingDb.pickedCount wave actualQuantity ≤ wave.totalItems) ↔
          ∀ n ∈ actualQuantity, 0 ≤ n ∧ n ≤ wave.totalItems := by
        unfold PickingDb.pickedCount
        split
        · simp [hnonneg.trans hle]
        · simp [hnonneg.trans hle]
        · simp
      constructor
      · rintro ⟨hto, hcounted⟩ - pickTaskId' n wave' heq hwave' -
        cases heq
        cases hwave.symm.trans hwave'
        exact ⟨hleads.1 hto, hcount.1 hcounted⟩
      · intro hcond
        obtain ⟨hstatus, hbounds⟩ := hcond hcommitted _ _ wave rfl hwave hfits
        exact ⟨hleads.2 hstatus, hcount.2 hbounds⟩
    | @pack newId pickingWaveId packedBy boxCount notes wave record hwave hstatus hrecord =>
      refine iff_of_true (h.keepsWaves_same (by rw [hdb]) fun record' hrecord' => ?_)
        fun _ _ _ _ heq => nomatch heq
      rw [hdb] at hrecord'
      rcases List.mem_append.1 hrecord' with hold | hadded
      · exact hpacked record' hold
      · rw [List.mem_singleton.1 hadded, hrecord]
        exact (h.started wave (PickingDb.mem_of_findWave hwave) hstatus).mono hpast
  · refine iff_of_true (h.keepsWaves_same (by rw [hsame]) (hsame ▸ hpacked)) ?_
    intro hcommitted pickTaskId n wave hcall hwave hfits
    have hrun : ∃ db, label.call.run s.db = .ok db := by
      rw [hcall]
      exact ⟨_, PickingDb.completePick_eq_ok_iff.2 ⟨wave, hwave, hfits, rfl⟩⟩
    exact absurd ⟨hcommitted, hrun⟩ hnone

/-- **A step that keeps the waves keeps the invariant.** -/
theorem Good.next (h : s.Good) (hnext : s.next label = some s') (hkeeps : KeepsWaves s s') :
    s'.Good := by
  obtain ⟨hpast, hcases⟩ := next_cases hnext
  have hids : (s'.db.pickingWaves.map (·.id)).Nodup := by
    obtain ⟨-, hwrites⟩ | ⟨hsame, -⟩ := hcases
    · generalize s'.db = db', label.call = call at hwrites
      cases hwrites with
      | insert _ hid => exact nodup_map_concat h.nodup hid
      | start | complete | pick => exact PickingDb.nodup_setWave h.nodup fun _ => rfl
      | pack => exact h.nodup
    · rw [hsame]
      exact h.nodup
  refine ⟨hids, hkeeps.counted, fun wave' hwave' hstatus => ?_, hkeeps.packed⟩
  -- a completed wave was completed, or in progress, before the step
  by_cases hnew : wave'.id ∈ s.db.pickingWaves.map (·.id)
  · obtain ⟨wave, hwave, hid⟩ := List.mem_map.1 hnew
    obtain ⟨wave'', hwave'', hid', hleads⟩ := hkeeps.moves wave hwave
    obtain rfl := List.inj_on_of_nodup_map hids hwave'' hwave' (hid'.trans hid)
    rw [hstatus] at hleads
    rw [hid']
    generalize hbefore : wave.status = status at hleads
    cases hleads with
    | stays => exact (h.started wave hwave hbefore).mono hpast
    | completes => exact started_of_mem hwave hbefore hpast
  · rw [hkeeps.new wave' hwave' hnew] at hstatus
    cases hstatus

end Picking

/-- The start, with some warehouses and locations. -/
def Picking.start (warehouses : List Uuid) (locations : List PickLocation) : Picking where
  db := { warehouses := warehouses, locations := locations }

/-- **The waves are kept** in exactly the runs in which every pick that is completed was started,
with a count in its bounds. -/
theorem keepsWaves_iff {warehouses : List Uuid} {locations : List PickLocation}
    {labels : List PickingLabel} {s : Picking} :
    (pickingSystem.restrict fun s _ s' => KeepsWaves s s').Run (.start warehouses locations)
        labels s ↔
      (pickingSystem.guard CompletesStarted).Run (.start warehouses locations) labels s :=
  Lts.Run.restrict_iff_guard (I := Picking.Good)
    (fun _ _ _ h hnext hcond => h.next hnext ((h.keepsWaves_next_iff hnext).2 hcond))
    (fun _ _ _ h hnext => h.keepsWaves_next_iff hnext)
    ⟨by simp [Picking.start], by simp [Picking.start], by simp [Picking.start],
      by simp [Picking.start]⟩

/-- A wave whose pick was completed at once with three items. -/
def pickedWave : PickingWave where
  id := 7
  warehouseId := 1
  code := "WAVE-0A1B2C3D"
  status := .completed
  completedItems := 3

/-- A wave is created, and its pick completed at once with three items. -/
def createPick : List PickingLabel :=
  [⟨.createPickingWave 7 "0A1B2C3D" ⟨"1", some 1⟩ ["A-1"], true⟩,
    ⟨.completePick ⟨"7", some 7⟩ (some 3), true⟩]

/-- **The wave is completed** and was never in progress, with more items than it has. -/
theorem createPick_not_keepsWaves :
    ¬ ∀ labels s, pickingSystem.Run (.start [1] []) labels s →
      (pickingSystem.restrict fun s _ s' => KeepsWaves s s').Run (.start [1] []) labels s := by
  intro h
  have hread : (Lts.runNext Picking.next (.start [1] []) createPick).map
      (fun s => s.db.pickingWaves) = some [pickedWave] := by decide +kernel
  obtain ⟨s, hs, hread⟩ := Lts.exists_run_of_map hread
  -- the last step keeps no count in its bounds
  have hcounted : ∀ {s t labels}, (pickingSystem.restrict fun s _ s' => KeepsWaves s s').Run s
      labels t → labels ≠ [] → ∀ wave ∈ t.db.pickingWaves, wave.Counted := by
    intro s t labels hrun hne
    induction hrun with
    | nil => exact absurd rfl hne
    | @cons s t u label labels hstep hrest ih =>
      cases hrest with
      | nil => exact hstep.2.counted
      | cons hstep' hrest' => exact ih (by simp)
  have hwave := hcounted (h _ s hs) (by simp [createPick]) _ (hread ▸ List.mem_singleton_self _)
  exact absurd hwave.2 (by decide)

end Wms

end OmsWmsTms
