import OmsWmsTms.Core.Clock
import OmsWmsTms.Core.Handlers
import OmsWmsTms.Data.OrderBy
import OmsWmsTms.Data.Rows
import OmsWmsTms.Uow.Journal

/-!
# Devices, their sessions and their synchronisations

The device functions of `src/tms/service.py`, with the two tasks that share their tables:
`sync_inventory` of `src/tasks/inventory.py`, which logs a synchronisation under the identifier of a
warehouse, and `cleanup_old_sync_logs` of `src/tasks/maintenance.py`, which does not commit.

* `DeviceWrite.apply`, `deviceSystem` : the commits, and the server with its tasks.
* `devices_consistent` : logs and sessions are of registered devices, and say when they ended.
* `sync_logs_by_history` : the logs are all that were recorded; the clean-up counts them.
* `sessions_by_history` : a session has ended when a request has ended it.
-/

namespace OmsWmsTms

namespace Tms

/-! ### Rows -/

/-- `TerminalDeviceType`. -/
inductive TerminalDeviceType
  | pda | phone | scanner | printer
deriving DecidableEq

/-- `PlatformType`. -/
inductive PlatformType
  | android | ios | desktop
deriving DecidableEq

/-- `DeviceStatus`. -/
inductive DeviceStatus
  | online | offline | disabled
deriving DecidableEq

/-- `SyncLogType`. -/
inductive SyncLogType
  | upload | download
deriving DecidableEq

/-- `SyncLogStatus`. -/
inductive SyncLogStatus
  | pending | running | completed | failed | partly
deriving DecidableEq

/-- `SessionStatus`. -/
inductive SessionStatus
  | active | ended
deriving DecidableEq

/-- `TerminalDeviceType(value)`. -/
def TerminalDeviceType.ofValue : String → Except RequestError TerminalDeviceType
  | "pda" => .ok pda
  | "phone" => .ok phone
  | "scanner" => .ok scanner
  | "printer" => .ok printer
  | _ => .error (.service .valueError)

/-- `PlatformType(value)`. -/
def PlatformType.ofValue : String → Except RequestError PlatformType
  | "android" => .ok android
  | "ios" => .ok ios
  | "desktop" => .ok desktop
  | _ => .error (.service .valueError)

/-- `DeviceStatus(value)`. -/
def DeviceStatus.ofValue : String → Except RequestError DeviceStatus
  | "online" => .ok online
  | "offline" => .ok offline
  | "disabled" => .ok disabled
  | _ => .error (.service .valueError)

/-- `SyncLogType(value)`. -/
def SyncLogType.ofValue : String → Except RequestError SyncLogType
  | "upload" => .ok upload
  | "download" => .ok download
  | _ => .error (.service .valueError)

/-- `SyncLogStatus(value)`. -/
def SyncLogStatus.ofValue : String → Except RequestError SyncLogStatus
  | "pending" => .ok pending
  | "running" => .ok running
  | "completed" => .ok completed
  | "failed" => .ok failed
  | "partial" => .ok partly
  | _ => .error (.service .valueError)

/-- `TerminalDevice`; of its configuration, the text. -/
structure TerminalDevice where
  id : Uuid
  code : String
  name : Option String
  deviceType : TerminalDeviceType
  platform : PlatformType
  osVersion : Option String
  appVersion : Option String
  status : DeviceStatus := .offline
  warehouseId : Option Uuid
  lastSyncAt : Option ℤ := none
  lastHeartbeatAt : Option ℤ := none
  config : Option String
  pushToken : Option String
deriving DecidableEq

/-- `DeviceSession`. -/
structure DeviceSession where
  id : Uuid
  deviceId : Uuid
  loginAt : ℤ
  status : SessionStatus := .active
  logoutAt : Option ℤ := none
deriving DecidableEq

/-- `SyncLog`. -/
structure SyncLog where
  id : Uuid
  deviceId : Uuid
  syncType : SyncLogType
  status : SyncLogStatus
  recordsCount : ℤ
  errorMessage : Option String
  startedAt : ℤ
  completedAt : Option ℤ
deriving DecidableEq

/-- The tables; of the warehouses, the identifiers, and of each row of the inventory, that of its
warehouse. -/
structure DeviceDb where
  warehouses : List Uuid := []
  inventory : List Uuid := []
  devices : List TerminalDevice := []
  sessions : List DeviceSession := []
  syncLogs : List SyncLog := []
deriving DecidableEq

/-- The device of an identifier. -/
def DeviceDb.device? (d : DeviceDb) (id : Uuid) : Option TerminalDevice :=
  d.devices.find? (·.id = id)

/-- The session of an identifier. -/
def DeviceDb.session? (d : DeviceDb) (id : Uuid) : Option DeviceSession :=
  d.sessions.find? (·.id = id)

/-- The log of an identifier. -/
def DeviceDb.syncLog? (d : DeviceDb) (id : Uuid) : Option SyncLog :=
  d.syncLogs.find? (·.id = id)

/-! ### The commits -/

/-- The columns that an `UPDATE` of a device sets. -/
structure DeviceColumns where
  name : Option (Option String) := none
  osVersion : Option (Option String) := none
  appVersion : Option (Option String) := none
  status : Option DeviceStatus := none
  warehouseId : Option (Option Uuid) := none
  lastSyncAt : Option ℤ := none
  lastHeartbeatAt : Option ℤ := none
  config : Option (Option String) := none
  pushToken : Option (Option String) := none
deriving DecidableEq

/-- The device after an `UPDATE`. -/
def TerminalDevice.update (columns : DeviceColumns) (row : TerminalDevice) : TerminalDevice :=
  { row with
    name := columns.name.getD row.name
    osVersion := columns.osVersion.getD row.osVersion
    appVersion := columns.appVersion.getD row.appVersion
    status := columns.status.getD row.status
    warehouseId := columns.warehouseId.getD row.warehouseId
    lastSyncAt := columns.lastSyncAt.or row.lastSyncAt
    lastHeartbeatAt := columns.lastHeartbeatAt.or row.lastHeartbeatAt
    config := columns.config.getD row.config
    pushToken := columns.pushToken.getD row.pushToken }

/-- The changes that a handler commits together. -/
inductive DeviceWrite
  | insertDevice (device : TerminalDevice)
  | updateDevice (id : Uuid) (columns : DeviceColumns)
  /-- The logs, and the `UPDATE` of the device that has synchronised. -/
  | insertSyncLogs (logs : List SyncLog) (device : Option (Uuid × DeviceColumns))
  | insertSession (session : DeviceSession) (columns : DeviceColumns)
  | endSession (id : Uuid) (logoutAt : ℤ)
deriving DecidableEq

namespace DeviceDb

/-- `INSERT` a device. -/
def insertDevice (d : DeviceDb) (device : TerminalDevice) : Except ServiceError DeviceDb := do
  let _ ← constraint (device.id ∉ d.devices.map TerminalDevice.id)
  let _ ← constraint (device.code ∉ d.devices.map TerminalDevice.code)
  let _ ← constraint (∀ id ∈ device.warehouseId, id ∈ d.warehouses)
  return { d with devices := d.devices ++ [device] }

/-- `UPDATE` a device. -/
def updateDevice (d : DeviceDb) (id : Uuid) (columns : DeviceColumns) :
    Except ServiceError DeviceDb := do
  let _ ← constraint (∀ id ∈ columns.warehouseId.getD none, id ∈ d.warehouses)
  if id ∈ d.devices.map TerminalDevice.id then
    return { d with devices := updateRows TerminalDevice.id id (.update columns) d.devices }
  else throw .staleData

/-- `INSERT` a log, of a device that is there. -/
def insertSyncLog (d : DeviceDb) (log : SyncLog) : Except ServiceError DeviceDb := do
  let _ ← storeInt log.recordsCount
  let _ ← constraint (log.id ∉ d.syncLogs.map SyncLog.id)
  let _ ← constraint (log.deviceId ∈ d.devices.map TerminalDevice.id)
  return { d with syncLogs := d.syncLogs ++ [log] }

/-- `INSERT` a session, of a device that is there. -/
def insertSession (d : DeviceDb) (session : DeviceSession) : Except ServiceError DeviceDb := do
  let _ ← constraint (session.id ∉ d.sessions.map DeviceSession.id)
  let _ ← constraint (session.deviceId ∈ d.devices.map TerminalDevice.id)
  return { d with sessions := d.sessions ++ [session] }

end DeviceDb

/-- The session after `end_session`. -/
def DeviceSession.endAt (logoutAt : ℤ) (row : DeviceSession) : DeviceSession :=
  { row with status := .ended, logoutAt := some logoutAt }

/-- What the database makes of the changes. -/
def DeviceWrite.store (d : DeviceDb) : DeviceWrite → Except ServiceError DeviceDb
  | .insertDevice device => d.insertDevice device
  | .updateDevice id columns => d.updateDevice id columns
  | .insertSyncLogs logs device => do
    let d ← logs.foldlM DeviceDb.insertSyncLog d
    match device with
    | none => return d
    | some (id, columns) => d.updateDevice id columns
  | .insertSession session columns => do
    let d ← d.insertSession session
    d.updateDevice session.deviceId columns
  | .endSession id logoutAt =>
    if id ∈ d.sessions.map DeviceSession.id then
      return { d with sessions := updateRows DeviceSession.id id (.endAt logoutAt) d.sessions }
    else throw .staleData

/-- **A commit.** -/
def DeviceWrite.apply (w : DeviceWrite) (d : DeviceDb) : Except RequestError DeviceDb :=
  (w.store d).mapError .service

/-! ### The handlers -/

/-- The answers. -/
inductive DeviceAnswer
  | device (row : TerminalDevice)
  | heartbeat (id status lastHeartbeatAt message : String)
  | syncLog (row : SyncLog)
  | syncLogs (rows : List SyncLog)
  | session (row : DeviceSession)
  | sessions (rows : List DeviceSession)
  | inventoryCount (count : ℕ) (message : String)
  | deletedSyncLogs (deleted : ℕ)
deriving DecidableEq

/-- The handlers of devices. -/
abbrev DeviceProg := Uow.Prog DeviceDb DeviceWrite RequestError DeviceAnswer

open Uow.Prog (withOk refresh)

/-- The payload of `register_device`. -/
structure DeviceData where
  code : String
  name : Option String := some ""
  deviceType : String := "pda"
  platform : String := "android"
  osVersion : Option String := some ""
  appVersion : Option String := some ""
  warehouseId : Option IdArg := none
  config : Option String := none
  pushToken : Option String := none
deriving DecidableEq

/-- The payload of `update_device`. -/
structure DeviceUpdate where
  name : Option String := none
  osVersion : Option String := none
  appVersion : Option String := none
  /-- An identifier; the empty text stands for none. -/
  warehouseId : Option IdArg := none
  config : Option String := none
  pushToken : Option String := none
  status : Option String := none
deriving DecidableEq

/-- The payload of `record_sync`. -/
structure SyncData where
  syncType : String := "download"
  status : String := "pending"
  recordsCount : ℤ := 0
  errorMessage : Option String := none
deriving DecidableEq

namespace DeviceProg

/-- Read a device, or raise `NotFoundException`. -/
def findDevice (devId : IdArg) (next : TerminalDevice → DeviceProg) : DeviceProg :=
  match devId.uuid? with
  | none => .throw (.notFound s!"Device {devId.text} not found")
  | some id =>
    .read fun d =>
      match d.device? id with
      | none => .throw (.notFound s!"Device {devId.text} not found")
      | some dev => next dev

/-- `register_device`. -/
def registerDevice (newId : Uuid) (data : DeviceData) : DeviceProg :=
  .read fun d =>
    if data.code ∈ d.devices.map TerminalDevice.code then
      .throw (.validation s!"Device code '{data.code}' already exists")
    else
      withOk (TerminalDeviceType.ofValue data.deviceType) fun deviceType =>
      withOk (PlatformType.ofValue data.platform) fun platform =>
      withOk (IdArg.parse? data.warehouseId) fun warehouseId =>
      withOk ((OmsWmsTms.storeText 50 data.code).mapError .service) fun code =>
      withOk (storeText? 200 data.name) fun name =>
      withOk (storeText? 50 data.osVersion) fun osVersion =>
      withOk (storeText? 20 data.appVersion) fun appVersion =>
      withOk (storeText? 500 data.pushToken) fun pushToken =>
      .commit (.insertDevice {
          id := newId, code, name, deviceType, platform, osVersion, appVersion, warehouseId
          config := data.config, pushToken })
        (refresh (·.device? newId) fun row => .ret (.device row))

/-- `get_device`. -/
def getDevice (devId : IdArg) : DeviceProg := findDevice devId fun dev => .ret (.device dev)

/-- `uuid.UUID(data[key]) if data[key] else None`. -/
def parseOrNone (arg : IdArg) : Except RequestError (Option Uuid) :=
  if arg.text = "" then .ok none else Except.map some arg.parse

/-- The value of a computation for a key that is given. -/
def ifGiven {α β : Type} (given : Option α) (f : α → Except RequestError β) :
    Except RequestError (Option β) :=
  match given with
  | none => .ok none
  | some a => Except.map some (f a)

/-- `update_device`. -/
def updateDevice (devId : IdArg) (data : DeviceUpdate) : DeviceProg :=
  findDevice devId fun dev =>
    withOk (ifGiven data.status DeviceStatus.ofValue) fun status =>
    withOk (ifGiven data.warehouseId parseOrNone) fun warehouseId =>
    let text (limit : ℕ) (loaded given : Option String) :=
      storeChanged limit (given.bind fun value => changed loaded (some value))
    withOk (text 200 dev.name data.name) fun name =>
    withOk (text 50 dev.osVersion data.osVersion) fun osVersion =>
    withOk (text 20 dev.appVersion data.appVersion) fun appVersion =>
    withOk (text 500 dev.pushToken data.pushToken) fun pushToken =>
    .commit (.updateDevice dev.id {
        name, osVersion, appVersion, pushToken
        config := data.config.bind fun value => changed dev.config (some value)
        status := status.bind (changed dev.status)
        warehouseId := warehouseId.bind (changed dev.warehouseId) })
      (refresh (·.device? dev.id) fun row => .ret (.device row))

/-- `record_heartbeat`, at a time. -/
def recordHeartbeat (now : ℤ) (devId : IdArg) : DeviceProg :=
  findDevice devId fun dev =>
    .commit (.updateDevice dev.id
        { lastHeartbeatAt := some now, status := changed dev.status .online })
      (.ret (.heartbeat devId.text "online" (isoformat now) "Heartbeat received"))

/-- `record_sync`, at a time. -/
def recordSync (now : ℤ) (newId : Uuid) (devId : IdArg) (data : SyncData) : DeviceProg :=
  findDevice devId fun dev =>
    withOk (SyncLogType.ofValue data.syncType) fun syncType =>
    withOk (SyncLogStatus.ofValue data.status) fun status =>
    .commit (.insertSyncLogs [{
          id := newId, deviceId := dev.id, syncType, status, recordsCount := data.recordsCount
          errorMessage := data.errorMessage, startedAt := now
          completedAt := if data.status = "completed" ∨ data.status = "failed" then some now
            else none }]
        (some (dev.id, { lastSyncAt := some now, status := changed dev.status .online })))
      (refresh (·.syncLog? newId) fun row => .ret (.syncLog row))

/-- `list_sync_logs`. -/
def listSyncLogs (devId : IdArg) : DeviceProg :=
  findDevice devId fun dev =>
    .read fun d =>
      .ret (.syncLogs (orderByDesc SyncLog.startedAt (d.syncLogs.filter (·.deviceId = dev.id))))

/-- `create_session`, at a time. -/
def createSession (now : ℤ) (newId : Uuid) (devId : IdArg) : DeviceProg :=
  findDevice devId fun dev =>
    .commit (.insertSession { id := newId, deviceId := dev.id, loginAt := now }
        { status := changed dev.status .online })
      (refresh (·.session? newId) fun row => .ret (.session row))

/-- `end_session`, at a time. -/
def endSession (now : ℤ) (devId sessId : IdArg) : DeviceProg :=
  match devId.uuid?, sessId.uuid? with
  | some devUuid, some sessUuid =>
    .read fun d =>
      match d.sessions.find? fun row => row.id = sessUuid ∧ row.deviceId = devUuid with
      | none =>
        .throw (.notFound s!"Session {sessId.text} not found for device {devId.text}")
      | some _ =>
        -- a status that is `ENDED` already stays what it is
        .commit (.endSession sessUuid now)
          (refresh (·.session? sessUuid) fun row => .ret (.session row))
  | _, _ => .throw (.notFound s!"Session {sessId.text} not found for device {devId.text}")

/-- `list_sessions`. -/
def listSessions (devId : IdArg) : DeviceProg :=
  findDevice devId fun dev =>
    .read fun d =>
      .ret (.sessions
        (orderByDesc DeviceSession.loginAt (d.sessions.filter (·.deviceId = dev.id))))

/-- `sync_inventory`, with the identifier and the two times of each log. -/
def syncInventory (logs : List (Uuid × ℤ × ℤ)) : DeviceProg :=
  .read fun d =>
    let count := d.inventory.length
    .commit (.insertSyncLogs (d.inventory.mapIdx fun i warehouseId =>
        let (id, startedAt, completedAt) := logs.getD i (0, 0, 0)
        { id, deviceId := warehouseId, syncType := .upload, status := .completed
          recordsCount := count, errorMessage := none, startedAt
          completedAt := some completedAt }) none)
      (.ret (.inventoryCount count "Inventory sync complete"))

/-- `cleanup_old_sync_logs`, at a time: the session is closed without a commit. -/
def cleanupOldSyncLogs (now : ℤ) : DeviceProg :=
  .read fun d =>
    .ret (.deletedSyncLogs (d.syncLogs.filter (·.startedAt < now - 30 * day)).length)

end DeviceProg

/-- A request, or a run of a task. -/
inductive DeviceRequest
  | registerDevice (newId : Uuid) (data : DeviceData)
  | getDevice (devId : IdArg)
  | updateDevice (devId : IdArg) (data : DeviceUpdate)
  | recordHeartbeat (now : ℤ) (devId : IdArg)
  | recordSync (now : ℤ) (newId : Uuid) (devId : IdArg) (data : SyncData)
  | listSyncLogs (devId : IdArg)
  | createSession (now : ℤ) (newId : Uuid) (devId : IdArg)
  | endSession (now : ℤ) (devId sessId : IdArg)
  | listSessions (devId : IdArg)
  | syncInventory (logs : List (Uuid × ℤ × ℤ))
  | cleanupOldSyncLogs (now : ℤ)
deriving DecidableEq

/-- The handler of a request. -/
def DeviceRequest.handler : DeviceRequest → DeviceProg
  | .registerDevice newId data => .registerDevice newId data
  | .getDevice devId => .getDevice devId
  | .updateDevice devId data => .updateDevice devId data
  | .recordHeartbeat now devId => .recordHeartbeat now devId
  | .recordSync now newId devId data => .recordSync now newId devId data
  | .listSyncLogs devId => .listSyncLogs devId
  | .createSession now newId devId => .createSession now newId devId
  | .endSession now devId sessId => .endSession now devId sessId
  | .listSessions devId => .listSessions devId
  | .syncInventory logs => .syncInventory logs
  | .cleanupOldSyncLogs now => .cleanupOldSyncLogs now

/-- A server of devices. -/
abbrev DeviceState := Uow.State DeviceDb DeviceWrite DeviceRequest RequestError DeviceAnswer

/-- **The requests of devices, and the tasks on their tables.** -/
def deviceSystem : Lts DeviceState (Uow.Label DeviceRequest) :=
  Uow.system DeviceWrite.apply DeviceRequest.handler

/-! ### What a commit does -/

open Uow (Committed History lastGiven rowsAfter updated)
open Uow.Prog (justified_read justified_withOk)

/-- The logs that a write inserts. -/
def DeviceWrite.logs : DeviceWrite → List SyncLog
  | .insertSyncLogs logs _ => logs
  | _ => []

/-- What a write makes of the sessions. -/
def DeviceWrite.onSessions (sessions : List DeviceSession) : DeviceWrite → List DeviceSession
  | .insertSession session _ => sessions ++ [session]
  | .endSession id logoutAt => updateRows DeviceSession.id id (.endAt logoutAt) sessions
  | _ => sessions

/-- What a write makes of the devices. -/
def DeviceWrite.onDevices (devices : List TerminalDevice) : DeviceWrite → List TerminalDevice
  | .insertDevice device => devices ++ [device]
  | .updateDevice id columns | .insertSyncLogs _ (some (id, columns)) =>
    updateRows TerminalDevice.id id (.update columns) devices
  | .insertSession session columns =>
    updateRows TerminalDevice.id session.deviceId (.update columns) devices
  | _ => devices

/-- What holds of a write that the database takes. -/
def DeviceWrite.Fits (d : DeviceDb) : DeviceWrite → Prop
  | .insertDevice device => device.id ∉ d.devices.map TerminalDevice.id ∧
      device.code ∉ d.devices.map TerminalDevice.code
  | .insertSyncLogs logs _ => ∀ log ∈ logs, log.deviceId ∈ d.devices.map TerminalDevice.id
  | .insertSession session _ => session.id ∉ d.sessions.map DeviceSession.id ∧
      session.deviceId ∈ d.devices.map TerminalDevice.id
  | .endSession id _ => id ∈ d.sessions.map DeviceSession.id
  | _ => True

section

variable {d₀ d d' : DeviceDb} {ws past since : List DeviceWrite} {w : DeviceWrite} {id : Uuid}
  {s : DeviceState} {ls : List (Uow.Label DeviceRequest)}

theorem DeviceWrite.store_of_apply (h : w.apply d = .ok d') : w.store d = .ok d' := by
  unfold DeviceWrite.apply at h
  cases hstore : w.store d with
  | error e =>
    rw [hstore] at h
    cases h
  | ok db =>
    rw [hstore] at h
    cases h
    rfl

namespace DeviceDb

theorem insertDevice_eq_ok {device : TerminalDevice} (h : d.insertDevice device = .ok d') :
    device.id ∉ d.devices.map TerminalDevice.id ∧
      device.code ∉ d.devices.map TerminalDevice.code ∧
      d' = { d with devices := d.devices ++ [device] } := by
  simp only [insertDevice, bind_eq_ok_iff, pure_eq_ok_iff] at h
  obtain ⟨_, hid, _, hcode, -, -, rfl⟩ := h
  exact ⟨constraint_eq_ok_iff.1 hid, constraint_eq_ok_iff.1 hcode, rfl⟩

theorem updateDevice_eq_ok {columns : DeviceColumns} (h : d.updateDevice id columns = .ok d') :
    d' = { d with devices := updateRows TerminalDevice.id id (.update columns) d.devices } := by
  simp only [updateDevice, bind_eq_ok_iff] at h
  obtain ⟨-, -, h⟩ := h
  split_ifs at h
  cases h
  rfl

theorem insertSyncLog_eq_ok {log : SyncLog} (h : d.insertSyncLog log = .ok d') :
    log.id ∉ d.syncLogs.map SyncLog.id ∧ log.deviceId ∈ d.devices.map TerminalDevice.id ∧
      d' = { d with syncLogs := d.syncLogs ++ [log] } := by
  simp only [insertSyncLog, bind_eq_ok_iff, pure_eq_ok_iff] at h
  obtain ⟨-, -, _, hid, _, hdevice, rfl⟩ := h
  exact ⟨constraint_eq_ok_iff.1 hid, constraint_eq_ok_iff.1 hdevice, rfl⟩

theorem insertSession_eq_ok {session : DeviceSession} (h : d.insertSession session = .ok d') :
    session.id ∉ d.sessions.map DeviceSession.id ∧
      session.deviceId ∈ d.devices.map TerminalDevice.id ∧
      d' = { d with sessions := d.sessions ++ [session] } := by
  simp only [insertSession, bind_eq_ok_iff, pure_eq_ok_iff] at h
  obtain ⟨_, hid, _, hdevice, rfl⟩ := h
  exact ⟨constraint_eq_ok_iff.1 hid, constraint_eq_ok_iff.1 hdevice, rfl⟩

/-- Several logs are inserted together, or none. -/
theorem insertSyncLogs_eq_ok {logs : List SyncLog}
    (h : logs.foldlM DeviceDb.insertSyncLog d = .ok d') :
    (∀ log ∈ logs, log.deviceId ∈ d.devices.map TerminalDevice.id) ∧
      d' = { d with syncLogs := d.syncLogs ++ logs } := by
  induction logs generalizing d with
  | nil =>
    cases h
    simp
  | cons log logs ih =>
    rw [List.foldlM_cons, bind_eq_ok_iff] at h
    obtain ⟨d'', hlog, hlogs⟩ := h
    obtain ⟨-, hdevice, rfl⟩ := insertSyncLog_eq_ok hlog
    obtain ⟨hdevices, rfl⟩ := ih hlogs
    refine ⟨fun log' hlog' => ?_, by simp⟩
    rcases List.mem_cons.1 hlog' with rfl | hlog'
    · exact hdevice
    · exact hdevices log' hlog'

end DeviceDb

/-- **What a commit does.** -/
theorem DeviceWrite.apply_eq_ok (h : w.apply d = .ok d') : w.Fits d ∧
    d'.devices = w.onDevices d.devices ∧ d'.syncLogs = d.syncLogs ++ w.logs ∧
    d'.sessions = w.onSessions d.sessions := by
  replace h := DeviceWrite.store_of_apply h
  cases w with
  | insertDevice device =>
    obtain ⟨hid, hcode, rfl⟩ := DeviceDb.insertDevice_eq_ok h
    exact ⟨⟨hid, hcode⟩, rfl, (List.append_nil _).symm, rfl⟩
  | updateDevice id columns =>
    obtain rfl := DeviceDb.updateDevice_eq_ok h
    exact ⟨trivial, rfl, (List.append_nil _).symm, rfl⟩
  | insertSyncLogs logs device =>
    obtain ⟨d'', hlogs, h⟩ := bind_eq_ok_iff.1 h
    obtain ⟨hdevices, rfl⟩ := DeviceDb.insertSyncLogs_eq_ok hlogs
    cases device with
    | none =>
      cases h
      exact ⟨hdevices, rfl, rfl, rfl⟩
    | some device =>
      obtain rfl := DeviceDb.updateDevice_eq_ok h
      exact ⟨hdevices, rfl, rfl, rfl⟩
  | insertSession session columns =>
    obtain ⟨d'', hsession, h⟩ := bind_eq_ok_iff.1 h
    obtain ⟨hid, hdevice, rfl⟩ := DeviceDb.insertSession_eq_ok hsession
    obtain rfl := DeviceDb.updateDevice_eq_ok h
    exact ⟨⟨hid, hdevice⟩, rfl, (List.append_nil _).symm, rfl⟩
  | endSession id logoutAt =>
    simp only [DeviceWrite.store] at h
    split_ifs at h with hid
    cases h
    exact ⟨hid, rfl, (List.append_nil _).symm, rfl⟩

/-! ### What a request goes by, and what it answers -/

/-- A log says when it was completed exactly when its status is final. -/
def SyncLog.Stamped (log : SyncLog) : Prop :=
  log.completedAt.isSome ↔ log.status = .completed ∨ log.status = .failed

/-- A session says when it ended exactly when it has ended. -/
def DeviceSession.Stamped (session : DeviceSession) : Prop :=
  session.logoutAt.isSome ↔ session.status = .ended

/-- Logs are inserted as they stay, sessions as active. -/
def DeviceWrite.Goes : DeviceWrite → Prop
  | .insertSyncLogs logs _ => ∀ log ∈ logs, log.Stamped
  | .insertSession session _ => session.status = .active ∧ session.logoutAt = none
  | _ => True

/-- The tables were once committed, between two journals. -/
def Once (d₀ : DeviceDb) (since ws : List DeviceWrite) (d : DeviceDb) : Prop :=
  ∃ past, since <+: past ∧ past <+: ws ∧ Committed DeviceWrite.apply d₀ past d

/-- What an answer says of a moment between the call and the answer. -/
def DeviceRequest.Post (d₀ : DeviceDb) (q : DeviceRequest) (since : List DeviceWrite)
    (a : DeviceAnswer) (ws : List DeviceWrite) : Prop :=
  match q, a with
  | .listSyncLogs devId, .syncLogs rows => ∃ id d, devId.uuid? = some id ∧ Once d₀ since ws d ∧
      rows = orderByDesc SyncLog.startedAt (d.syncLogs.filter (·.deviceId = id))
  | .listSessions devId, .sessions rows => ∃ id d, devId.uuid? = some id ∧ Once d₀ since ws d ∧
      rows = orderByDesc DeviceSession.loginAt (d.sessions.filter (·.deviceId = id))
  | .cleanupOldSyncLogs now, .deletedSyncLogs deleted => ∃ d, Once d₀ since ws d ∧
      deleted = (d.syncLogs.filter (·.startedAt < now - 30 * day)).length
  | _, _ => True

/-- The handlers are justified: an abbreviation. -/
abbrev DeviceProg.Justified (d₀ : DeviceDb) (q : DeviceRequest) (since : List DeviceWrite)
    (p : DeviceProg) (K : List DeviceWrite → Prop) : Prop :=
  Uow.Prog.Justified DeviceWrite.apply (fun _ w => w.Goes) d₀ (q.Post d₀ since) p K

theorem DeviceProg.justified_findDevice {q : DeviceRequest} {devId : IdArg}
    {next : TerminalDevice → DeviceProg} (h : ∀ dev, devId.uuid? = some dev.id →
      DeviceProg.Justified d₀ q since (next dev) fun ws => since <+: ws) :
    DeviceProg.Justified d₀ q since (.findDevice devId next) fun ws => since <+: ws := by
  unfold DeviceProg.findDevice
  cases hid : devId.uuid? with
  | none => trivial
  | some id =>
    refine justified_read fun d => ?_
    cases hdev : d.device? id with
    | none => trivial
    | some dev =>
      have heq : dev.id = id := by simpa using List.find?_some hdev
      refine (h dev (heq ▸ hid)).mono ?_
      rintro ws ⟨past, hpast, hsince, -⟩
      exact hsince.trans hpast

/-- An answer that says nothing of the tables. -/
theorem DeviceProg.justified_refresh {q : DeviceRequest} {α : Type} {find : DeviceDb → Option α}
    {answer : α → DeviceAnswer} {K : List DeviceWrite → Prop}
    (h : ∀ a ws, q.Post d₀ since (answer a) ws) :
    DeviceProg.Justified d₀ q since (refresh find fun row => .ret (answer row)) K := by
  refine justified_read fun d => ?_
  split
  · exact fun ws _ => h _ ws
  · trivial

theorem stamped_recordSync {status : SyncLogStatus} {text : String} {now : ℤ}
    (h : SyncLogStatus.ofValue text = .ok status) :
    (if text = "completed" ∨ text = "failed" then some now else none).isSome ↔
      status = .completed ∨ status = .failed := by
  unfold SyncLogStatus.ofValue at h
  split at h <;> cases h <;> simp

theorem DeviceRequest.justified_handler (q : DeviceRequest) (since : List DeviceWrite) :
    DeviceProg.Justified d₀ q since q.handler fun ws => since <+: ws := by
  cases q with
  | registerDevice newId data =>
    refine justified_read fun d => ?_
    split
    · trivial
    · refine justified_withOk fun deviceType _ => justified_withOk fun platform _ =>
        justified_withOk fun warehouseId _ => justified_withOk fun code _ =>
        justified_withOk fun name _ => justified_withOk fun osVersion _ =>
        justified_withOk fun appVersion _ => justified_withOk fun pushToken _ => ?_
      exact ⟨fun _ _ => trivial, DeviceProg.justified_refresh fun _ _ => trivial⟩
  | getDevice devId => exact DeviceProg.justified_findDevice fun dev _ ws _ => trivial
  | updateDevice devId data =>
    refine DeviceProg.justified_findDevice fun dev _ => ?_
    refine justified_withOk fun status _ => justified_withOk fun warehouseId _ =>
      justified_withOk fun name _ => justified_withOk fun osVersion _ =>
      justified_withOk fun appVersion _ => justified_withOk fun pushToken _ => ?_
    exact ⟨fun _ _ => trivial, DeviceProg.justified_refresh fun _ _ => trivial⟩
  | recordHeartbeat now devId =>
    refine DeviceProg.justified_findDevice fun dev _ => ?_
    exact ⟨fun _ _ => trivial, fun _ _ => trivial⟩
  | recordSync now newId devId data =>
    refine DeviceProg.justified_findDevice fun dev _ => ?_
    refine justified_withOk fun syncType _ => justified_withOk fun status hstatus => ?_
    refine ⟨fun _ _ log hlog => ?_, DeviceProg.justified_refresh fun _ _ => trivial⟩
    obtain rfl := List.mem_singleton.1 hlog
    exact stamped_recordSync hstatus
  | listSyncLogs devId =>
    refine DeviceProg.justified_findDevice fun dev hid => justified_read fun d => ?_
    rintro ws ⟨past, hpast, hsince, hd⟩
    exact ⟨dev.id, d, hid, ⟨past, hsince, hpast, hd⟩, rfl⟩
  | createSession now newId devId =>
    refine DeviceProg.justified_findDevice fun dev _ => ?_
    exact ⟨fun _ _ => ⟨rfl, rfl⟩, DeviceProg.justified_refresh fun _ _ => trivial⟩
  | endSession now devId sessId =>
    show DeviceProg.Justified d₀ _ since (DeviceProg.endSession now devId sessId) _
    unfold DeviceProg.endSession
    split
    · refine justified_read fun d => ?_
      split
      · trivial
      · exact ⟨fun _ _ => trivial, DeviceProg.justified_refresh fun _ _ => trivial⟩
    · trivial
  | listSessions devId =>
    refine DeviceProg.justified_findDevice fun dev hid => justified_read fun d => ?_
    rintro ws ⟨past, hpast, hsince, hd⟩
    exact ⟨dev.id, d, hid, ⟨past, hsince, hpast, hd⟩, rfl⟩
  | syncInventory logs =>
    refine justified_read fun d => ?_
    refine ⟨fun _ _ log hlog => ?_, fun _ _ => trivial⟩
    obtain ⟨i, hi, rfl⟩ := List.mem_mapIdx.1 hlog
    exact ⟨fun _ => .inl rfl, fun _ => rfl⟩
  | cleanupOldSyncLogs now =>
    refine justified_read fun d => ?_
    rintro ws ⟨past, hpast, hsince, hd⟩
    exact ⟨d, ⟨past, hsince, hpast, hd⟩, rfl⟩

/-! ### The logs -/

/-- **The logs are all that were recorded.** -/
theorem syncLogs_eq (h : Committed DeviceWrite.apply d₀ ws d) (h₀ : d₀.syncLogs = []) :
    d.syncLogs = ws.flatMap DeviceWrite.logs := by
  induction h with
  | start => exact h₀
  | commit _ _ happly ih =>
    rw [(DeviceWrite.apply_eq_ok happly).2.2.1, ih, List.flatMap_append, List.flatMap_singleton]

/-- **Synchronisations in every interleaving of requests and tasks**, from no logs: the table has
all the logs that were ever recorded; a list of them has all those of the device at a moment between
the call and the answer, the last started first; and the clean-up answers the number of the old ones
at such a moment, which stay. -/
theorem sync_logs_by_history (h₀ : d₀.syncLogs = []) (hrun : deviceSystem.Run (.init d₀) ls s) :
    s.db.syncLogs = s.journal.flatMap DeviceWrite.logs ∧
      (∀ devId since till rows, ⟨.listSyncLogs devId, since, till, .ok (.syncLogs rows)⟩ ∈ s.log →
        ∃ id past, devId.uuid? = some id ∧ since <+: past ∧ past <+: till ∧ till <+: s.journal ∧
          rows = orderByDesc SyncLog.startedAt
            ((past.flatMap DeviceWrite.logs).filter (·.deviceId = id))) ∧
      ∀ now since till deleted,
        ⟨.cleanupOldSyncLogs now, since, till, .ok (.deletedSyncLogs deleted)⟩ ∈ s.log →
        ∃ past, since <+: past ∧ past <+: till ∧ till <+: s.journal ∧ deleted =
          ((past.flatMap DeviceWrite.logs).filter (·.startedAt < now - 30 * day)).length := by
  have hsound := Uow.sound_run_since DeviceRequest.justified_handler hrun
  refine ⟨syncLogs_eq hsound.history.committed h₀, fun devId since till rows hanswer => ?_,
    fun now since till deleted hanswer => ?_⟩
  · obtain ⟨-, htill, hpost⟩ := hsound.log _ hanswer
    obtain ⟨id, d, hid, ⟨past, hsince, hpast, hd⟩, rfl⟩ := hpost _ rfl
    exact ⟨id, past, hid, hsince, hpast, htill, by rw [syncLogs_eq hd h₀]⟩
  · obtain ⟨-, htill, hpost⟩ := hsound.log _ hanswer
    obtain ⟨d, ⟨past, hsince, hpast, hd⟩, rfl⟩ := hpost _ rfl
    exact ⟨past, hsince, hpast, htill, by rw [syncLogs_eq hd h₀]⟩

/-- A device that has synchronised at the start and forty days later, when the old logs are cleaned
up. -/
def cleanedUp : List (Uow.Label DeviceRequest) :=
  [.call (.registerDevice 1 { code := "PDA-1" }), .step 0, .step 0, .step 0, .step 0,
    .call (.recordSync 0 2 (.ofUuid 1) { status := "completed" }), .step 0, .step 0, .step 0,
    .step 0, .call (.recordSync (40 * day) 3 (.ofUuid 1) {}), .step 0, .step 0, .step 0, .step 0,
    .call (.listSyncLogs (.ofUuid 1)), .step 0, .call (.cleanupOldSyncLogs (40 * day)),
    .step 1, .step 1, .step 0, .step 0]

/-- The clean-up of `cleanedUp` answers that it has deleted one log, and none is gone. -/
theorem sync_logs_by_history_cleaned : ∃ s, deviceSystem.Run (.init {}) cleanedUp s ∧
    s.db.syncLogs.map SyncLog.id = [2, 3] ∧
    (∃ past, past <+: s.journal ∧
      ((past.flatMap DeviceWrite.logs).filter (·.startedAt < 40 * day - 30 * day)).length = 1) ∧
    ∃ past, past <+: s.journal ∧ (orderByDesc SyncLog.startedAt
      ((past.flatMap DeviceWrite.logs).filter (·.deviceId = 1))).map SyncLog.id = [3, 2] := by
  have hread : (Lts.runNext (Uow.State.next DeviceWrite.apply DeviceRequest.handler)
      (.init {}) cleanedUp).map (fun s => decide (s.db.syncLogs.map SyncLog.id = [2, 3] ∧
        (.cleanupOldSyncLogs (40 * day), .ok (.deletedSyncLogs 1)) ∈ s.answers ∧
        (.listSyncLogs (.ofUuid 1), .ok (.syncLogs [
          ⟨3, 1, .download, .pending, 0, none, 40 * day, none⟩,
          ⟨2, 1, .download, .completed, 0, none, 0, some 0⟩])) ∈ s.answers)) = some true := by
    decide +kernel
  obtain ⟨s, hrun, hs⟩ := Lts.exists_run_of_map hread
  obtain ⟨hids, hcleanup, hlist⟩ := of_decide_eq_true hs
  obtain ⟨-, hlists, hcleanups⟩ := sync_logs_by_history rfl hrun
  refine ⟨s, hrun, hids, ?_, ?_⟩
  · obtain ⟨since, till, hlog⟩ := Uow.State.mem_answers.1 hcleanup
    obtain ⟨past, -, hpast, htill, hdeleted⟩ := hcleanups _ _ _ _ hlog
    exact ⟨past, hpast.trans htill, hdeleted.symm⟩
  · obtain ⟨since, till, hlog⟩ := Uow.State.mem_answers.1 hlist
    obtain ⟨id, past, hid, -, hpast, htill, hrows⟩ := hlists _ _ _ _ hlog
    cases hid
    exact ⟨past, hpast.trans htill, by rw [← hrows]; rfl⟩

/-! ### The sessions -/

/-- The sessions that a write opens. -/
def DeviceWrite.opens : DeviceWrite → List DeviceSession
  | .insertSession session _ => [session]
  | _ => []

/-- The time at which a write ends a session. -/
def DeviceWrite.endsAt (id : Uuid) : DeviceWrite → Option ℤ
  | .endSession other logoutAt => if id = other then some logoutAt else none
  | _ => none

/-- A session after a journal. -/
def sessionAfter (ws : List DeviceWrite) (row : DeviceSession) : DeviceSession :=
  match lastGiven (DeviceWrite.endsAt row.id) ws with
  | none => row
  | some logoutAt => row.endAt logoutAt

theorem sessionAfter_concat (ws : List DeviceWrite) (w : DeviceWrite) (row : DeviceSession) :
    sessionAfter (ws ++ [w]) row = match w.endsAt row.id with
      | none => sessionAfter ws row
      | some logoutAt => (sessionAfter ws row).endAt logoutAt := by
  unfold sessionAfter
  rw [Uow.lastGiven_concat]
  cases w.endsAt row.id with
  | none => rfl
  | some logoutAt => cases lastGiven (DeviceWrite.endsAt row.id) ws <;> rfl

/-- What a write makes of a session. -/
def DeviceWrite.ends (w : DeviceWrite) (row : DeviceSession) : DeviceSession :=
  match w.endsAt row.id with
  | none => row
  | some logoutAt => row.endAt logoutAt

theorem updated_eq_sessionAfter (ws : List DeviceWrite) (row : DeviceSession) :
    updated DeviceWrite.ends ws row = sessionAfter ws row := by
  have hid (ws : List DeviceWrite) : (updated DeviceWrite.ends ws row).id = row.id := by
    refine Uow.map_updated (fun w row => ?_) row
    unfold DeviceWrite.ends
    split <;> rfl
  induction ws using List.reverseRecOn with
  | nil => rfl
  | append_singleton ws w ih =>
    rw [Uow.updated_concat, sessionAfter_concat, DeviceWrite.ends, hid, ih]

/-- **The sessions are those that were opened**, each as the later requests have ended it. -/
theorem sessions_eq (h : Committed DeviceWrite.apply d₀ ws d) (h₀ : d₀.sessions = []) :
    d.sessions = rowsAfter DeviceWrite.opens DeviceWrite.ends ws := by
  refine h.table_eq h₀ fun w d d' happly => ?_
  rw [(DeviceWrite.apply_eq_ok happly).2.2.2]
  have hkeeps : d.sessions = d.sessions.map (fun row => row) := (List.map_id' _).symm
  cases w with
  | insertSession session columns =>
    show d.sessions ++ [session] = d.sessions.map (fun row => row) ++ [session]
    rw [← hkeeps]
  | endSession id logoutAt =>
    show d.sessions.map _ = d.sessions.map _ ++ []
    rw [List.append_nil]
    refine List.map_congr_left fun row _ => ?_
    show (if row.id = id then row.endAt logoutAt else row) =
      match (if row.id = id then some logoutAt else none) with
      | none => row
      | some logoutAt => row.endAt logoutAt
    split_ifs <;> rfl
  | insertDevice device => exact hkeeps.trans (List.append_nil _).symm
  | updateDevice id columns => exact hkeeps.trans (List.append_nil _).symm
  | insertSyncLogs logs device => exact hkeeps.trans (List.append_nil _).symm

/-- **Sessions in every interleaving of requests**, from none: a session is as it was opened, or
ended at the time of the last request that has ended it since; and a list of sessions has all those
of the device at a moment between the call and the answer, the last opened first. -/
theorem sessions_by_history (h₀ : d₀.sessions = []) (hrun : deviceSystem.Run (.init d₀) ls s) :
    (∀ row ∈ s.db.sessions, ∃ before session columns after,
      s.journal = before ++ .insertSession session columns :: after ∧
      row = sessionAfter after session) ∧
      ∀ devId since till rows, ⟨.listSessions devId, since, till, .ok (.sessions rows)⟩ ∈ s.log →
        ∃ id past, devId.uuid? = some id ∧ since <+: past ∧ past <+: till ∧ till <+: s.journal ∧
          rows = orderByDesc DeviceSession.loginAt
            ((rowsAfter DeviceWrite.opens DeviceWrite.ends past).filter (·.deviceId = id)) := by
  have hsound := Uow.sound_run_since DeviceRequest.justified_handler hrun
  refine ⟨fun row hrow => ?_, fun devId since till rows hanswer => ?_⟩
  · rw [sessions_eq hsound.history.committed h₀] at hrow
    obtain ⟨before, w, after, session, hjournal, hsession, rfl⟩ := Uow.mem_rowsAfter hrow
    cases w with
    | insertSession opened columns =>
      obtain rfl := List.mem_singleton.1 hsession
      exact ⟨before, session, columns, after, hjournal, updated_eq_sessionAfter after session⟩
    | _ => cases hsession
  · obtain ⟨-, htill, hpost⟩ := hsound.log _ hanswer
    obtain ⟨id, d, hid, ⟨past, hsince, hpast, hd⟩, rfl⟩ := hpost _ rfl
    exact ⟨id, past, hid, hsince, hpast, htill, by rw [sessions_eq hd h₀]⟩

/-- A session that is ended while the sessions are being listed, and then once more. -/
def endedTwice : List (Uow.Label DeviceRequest) :=
  [.call (.registerDevice 1 { code := "PDA-1" }), .step 0, .step 0, .step 0, .step 0,
    .call (.createSession 5 2 (.ofUuid 1)), .step 0, .step 0, .step 0, .step 0,
    .call (.listSessions (.ofUuid 1)), .step 0,
    .call (.endSession 7 (.ofUuid 1) (.ofUuid 2)), .step 1, .step 1, .step 1, .step 1,
    .step 0, .step 0,
    .call (.endSession 9 (.ofUuid 1) (.ofUuid 2)), .step 0, .step 0, .step 0, .step 0]

/-- The list of `endedTwice` has the session as it was ended first; the table, as it was ended last.
-/
theorem sessions_by_history_ended : ∃ s, deviceSystem.Run (.init {}) endedTwice s ∧
    (∃ session after, sessionAfter after session = ⟨2, 1, 5, .ended, some 9⟩) ∧
    ∃ past, past <+: s.journal ∧ orderByDesc DeviceSession.loginAt
      ((rowsAfter DeviceWrite.opens DeviceWrite.ends past).filter (·.deviceId = 1)) =
        [⟨2, 1, 5, .ended, some 7⟩] := by
  have hread : (Lts.runNext (Uow.State.next DeviceWrite.apply DeviceRequest.handler)
      (.init {}) endedTwice).map (fun s => decide (s.db.sessions = [⟨2, 1, 5, .ended, some 9⟩] ∧
        (.listSessions (.ofUuid 1), .ok (.sessions [⟨2, 1, 5, .ended, some 7⟩])) ∈ s.answers)) =
      some true := by
    decide +kernel
  obtain ⟨s, hrun, hs⟩ := Lts.exists_run_of_map hread
  obtain ⟨hdb, hlist⟩ := of_decide_eq_true hs
  obtain ⟨hsessions, hlists⟩ := sessions_by_history rfl hrun
  obtain ⟨before, session, columns, after, hjournal, hrow⟩ :=
    hsessions _ (hdb ▸ List.mem_singleton_self (DeviceSession.mk 2 1 5 .ended (some 9)))
  refine ⟨s, hrun, ⟨session, after, hrow.symm⟩, ?_⟩
  obtain ⟨since, till, hlog⟩ := Uow.State.mem_answers.1 hlist
  obtain ⟨id, past, hid, -, hpast, htill, hrows⟩ := hlists _ _ _ _ hlog
  cases hid
  exact ⟨past, hpast.trans htill, hrows.symm⟩

/-! ### What is consistent -/

/-- The tables are consistent: the keys are unique, logs and sessions are of devices that are there,
and say when they ended exactly when they have. -/
structure DeviceDb.Consistent (d : DeviceDb) : Prop where
  deviceIds : (d.devices.map TerminalDevice.id).Nodup
  deviceCodes : (d.devices.map TerminalDevice.code).Nodup
  sessionIds : (d.sessions.map DeviceSession.id).Nodup
  sessionDevices : ∀ row ∈ d.sessions, row.deviceId ∈ d.devices.map TerminalDevice.id
  sessionStamps : ∀ row ∈ d.sessions, row.Stamped
  logDevices : ∀ row ∈ d.syncLogs, row.deviceId ∈ d.devices.map TerminalDevice.id
  logStamps : ∀ row ∈ d.syncLogs, row.Stamped

/-- The devices keep their identifiers, and new ones have new identifiers and codes. -/
theorem DeviceWrite.onDevices_keys (hfits : w.Fits d)
    (hids : (d.devices.map TerminalDevice.id).Nodup)
    (hcodes : (d.devices.map TerminalDevice.code).Nodup) :
    ((w.onDevices d.devices).map TerminalDevice.id).Nodup ∧
      ((w.onDevices d.devices).map TerminalDevice.code).Nodup ∧
      d.devices.map TerminalDevice.id ⊆ (w.onDevices d.devices).map TerminalDevice.id := by
  have hupdate : ∀ id columns,
      ((updateRows TerminalDevice.id id (.update columns) d.devices).map TerminalDevice.id).Nodup ∧
      ((updateRows TerminalDevice.id id (.update columns) d.devices).map
        TerminalDevice.code).Nodup ∧ d.devices.map TerminalDevice.id ⊆
        (updateRows TerminalDevice.id id (.update columns) d.devices).map TerminalDevice.id := by
    intro id columns
    have hid : (updateRows TerminalDevice.id id (.update columns) d.devices).map
        TerminalDevice.id = d.devices.map TerminalDevice.id := map_id_updateRows fun _ => rfl
    have hcode : (updateRows TerminalDevice.id id (.update columns) d.devices).map
        TerminalDevice.code = d.devices.map TerminalDevice.code := map_updateRows fun _ => rfl
    rw [hid, hcode]
    exact ⟨hids, hcodes, List.Subset.refl _⟩
  unfold DeviceWrite.onDevices
  split
  · exact ⟨nodup_map_concat hids hfits.1, nodup_map_concat hcodes hfits.2,
      List.map_subset _ (List.subset_append_left _ _)⟩
  · exact hupdate _ _
  · exact hupdate _ _
  · exact hupdate _ _
  · exact ⟨hids, hcodes, List.Subset.refl _⟩

/-- **A commit keeps the tables consistent.** -/
theorem DeviceDb.Consistent.apply (h : d.Consistent) (hgoes : w.Goes)
    (happly : w.apply d = .ok d') : d'.Consistent := by
  obtain ⟨hfits, hdevices, hlogs, hsessions⟩ := DeviceWrite.apply_eq_ok happly
  obtain ⟨hids, hcodes, hsub⟩ := DeviceWrite.onDevices_keys hfits h.deviceIds h.deviceCodes
  rw [← hdevices] at hids hcodes hsub
  have hrows : (d'.sessions.map DeviceSession.id).Nodup ∧ ∀ row ∈ d'.sessions,
      row.deviceId ∈ d.devices.map TerminalDevice.id ∧ row.Stamped := by
    have hold : ∀ row ∈ d.sessions, row.deviceId ∈ d.devices.map TerminalDevice.id ∧
        row.Stamped := fun row hrow => ⟨h.sessionDevices row hrow, h.sessionStamps row hrow⟩
    rw [hsessions]
    cases w with
    | insertSession session columns =>
      refine ⟨nodup_map_concat h.sessionIds hfits.1, fun row hrow => ?_⟩
      rcases List.mem_append.1 hrow with hrow | hnew
      · exact hold row hrow
      · obtain rfl := List.mem_singleton.1 hnew
        refine ⟨hfits.2, ?_⟩
        rw [DeviceSession.Stamped, hgoes.1, hgoes.2]
        decide
    | endSession id logoutAt =>
      refine ⟨?_, fun row hrow => ?_⟩
      · have hid : (updateRows DeviceSession.id id (.endAt logoutAt) d.sessions).map
            DeviceSession.id = d.sessions.map DeviceSession.id := map_id_updateRows fun _ => rfl
        exact hid ▸ h.sessionIds
      · rcases mem_updateRows.1 hrow with ⟨row, hmem, -, rfl⟩ | ⟨hmem, -⟩
        · exact ⟨h.sessionDevices row hmem, fun _ => rfl, fun _ => rfl⟩
        · exact hold row hmem
    | _ => exact ⟨h.sessionIds, hold⟩
  have hlogRows : ∀ row ∈ d'.syncLogs,
      row.deviceId ∈ d.devices.map TerminalDevice.id ∧ row.Stamped := by
    intro row hrow
    rw [hlogs, List.mem_append] at hrow
    rcases hrow with hrow | hnew
    · exact ⟨h.logDevices row hrow, h.logStamps row hrow⟩
    · cases w with
      | insertSyncLogs logs device => exact ⟨hfits row hnew, hgoes row hnew⟩
      | _ => cases hnew
  exact {
    deviceIds := hids
    deviceCodes := hcodes
    sessionIds := hrows.1
    sessionDevices := fun row hrow => hsub (hrows.2 row hrow).1
    sessionStamps := fun row hrow => (hrows.2 row hrow).2
    logDevices := fun row hrow => hsub (hlogRows row hrow).1
    logStamps := fun row hrow => (hlogRows row hrow).2 }

/-- **Every run keeps the tables of the devices consistent**, the tasks included: a log is never of
a warehouse that is no device, whatever the inventory. -/
theorem devices_consistent (h₀ : d₀.Consistent) (hrun : deviceSystem.Run (.init d₀) ls s) :
    s.db.Consistent :=
  (Uow.sound_run_since DeviceRequest.justified_handler hrun).history.invariant h₀
    fun _ _ _ _ _ hd hgoes happly => hd.apply hgoes happly

end

/-- The inventory of a warehouse that is no device is not logged. -/
theorem devices_consistent_inventory : ∃ s,
    deviceSystem.Run (.init { warehouses := [8], inventory := [8] })
      [.call (.registerDevice 1 { code := "PDA-1", warehouseId := some (.ofUuid 8) }), .step 0,
        .step 0, .step 0, .step 0, .call (.syncInventory [(2, 5, 6)]), .step 0, .step 0] s ∧
    (.syncInventory [(2, 5, 6)], .error (.service .integrityError)) ∈ s.answers ∧
    s.db.Consistent := by
  have hread : (Lts.runNext (Uow.State.next DeviceWrite.apply DeviceRequest.handler)
      (.init { warehouses := [8], inventory := [8] })
      [.call (.registerDevice 1 { code := "PDA-1", warehouseId := some (.ofUuid 8) }), .step 0,
        .step 0, .step 0, .step 0, .call (.syncInventory [(2, 5, 6)]), .step 0, .step 0]).map
      (fun s => decide ((.syncInventory [(2, 5, 6)], .error (.service .integrityError)) ∈
        s.answers)) = some true := by
    decide +kernel
  obtain ⟨s, hrun, hs⟩ := Lts.exists_run_of_map hread
  refine ⟨s, hrun, of_decide_eq_true hs, devices_consistent ?_ hrun⟩
  constructor <;> simp

end Tms

end OmsWmsTms
