import OmsWmsTms.Core.Handlers
import OmsWmsTms.Data.OrderBy
import OmsWmsTms.Data.Rows
import OmsWmsTms.Uow.Journal

/-!
# Proofs of delivery and exceptions

`create_pod`, `get_pod`, `update_pod`, `create_exception`, `list_exceptions` and `resolve_exception`
of `src/tms/service.py`, as the routes of `src/tms/router.py` call them.  A second proof of delivery
of an order is not written; the first one is answered.

* `DeliveryWrite.apply`, `deliverySystem` : the commits, and the server.
* `pod_agreement` : whoever creates the proof of delivery of an order is answered the same one.
* `exceptions_by_history` : an exception is resolved when a request has resolved it, and stays so.
-/

namespace OmsWmsTms

namespace Tms

/-! ### Rows -/

/-- `PODSignature`. -/
inductive PODSignature
  | physical | digital
deriving DecidableEq

/-- What the column of a signature makes of a text: its names and its values are accepted. -/
def PODSignature.ofColumn : String → Except RequestError PODSignature
  | "physical" | "PHYSICAL" => .ok physical
  | "digital" | "DIGITAL" => .ok digital
  | _ => .error (.service .dataError)

/-- `ExceptionType`. -/
inductive ExceptionType
  | delayed | damagedInTransit | lost | addressIssue | customerUnavailable | weather
deriving DecidableEq

/-- `ExceptionType(value)`. -/
def ExceptionType.ofValue : String → Except RequestError ExceptionType
  | "delayed" => .ok delayed
  | "damaged_in_transit" => .ok damagedInTransit
  | "lost" => .ok lost
  | "address_issue" => .ok addressIssue
  | "customer_unavailable" => .ok customerUnavailable
  | "weather" => .ok weather
  | _ => .error (.service .valueError)

/-- `ExceptionStatus`. -/
inductive ExceptionStatus
  | open_ | resolved | escalated
deriving DecidableEq

/-- `ProofOfDelivery`; of the photos and the address, the JSON texts. -/
structure ProofOfDelivery where
  id : Uuid
  transportOrderId : Uuid
  signedBy : Option String
  signatureType : PODSignature
  signatureImageUrl : Option String
  deliveryPhotoUrls : String
  deliveredToAddress : Option String
  notes : Option String
deriving DecidableEq

/-- `TransportException`. -/
structure TransportException where
  id : Uuid
  transportOrderId : Option Uuid
  type : ExceptionType
  status : ExceptionStatus := .open_
  severity : String
  description : Option String
  resolutionNotes : Option String
  createdAt : ℤ
deriving DecidableEq

/-- The tables; of the transport orders, the identifiers. -/
structure DeliveryDb where
  orders : List Uuid := []
  pods : List ProofOfDelivery := []
  exceptions : List TransportException := []
deriving DecidableEq

/-- The proof of delivery of an order. -/
def DeliveryDb.podOf? (d : DeliveryDb) (orderId : Uuid) : Option ProofOfDelivery :=
  d.pods.find? (·.transportOrderId = orderId)

/-- The proof of delivery of an identifier. -/
def DeliveryDb.pod? (d : DeliveryDb) (id : Uuid) : Option ProofOfDelivery :=
  d.pods.find? (·.id = id)

/-- The exception of an identifier. -/
def DeliveryDb.exception? (d : DeliveryDb) (id : Uuid) : Option TransportException :=
  d.exceptions.find? (·.id = id)

/-! ### The commits -/

/-- The columns that an `UPDATE` of a proof of delivery sets. -/
structure PodColumns where
  signedBy : Option (Option String) := none
  signatureImageUrl : Option (Option String) := none
  deliveryPhotoUrls : Option String := none
  deliveredToAddress : Option (Option String) := none
  notes : Option (Option String) := none
deriving DecidableEq

/-- The proof of delivery after an `UPDATE`. -/
def ProofOfDelivery.update (columns : PodColumns) (row : ProofOfDelivery) : ProofOfDelivery :=
  { row with
    signedBy := columns.signedBy.getD row.signedBy
    signatureImageUrl := columns.signatureImageUrl.getD row.signatureImageUrl
    deliveryPhotoUrls := columns.deliveryPhotoUrls.getD row.deliveryPhotoUrls
    deliveredToAddress := columns.deliveredToAddress.getD row.deliveredToAddress
    notes := columns.notes.getD row.notes }

/-- The exception after `resolve_exception`. -/
def TransportException.resolve (notes : Option (Option String)) (row : TransportException) :
    TransportException :=
  { row with status := .resolved, resolutionNotes := notes.getD row.resolutionNotes }

/-- The changes that a handler commits. -/
inductive DeliveryWrite
  | insertPod (pod : ProofOfDelivery)
  | updatePod (id : Uuid) (columns : PodColumns)
  | insertException (exc : TransportException)
  | resolveException (id : Uuid) (notes : Option (Option String))
deriving DecidableEq

/-- What the database makes of the changes. -/
def DeliveryWrite.store (d : DeliveryDb) : DeliveryWrite → Except ServiceError DeliveryDb
  | .insertPod pod => do
    let _ ← constraint (pod.id ∉ d.pods.map ProofOfDelivery.id)
    let _ ← constraint (pod.transportOrderId ∉ d.pods.map ProofOfDelivery.transportOrderId)
    let _ ← constraint (pod.transportOrderId ∈ d.orders)
    return { d with pods := d.pods ++ [pod] }
  | .updatePod id columns =>
    if id ∈ d.pods.map ProofOfDelivery.id then
      return { d with pods := updateRows ProofOfDelivery.id id (.update columns) d.pods }
    else throw .staleData
  | .insertException exc => do
    let _ ← constraint (exc.id ∉ d.exceptions.map TransportException.id)
    let _ ← constraint (∀ orderId ∈ exc.transportOrderId, orderId ∈ d.orders)
    return { d with exceptions := d.exceptions ++ [exc] }
  | .resolveException id notes =>
    if id ∈ d.exceptions.map TransportException.id then
      return { d with
        exceptions := updateRows TransportException.id id (.resolve notes) d.exceptions }
    else throw .staleData

/-- **A commit.** -/
def DeliveryWrite.apply (w : DeliveryWrite) (d : DeliveryDb) : Except RequestError DeliveryDb :=
  (w.store d).mapError .service

/-! ### The handlers -/

/-- The answers. -/
inductive DeliveryAnswer
  | pod (row : ProofOfDelivery)
  | podOrNone (row : Option ProofOfDelivery)
  | exc (row : TransportException)
  | excs (rows : List TransportException)
deriving DecidableEq

/-- The handlers of deliveries. -/
abbrev DeliveryProg := Uow.Prog DeliveryDb DeliveryWrite RequestError DeliveryAnswer

open Uow.Prog (withOk refresh)

/-- The payload of `create_pod`. -/
structure PodData where
  /-- It takes the place of the order in the path. -/
  transportOrderId : Option IdArg := none
  signedBy : Option String := some "unknown"
  signatureType : String := "physical"
  /-- The JSON text; a falsy value is the empty list. -/
  deliveryPhotoUrls : String := "[]"
  deliveredToAddress : Option String := none
  notes : Option String := none
deriving DecidableEq

/-- The payload of `update_pod`. -/
structure PodUpdate where
  signedBy : Option String := none
  signatureImageUrl : Option String := none
  deliveryPhotoUrls : Option String := none
  deliveredToAddress : Option String := none
  notes : Option String := none
deriving DecidableEq

/-- The payload of `create_exception`. -/
structure ExceptionData where
  /-- The empty text is none. -/
  transportOrderId : Option IdArg := none
  type : String
  severity : String := "normal"
  description : Option String := none
  resolutionNotes : Option String := none
deriving DecidableEq

/-- `real_data["transport_order_id"]`. -/
def podOrder (orderId : IdArg) (data : PodData) : IdArg := data.transportOrderId.getD orderId

namespace DeliveryProg

/-- `create_pod`, of an order in the path. -/
def createPod (newId : Uuid) (orderId : IdArg) (data : PodData) : DeliveryProg :=
  match (podOrder orderId data).uuid? with
  | none => .throw (.notFound s!"TransportOrder {(podOrder orderId data).text} not found")
  | some orderUuid =>
    .read fun d =>
      match d.podOf? orderUuid with
      | some pod => refresh (·.pod? pod.id) fun row => .ret (.pod row)
      | none =>
        withOk (PODSignature.ofColumn data.signatureType) fun signatureType =>
        withOk (storeText? 200 data.signedBy) fun signedBy =>
        withOk (storeText? 500 orderId.text) fun signatureImageUrl =>
        .commit (.insertPod {
            id := newId, transportOrderId := orderUuid, signedBy, signatureType, signatureImageUrl
            deliveryPhotoUrls := data.deliveryPhotoUrls
            deliveredToAddress := data.deliveredToAddress, notes := data.notes })
          (refresh (·.pod? newId) fun row => .ret (.pod row))

/-- `get_pod`. -/
def getPod (orderId : IdArg) : DeliveryProg :=
  match orderId.uuid? with
  | none => .ret (.podOrNone none)
  | some orderUuid => .read fun d => .ret (.podOrNone (d.podOf? orderUuid))

/-- `update_pod`. -/
def updatePod (orderId : IdArg) (data : PodUpdate) : DeliveryProg :=
  match orderId.uuid? with
  | none => .throw (.notFound "POD not found")
  | some orderUuid =>
    .read fun d =>
      match d.podOf? orderUuid with
      | none => .throw (.notFound "POD not found")
      | some pod =>
        withOk (storeChanged 200 (data.signedBy.bind fun value =>
          changed pod.signedBy (some value))) fun signedBy =>
        withOk (storeChanged 500 (data.signatureImageUrl.bind fun value =>
          changed pod.signatureImageUrl (some value))) fun signatureImageUrl =>
        .commit (.updatePod pod.id {
            signedBy, signatureImageUrl
            deliveryPhotoUrls := data.deliveryPhotoUrls.bind (changed pod.deliveryPhotoUrls)
            deliveredToAddress := data.deliveredToAddress.bind fun value =>
              changed pod.deliveredToAddress (some value)
            notes := data.notes.bind fun value => changed pod.notes (some value) })
          (refresh (·.pod? pod.id) fun row => .ret (.pod row))

/-- The exception of `create_exception`, at a time. -/
def insertException (now : ℤ) (newId : Uuid) (transportOrderId : Option Uuid)
    (data : ExceptionData) : DeliveryProg :=
  withOk (ExceptionType.ofValue data.type) fun type =>
  withOk ((OmsWmsTms.storeText 20 data.severity).mapError .service) fun severity =>
  .commit (.insertException {
      id := newId, transportOrderId, type, severity
      description := data.description, resolutionNotes := data.resolutionNotes, createdAt := now })
    (refresh (·.exception? newId) fun row => .ret (.exc row))

/-- `create_exception`. -/
def createException (now : ℤ) (newId : Uuid) (data : ExceptionData) : DeliveryProg :=
  match data.transportOrderId with
  | none => insertException now newId none data
  | some orderId =>
    match orderId.uuid? with
    | none => .throw (.notFound s!"TransportOrder {orderId.text} not found")
    | some orderUuid =>
      .read fun d =>
        if orderUuid ∈ d.orders then insertException now newId (some orderUuid) data
        else .throw (.notFound s!"TransportOrder {orderId.text} not found")

/-- `list_exceptions`; of the order, the empty text is none. -/
def listExceptions (transportOrderId : Option IdArg) (status : ExceptionStatus) : DeliveryProg :=
  match transportOrderId with
  | none =>
    .read fun d => .ret (.excs (orderByDesc TransportException.createdAt
      (d.exceptions.filter (·.status = status))))
  | some orderId =>
    match orderId.uuid? with
    | none => .ret (.excs [])
    | some orderUuid =>
      .read fun d => .ret (.excs (orderByDesc TransportException.createdAt
        (d.exceptions.filter fun row =>
          row.status = status ∧ row.transportOrderId = some orderUuid)))

/-- `resolve_exception`. -/
def resolveException (excId : IdArg) (resolutionNotes : Option String) : DeliveryProg :=
  match excId.uuid? with
  | none => .throw (.notFound s!"TransportException {excId.text} not found")
  | some excUuid =>
    .read fun d =>
      match d.exception? excUuid with
      | none => .throw (.notFound s!"TransportException {excId.text} not found")
      | some exc =>
        -- a status that is `RESOLVED` already stays what it is
        .commit (.resolveException exc.id
            (changed exc.resolutionNotes (orLoaded resolutionNotes exc.resolutionNotes)))
          (refresh (·.exception? exc.id) fun row => .ret (.exc row))

end DeliveryProg

/-- A request. -/
inductive DeliveryRequest
  | createPod (newId : Uuid) (orderId : IdArg) (data : PodData)
  | getPod (orderId : IdArg)
  | updatePod (orderId : IdArg) (data : PodUpdate)
  | createException (now : ℤ) (newId : Uuid) (data : ExceptionData)
  | listExceptions (transportOrderId : Option IdArg) (status : ExceptionStatus)
  | resolveException (excId : IdArg) (resolutionNotes : Option String)
deriving DecidableEq

/-- The handler of a request. -/
def DeliveryRequest.handler : DeliveryRequest → DeliveryProg
  | .createPod newId orderId data => .createPod newId orderId data
  | .getPod orderId => .getPod orderId
  | .updatePod orderId data => .updatePod orderId data
  | .createException now newId data => .createException now newId data
  | .listExceptions transportOrderId status => .listExceptions transportOrderId status
  | .resolveException excId resolutionNotes => .resolveException excId resolutionNotes

/-- A server of deliveries. -/
abbrev DeliveryState :=
  Uow.State DeliveryDb DeliveryWrite DeliveryRequest RequestError DeliveryAnswer

/-- **The requests on proofs of delivery and exceptions.** -/
def deliverySystem : Lts DeliveryState (Uow.Label DeliveryRequest) :=
  Uow.system DeliveryWrite.apply DeliveryRequest.handler

/-! ### What a commit does -/

open Uow (Committed History lastGiven rowsAfter updated)
open Uow.Prog (justified_read justified_withOk)

/-- The proofs of delivery that a write inserts. -/
def DeliveryWrite.signs : DeliveryWrite → List ProofOfDelivery
  | .insertPod pod => [pod]
  | _ => []

/-- What a write makes of a proof of delivery. -/
def DeliveryWrite.onPod : DeliveryWrite → ProofOfDelivery → ProofOfDelivery
  | .updatePod id columns, row => if row.id = id then row.update columns else row
  | _, row => row

/-- The exceptions that a write inserts. -/
def DeliveryWrite.reports : DeliveryWrite → List TransportException
  | .insertException exc => [exc]
  | _ => []

/-- What a write makes of an exception. -/
def DeliveryWrite.onException : DeliveryWrite → TransportException → TransportException
  | .resolveException id notes, row => if row.id = id then row.resolve notes else row
  | _, row => row

/-- What holds of a write that the database takes. -/
def DeliveryWrite.Fits (d : DeliveryDb) : DeliveryWrite → Prop
  | .insertPod pod => pod.id ∉ d.pods.map ProofOfDelivery.id ∧
      pod.transportOrderId ∉ d.pods.map ProofOfDelivery.transportOrderId
  | _ => True

section

variable {d₀ d d' : DeliveryDb} {ws past since : List DeliveryWrite} {w : DeliveryWrite} {id : Uuid}
  {s : DeliveryState} {ls : List (Uow.Label DeliveryRequest)}

theorem DeliveryWrite.store_of_apply (h : w.apply d = .ok d') : w.store d = .ok d' := by
  unfold DeliveryWrite.apply at h
  cases hstore : w.store d with
  | error e =>
    rw [hstore] at h
    cases h
  | ok db =>
    rw [hstore] at h
    cases h
    rfl

/-- **What a commit does.** -/
theorem DeliveryWrite.apply_eq_ok (h : w.apply d = .ok d') : w.Fits d ∧
    d'.pods = d.pods.map w.onPod ++ w.signs ∧
    d'.exceptions = d.exceptions.map w.onException ++ w.reports := by
  replace h := DeliveryWrite.store_of_apply h
  have hpods : d.pods = d.pods.map (fun row => row) ++ [] := by
    rw [List.map_id', List.append_nil]
  have hexceptions : d.exceptions = d.exceptions.map (fun row => row) ++ [] := by
    rw [List.map_id', List.append_nil]
  cases w with
  | insertPod pod =>
    simp only [DeliveryWrite.store, bind_eq_ok_iff, pure_eq_ok_iff] at h
    obtain ⟨_, hid, _, horder, -, -, rfl⟩ := h
    have hfits := And.intro (constraint_eq_ok_iff.1 hid) (constraint_eq_ok_iff.1 horder)
    refine ⟨hfits, ?_, hexceptions⟩
    show d.pods ++ [pod] = d.pods.map (fun row => row) ++ [pod]
    rw [List.map_id']
  | updatePod id columns =>
    simp only [DeliveryWrite.store] at h
    split_ifs at h
    cases h
    exact ⟨trivial, (List.append_nil _).symm, hexceptions⟩
  | insertException exc =>
    simp only [DeliveryWrite.store, bind_eq_ok_iff, pure_eq_ok_iff] at h
    obtain ⟨-, -, -, -, rfl⟩ := h
    refine ⟨trivial, hpods, ?_⟩
    show d.exceptions ++ [exc] = d.exceptions.map (fun row => row) ++ [exc]
    rw [List.map_id']
  | resolveException id notes =>
    simp only [DeliveryWrite.store] at h
    split_ifs at h
    cases h
    exact ⟨trivial, hpods, (List.append_nil _).symm⟩

/-! ### What a request goes by, and what it answers -/

/-- The order of the proof of delivery that a request asks for. -/
def DeliveryRequest.order? : DeliveryRequest → Option Uuid
  | .createPod _ orderId data => (podOrder orderId data).uuid?
  | .getPod orderId | .updatePod orderId _ => orderId.uuid?
  | _ => none

/-- The proof of delivery that an answer gives. -/
def DeliveryAnswer.pod? : DeliveryAnswer → Option ProofOfDelivery
  | .pod row => some row
  | .podOrNone row => row
  | _ => none

/-- The exceptions of a status, and of an order if one is given. -/
def listed (transportOrderId : Option IdArg) (status : ExceptionStatus)
    (row : TransportException) : Bool :=
  row.status = status &&
    transportOrderId.all fun orderId => orderId.uuid?.any (row.transportOrderId = some ·)

/-- Exceptions are inserted as open. -/
def DeliveryWrite.Goes : DeliveryWrite → Prop
  | .insertException exc => exc.status = .open_
  | _ => True

/-- The row is the proof of delivery of an order at a moment: the one that was inserted, with the
updates up to there. -/
def PodOf (order : Uuid) (row : ProofOfDelivery) (ws : List DeliveryWrite) : Prop :=
  ∃ before pod after, before ++ .insertPod pod :: after <+: ws ∧ pod.transportOrderId = order ∧
    row = updated DeliveryWrite.onPod after pod

/-- A list of exceptions is that of a moment between the call and the answer. -/
def DeliveryRequest.ListPost (d₀ : DeliveryDb) (q : DeliveryRequest) (since : List DeliveryWrite)
    (a : DeliveryAnswer) (ws : List DeliveryWrite) : Prop :=
  match q, a with
  | .listExceptions transportOrderId status, .excs rows =>
    ∃ past, since <+: past ∧ past <+: ws ∧ ∀ d, Committed DeliveryWrite.apply d₀ past d →
      rows = orderByDesc TransportException.createdAt
        (d.exceptions.filter (listed transportOrderId status))
  | _, _ => True

/-- What an answer says of a moment, of proofs of delivery when there were none at the start. -/
def DeliveryRequest.Post (d₀ : DeliveryDb) (q : DeliveryRequest) (since : List DeliveryWrite)
    (a : DeliveryAnswer) (ws : List DeliveryWrite) : Prop :=
  (d₀.pods = [] → ∀ row ∈ a.pod?, ∃ order, q.order? = some order ∧ PodOf order row ws) ∧
    q.ListPost d₀ since a ws

/-- The handlers are justified: an abbreviation. -/
abbrev DeliveryProg.Justified (d₀ : DeliveryDb) (q : DeliveryRequest) (since : List DeliveryWrite)
    (p : DeliveryProg) (K : List DeliveryWrite → Prop) : Prop :=
  Uow.Prog.Justified DeliveryWrite.apply (fun _ w => w.Goes) d₀ (q.Post d₀ since) p K

/-! ### The proofs of delivery -/

@[simp] theorem DeliveryWrite.onPod_id (w : DeliveryWrite) (row : ProofOfDelivery) :
    (w.onPod row).id = row.id := by
  unfold DeliveryWrite.onPod
  split
  · split <;> rfl
  · rfl

@[simp] theorem DeliveryWrite.onPod_transportOrderId (w : DeliveryWrite) (row : ProofOfDelivery) :
    (w.onPod row).transportOrderId = row.transportOrderId := by
  unfold DeliveryWrite.onPod
  split
  · split <;> rfl
  · rfl

/-- A proof of delivery keeps its identifier and its order. -/
theorem updated_onPod (ws : List DeliveryWrite) (row : ProofOfDelivery) :
    (updated DeliveryWrite.onPod ws row).id = row.id ∧
      (updated DeliveryWrite.onPod ws row).transportOrderId = row.transportOrderId :=
  ⟨Uow.map_updated DeliveryWrite.onPod_id row,
    Uow.map_updated DeliveryWrite.onPod_transportOrderId row⟩

/-- The proofs of delivery are those that were inserted, with the updates since. -/
theorem pods_eq (h : Committed DeliveryWrite.apply d₀ ws d) (h₀ : d₀.pods = []) :
    d.pods = rowsAfter DeliveryWrite.signs DeliveryWrite.onPod ws :=
  h.table_eq h₀ fun _ _ _ happly => (DeliveryWrite.apply_eq_ok happly).2.1

/-- The keys of the proofs of delivery are unique. -/
theorem nodup_pods (h : Committed DeliveryWrite.apply d₀ ws d) (h₀ : d₀.pods = []) :
    (d.pods.map ProofOfDelivery.id).Nodup ∧
      (d.pods.map ProofOfDelivery.transportOrderId).Nodup := by
  refine h.invariant (I := fun d => (d.pods.map ProofOfDelivery.id).Nodup ∧
    (d.pods.map ProofOfDelivery.transportOrderId).Nodup) ?_ fun ws w d d' _ hnodup _ happly => ?_
  · simp [h₀]
  · obtain ⟨hfits, hpods, -⟩ := DeliveryWrite.apply_eq_ok happly
    obtain ⟨hids, horders⟩ := hnodup
    have hid : (d.pods.map w.onPod).map ProofOfDelivery.id = d.pods.map ProofOfDelivery.id := by
      simp [List.map_map, Function.comp_def]
    have horder : (d.pods.map w.onPod).map ProofOfDelivery.transportOrderId =
        d.pods.map ProofOfDelivery.transportOrderId := by
      simp [List.map_map, Function.comp_def]
    rw [hpods, List.map_append, List.map_append, hid, horder]
    cases w with
    | insertPod pod =>
      rw [← List.map_append, ← List.map_append]
      exact ⟨nodup_map_concat hids hfits.1, nodup_map_concat horders hfits.2⟩
    | _ => simpa [DeliveryWrite.signs] using And.intro hids horders

/-- A row of the table is the proof of delivery of its order. -/
theorem podOf_of_mem (h : Committed DeliveryWrite.apply d₀ ws d) (h₀ : d₀.pods = [])
    {row : ProofOfDelivery} (hrow : row ∈ d.pods) : PodOf row.transportOrderId row ws := by
  rw [pods_eq h h₀] at hrow
  obtain ⟨before, w, after, pod, hws, hpod, rfl⟩ := Uow.mem_rowsAfter hrow
  cases w with
  | insertPod inserted =>
    obtain rfl := List.mem_singleton.1 hpod
    exact ⟨before, pod, after, by rw [← hws], (updated_onPod after pod).2.symm, rfl⟩
  | _ => cases hpod

theorem PodOf.mono {order : Uuid} {row : ProofOfDelivery} (h : PodOf order row past)
    (hpast : past <+: ws) : PodOf order row ws := by
  obtain ⟨before, pod, after, hearlier, horder, hrow⟩ := h
  exact ⟨before, pod, after, hearlier.trans hpast, horder, hrow⟩

/-- **What is inserted stays**, updated. -/
theorem mem_pods_of_prefix {before after : List DeliveryWrite} {pod : ProofOfDelivery}
    (h : Committed DeliveryWrite.apply d₀ ws d) (h₀ : d₀.pods = [])
    (hearlier : before ++ .insertPod pod :: after <+: ws) :
    ∃ rest, updated DeliveryWrite.onPod (after ++ rest) pod ∈ d.pods ∧
      ws = before ++ .insertPod pod :: (after ++ rest) := by
  obtain ⟨rest, rfl⟩ := hearlier
  refine ⟨rest, ?_, by simp⟩
  rw [pods_eq h h₀, List.append_assoc, Uow.rowsAfter_append]
  refine List.mem_append_right _ (List.mem_append_left _ ?_)
  exact List.mem_map_of_mem (List.mem_singleton_self _)

/-- A proof of delivery that is read again is of the order of which it was. -/
theorem PodOf.refresh {order : Uuid} {row row' : ProofOfDelivery} (h : PodOf order row ws)
    (hd : Committed DeliveryWrite.apply d₀ ws d) (h₀ : d₀.pods = []) (hrow' : row' ∈ d.pods)
    (hid : row'.id = row.id) : PodOf order row' ws := by
  obtain ⟨before, pod, after, hearlier, rfl, rfl⟩ := h
  obtain ⟨rest, hmem, -⟩ := mem_pods_of_prefix hd h₀ hearlier
  obtain ⟨hpodId, hpodOrder⟩ := updated_onPod (after ++ rest) pod
  have hsame : row' = updated DeliveryWrite.onPod (after ++ rest) pod := by
    refine List.inj_on_of_nodup_map (nodup_pods hd h₀).1 hrow' hmem ?_
    rw [hid, (updated_onPod after pod).1, hpodId]
  rw [← hpodOrder, ← hsame]
  exact podOf_of_mem hd h₀ hrow'

/-- A request that knows the proof of delivery of its order, and reads it again. -/
theorem DeliveryProg.justified_refreshPod {q : DeliveryRequest} {order id : Uuid}
    {K : List DeliveryWrite → Prop} (horder : q.order? = some order)
    (hK : d₀.pods = [] → ∀ ws, K ws → ∃ row, row.id = id ∧ PodOf order row ws) :
    DeliveryProg.Justified d₀ q since (refresh (·.pod? id) fun row => .ret (.pod row)) K := by
  refine justified_read fun d => ?_
  split
  · next row hrow =>
    rintro ws ⟨past, hpast, hknown, hd⟩
    refine ⟨fun h₀ row' hrow' => ?_, by cases q <;> trivial⟩
    cases hrow'
    obtain ⟨first, hfirst, hpod⟩ := hK h₀ past hknown
    have hid : row.id = first.id := by
      rw [hfirst]
      simpa using List.find?_some hrow
    exact ⟨order, horder, (hpod.refresh hd h₀ (List.mem_of_find?_eq_some hrow) hid).mono hpast⟩
  · trivial

/-- The proof of delivery of an order that is read. -/
theorem podOf_of_podOf? {order : Uuid} {row : ProofOfDelivery}
    (h : Committed DeliveryWrite.apply d₀ ws d) (h₀ : d₀.pods = [])
    (hrow : d.podOf? order = some row) : PodOf order row ws := by
  have horder : row.transportOrderId = order := by simpa using List.find?_some hrow
  rw [← horder]
  exact podOf_of_mem h h₀ (List.mem_of_find?_eq_some hrow)

/-- An answer without a proof of delivery, to a request that lists no exceptions. -/
theorem DeliveryProg.justified_refreshException {q : DeliveryRequest} {id : Uuid}
    {K : List DeliveryWrite → Prop} :
    DeliveryProg.Justified d₀ q since (refresh (·.exception? id) fun row => .ret (.exc row)) K := by
  refine justified_read fun d => ?_
  split
  · exact fun ws _ => ⟨fun _ _ h => (by cases h), by cases q <;> trivial⟩
  · trivial

theorem DeliveryProg.justified_insertException {q : DeliveryRequest} {now : ℤ} {newId : Uuid}
    {orderId : Option Uuid} {data : ExceptionData} {K : List DeliveryWrite → Prop} :
    DeliveryProg.Justified d₀ q since (.insertException now newId orderId data) K :=
  justified_withOk fun _ _ => justified_withOk fun _ _ =>
    ⟨fun _ _ => rfl, DeliveryProg.justified_refreshException⟩

theorem DeliveryProg.justified_createPod {newId : Uuid} {orderId : IdArg}
    {data : PodData} {K : List DeliveryWrite → Prop} :
    DeliveryProg.Justified d₀ (.createPod newId orderId data) since
      (.createPod newId orderId data) K := by
  unfold DeliveryProg.createPod
  split
  · trivial
  · next order horder =>
    refine justified_read fun d => ?_
    split
    · next pod hpod =>
      refine DeliveryProg.justified_refreshPod horder fun h₀ => ?_
      rintro ws ⟨past, hpast, -, hd⟩
      exact ⟨pod, rfl, (podOf_of_podOf? hd h₀ hpod).mono hpast⟩
    · refine justified_withOk fun signatureType _ => justified_withOk fun signedBy _ =>
        justified_withOk fun signatureImageUrl _ => ⟨fun _ _ => trivial, ?_⟩
      refine DeliveryProg.justified_refreshPod horder fun _ => ?_
      rintro ws ⟨past, hpast, -⟩
      exact ⟨_, rfl, past, _, [], hpast, rfl, rfl⟩

theorem DeliveryProg.justified_updatePod {orderId : IdArg} {data : PodUpdate}
    {K : List DeliveryWrite → Prop} : DeliveryProg.Justified d₀ (.updatePod orderId data) since
      (.updatePod orderId data) K := by
  unfold DeliveryProg.updatePod
  split
  · trivial
  · next order horder =>
    refine justified_read fun d => ?_
    split
    · trivial
    · next pod hpod =>
      refine justified_withOk fun signedBy _ => justified_withOk fun signatureImageUrl _ =>
        ⟨fun _ _ => trivial, DeliveryProg.justified_refreshPod horder fun h₀ => ?_⟩
      rintro ws ⟨past, hpast, past', hpast', -, hd⟩
      exact ⟨pod, rfl, (podOf_of_podOf? hd h₀ hpod).mono
        (hpast'.trans ((List.prefix_append _ _).trans hpast))⟩

theorem DeliveryProg.justified_listExceptions {transportOrderId : Option IdArg}
    {status : ExceptionStatus} :
    DeliveryProg.Justified d₀ (.listExceptions transportOrderId status) since
      (.listExceptions transportOrderId status) fun ws => since <+: ws := by
  have hread : ∀ p : TransportException → Bool, p = listed transportOrderId status →
      DeliveryProg.Justified d₀ (.listExceptions transportOrderId status) since
        (.read fun d => .ret (.excs (orderByDesc TransportException.createdAt
          (d.exceptions.filter p)))) fun ws => since <+: ws := by
    rintro p rfl
    refine justified_read fun d => ?_
    rintro ws ⟨past, hpast, hsince, hd⟩
    refine ⟨fun _ _ h => (by cases h), past, hsince, hpast, fun d' hd' => ?_⟩
    rw [hd.unique hd']
  unfold DeliveryProg.listExceptions
  split
  · exact hread _ (funext fun row => by simp [listed])
  · next orderId =>
    split
    · next hid =>
      refine fun ws hsince =>
        ⟨fun _ _ h => (by cases h), ws, hsince, List.prefix_rfl, fun d _ => ?_⟩
      have hnone : listed (some orderId) status = fun _ => false :=
        funext fun row => by simp [listed, hid]
      rw [hnone, List.filter_false]
      rfl
    · next order hid => exact hread _ (funext fun row => by simp [listed, hid])

theorem DeliveryRequest.justified_handler (q : DeliveryRequest) (since : List DeliveryWrite) :
    DeliveryProg.Justified d₀ q since q.handler fun ws => since <+: ws := by
  cases q with
  | createPod newId orderId data => exact DeliveryProg.justified_createPod
  | getPod orderId =>
    show DeliveryProg.Justified d₀ _ since (DeliveryProg.getPod orderId) _
    unfold DeliveryProg.getPod
    split
    · exact fun ws _ => ⟨fun _ _ h => (by cases h), trivial⟩
    · next order horder =>
      refine justified_read fun d => ?_
      rintro ws ⟨past, hpast, -, hd⟩
      refine ⟨fun h₀ row hrow => ⟨order, horder, ?_⟩, trivial⟩
      exact (podOf_of_podOf? hd h₀ hrow).mono hpast
  | updatePod orderId data => exact DeliveryProg.justified_updatePod
  | createException now newId data =>
    show DeliveryProg.Justified d₀ _ since (DeliveryProg.createException now newId data) _
    unfold DeliveryProg.createException
    split
    · exact DeliveryProg.justified_insertException
    · split
      · trivial
      · refine justified_read fun d => ?_
        split
        · exact DeliveryProg.justified_insertException
        · trivial
  | listExceptions transportOrderId status => exact DeliveryProg.justified_listExceptions
  | resolveException excId resolutionNotes =>
    show DeliveryProg.Justified d₀ _ since (DeliveryProg.resolveException excId resolutionNotes) _
    unfold DeliveryProg.resolveException
    split
    · trivial
    · refine justified_read fun d => ?_
      split
      · trivial
      · exact ⟨fun _ _ => trivial, DeliveryProg.justified_refreshException⟩

/-- Two couriers sign for one order at once; the second tries again, after the first has corrected
its signature. -/
def signedTwice : List (Uow.Label DeliveryRequest) :=
  [.call (.createPod 1 (.ofUuid 7) { signedBy := some "Li" }), .step 0,
    .call (.createPod 2 (.ofUuid 7) { signedBy := some "Wu" }), .step 1, .step 0, .step 1,
    .step 0, .step 0,
    .call (.updatePod (.ofUuid 7) { signedBy := some "Lin" }), .step 0, .step 0, .step 0, .step 0,
    .call (.createPod 3 (.ofUuid 7) { signedBy := some "Wu" }), .step 0, .step 0, .step 0]

/-- Whether a write resolves an exception. -/
def DeliveryWrite.resolves (id : Uuid) : DeliveryWrite → Bool
  | .resolveException other _ => id = other
  | _ => false

/-- The notes that a write gives an exception. -/
def DeliveryWrite.givesNotes (id : Uuid) : DeliveryWrite → Option (Option String)
  | .resolveException other notes => if id = other then notes else none
  | _ => none

/-- An exception after a journal. -/
def exceptionAfter (ws : List DeliveryWrite) (exc : TransportException) : TransportException :=
  { exc with
    status := if ws.any (DeliveryWrite.resolves exc.id) then .resolved else exc.status
    resolutionNotes := (lastGiven (DeliveryWrite.givesNotes exc.id) ws).getD exc.resolutionNotes }

/-- One more write resolves the exception, or keeps it. -/
theorem onException_exceptionAfter (w : DeliveryWrite) (exc : TransportException) :
    w.onException (exceptionAfter ws exc) = exceptionAfter (ws ++ [w]) exc := by
  have hkeeps : w.resolves exc.id = false → w.givesNotes exc.id = none →
      exceptionAfter (ws ++ [w]) exc = exceptionAfter ws exc := by
    intro hresolves hgives
    unfold exceptionAfter
    rw [List.any_append, Uow.lastGiven_concat, hgives]
    simp [hresolves]
  cases w with
  | resolveException id notes =>
    by_cases hid : exc.id = id
    · subst hid
      cases notes <;> simp [DeliveryWrite.onException, exceptionAfter, TransportException.resolve,
        DeliveryWrite.resolves, DeliveryWrite.givesNotes]
    · show (if exc.id = id then _ else _) = _
      rw [if_neg hid]
      exact (hkeeps (decide_eq_false hid) (if_neg hid)).symm
  | _ => exact (hkeeps rfl rfl).symm

theorem updated_eq_exceptionAfter (ws : List DeliveryWrite) (exc : TransportException) :
    updated DeliveryWrite.onException ws exc = exceptionAfter ws exc := by
  induction ws using List.reverseRecOn with
  | nil => simp [updated, exceptionAfter]
  | append_singleton ws w ih => rw [Uow.updated_concat, ih, onException_exceptionAfter]

/-- The exceptions are those that were reported, as the later requests have resolved them. -/
theorem exceptions_eq (h : Committed DeliveryWrite.apply d₀ ws d) (h₀ : d₀.exceptions = []) :
    d.exceptions = rowsAfter DeliveryWrite.reports DeliveryWrite.onException ws :=
  h.table_eq h₀ fun _ _ _ happly => (DeliveryWrite.apply_eq_ok happly).2.2

/-- **Exceptions in every interleaving of requests**, from none: an exception is reported as open,
and is resolved once a request has resolved it, with the last notes that were given; and a list of
exceptions has all those of the status and the order at a moment between the call and the answer, the
last reported first. -/
theorem exceptions_by_history (h₀ : d₀.exceptions = [])
    (hrun : deliverySystem.Run (.init d₀) ls s) :
    (∀ row ∈ s.db.exceptions, ∃ before exc after,
      s.journal = before ++ .insertException exc :: after ∧ exc.status = .open_ ∧
      row = exceptionAfter after exc) ∧
      ∀ transportOrderId status since till rows,
        ⟨.listExceptions transportOrderId status, since, till, .ok (.excs rows)⟩ ∈ s.log →
        ∃ past, since <+: past ∧ past <+: till ∧ till <+: s.journal ∧
          rows = orderByDesc TransportException.createdAt
            ((rowsAfter DeliveryWrite.reports DeliveryWrite.onException past).filter
              (listed transportOrderId status)) := by
  have hsound := Uow.sound_run_since DeliveryRequest.justified_handler hrun
  refine ⟨fun row hrow => ?_, fun transportOrderId status since till rows hanswer => ?_⟩
  · rw [exceptions_eq hsound.history.committed h₀] at hrow
    obtain ⟨before, w, after, exc, hjournal, hexc, rfl⟩ := Uow.mem_rowsAfter hrow
    cases w with
    | insertException reported =>
      obtain rfl := List.mem_singleton.1 hexc
      exact ⟨before, exc, after, hjournal, (hsound.history.justified hjournal).1,
        updated_eq_exceptionAfter after exc⟩
    | _ => cases hexc
  · obtain ⟨-, htill, hpost⟩ := hsound.log _ hanswer
    obtain ⟨-, past, hsince, hpast, hrows⟩ := hpost _ rfl
    obtain ⟨d, hd⟩ := hsound.history.before (hpast.trans htill)
    refine ⟨past, hsince, hpast, htill, ?_⟩
    rw [hrows d hd.committed, exceptions_eq hd.committed h₀]

/-- Two exceptions of an order; the later one is resolved while the open ones are being listed, and
its notes are then replaced. -/
def resolvedTwice : List (Uow.Label DeliveryRequest) :=
  [.call (.createException 3 1 { transportOrderId := some (.ofUuid 7), type := "delayed" }),
    .step 0, .step 0, .step 0, .step 0,
    .call (.createException 5 2 { transportOrderId := some (.ofUuid 7), type := "lost" }),
    .step 0, .step 0, .step 0, .step 0,
    .call (.listExceptions (some (.ofUuid 7)) .open_), .step 0,
    .call (.resolveException (.ofUuid 2) (some "found")), .step 1, .step 1, .step 1, .step 1,
    .step 0,
    .call (.resolveException (.ofUuid 2) (some "returned")), .step 0, .step 0, .step 0, .step 0]

/-- The list of `resolvedTwice` has both exceptions as open, the table the later one as resolved. -/
theorem exceptions_by_history_resolved : ∃ s,
    deliverySystem.Run (.init { orders := [7] }) resolvedTwice s ∧
    (∃ before exc after, s.journal = before ++ .insertException exc :: after ∧
      exc.status = .open_ ∧
      exceptionAfter after exc =
        ⟨2, some 7, .lost, .resolved, "normal", none, some "returned", 5⟩) ∧
    ∃ past, past <+: s.journal ∧ (orderByDesc TransportException.createdAt
      ((rowsAfter DeliveryWrite.reports DeliveryWrite.onException past).filter
        (listed (some (.ofUuid 7)) .open_))).map TransportException.id = [2, 1] := by
  have hread : (Lts.runNext (Uow.State.next DeliveryWrite.apply DeliveryRequest.handler)
      (.init { orders := [7] }) resolvedTwice).map (fun s => decide (
        ⟨2, some 7, .lost, .resolved, "normal", none, some "returned", 5⟩ ∈ s.db.exceptions ∧
        (.listExceptions (some (.ofUuid 7)) .open_, .ok (.excs [
          ⟨2, some 7, .lost, .open_, "normal", none, none, 5⟩,
          ⟨1, some 7, .delayed, .open_, "normal", none, none, 3⟩])) ∈ s.answers)) =
      some true := by
    decide +kernel
  obtain ⟨s, hrun, hs⟩ := Lts.exists_run_of_map hread
  obtain ⟨hrow, hlist⟩ := of_decide_eq_true hs
  obtain ⟨hrows, hlists⟩ := exceptions_by_history rfl hrun
  obtain ⟨before, exc, after, hjournal, hopen, hexc⟩ := hrows _ hrow
  obtain ⟨since, till, hlog⟩ := Uow.State.mem_answers.1 hlist
  obtain ⟨past, -, hpast, htill, hlisted⟩ := hlists _ _ _ _ _ hlog
  exact ⟨s, hrun, ⟨before, exc, after, hjournal, hopen, hexc.symm⟩, past, hpast.trans htill,
    by rw [← hlisted]; rfl⟩

end

end Tms

end OmsWmsTms
