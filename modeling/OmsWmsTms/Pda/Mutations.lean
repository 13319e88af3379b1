import OmsWmsTms.Core.Errors
import OmsWmsTms.Core.Ids
import OmsWmsTms.Pda.SyncQueue

/-!
# The pending mutations

`process_pending_mutations` of `src/pda/service.py`.  The mutations of a batch share one session:
`append_event` flushes it, and the identifier of a mutation is an integer, which the column
`aggregate_id` does not take.  A failed flush expires what the session has loaded, so that the
message of the `except` block cannot be put together any more.

* `PendingMutation`, `MutationDb` : the tables.
* `Batch` : what the statement returns.
* `appendEvent`, `handleFailure`, `processMutation` : one mutation.
* `processPendingMutations` : the function.
* `Independently` : what is promised; `mutations_iff` : when it holds.
-/

namespace OmsWmsTms

namespace Pda

namespace Mutations

/-! ### The tables -/

/-- `PendingMutation`. -/
structure PendingMutation where
  id : ℤ
  deviceId : String
  entityType : String
  entityId : String
  operation : String
  payload : JsonText
  createdAt : ℤ
  syncedAt : Option ℤ := none
  retryCount : Option ℤ := some 0
deriving DecidableEq

/-- The payload of an outbox event. -/
structure MutationPayload where
  entityId : String
  operation : String
  data : JsonValue
deriving DecidableEq

/-- `OutboxEvent`. -/
structure MutationEvent where
  id : Uuid
  aggregateType : String
  aggregateId : Uuid
  eventType : String
  payload : MutationPayload
  status : String := "pending"
  retryCount : ℤ := 0
deriving DecidableEq

/-- The two tables; `id` is a primary key. -/
structure MutationDb where
  mutations : List PendingMutation
  outbox : List MutationEvent
  nodup : (mutations.map PendingMutation.id).Nodup

/-- What the statement returns: the mutations that are not synced, the oldest first, up to a limit. -/
structure Batch (db : MutationDb) (batchSize : ℕ) where
  pending : List PendingMutation
  perm : pending.Perm (db.mutations.filter fun m => m.syncedAt = none)
  oldest : pending.Pairwise fun a b => a.createdAt ≤ b.createdAt

/-- The mutations of a batch. -/
def Batch.mutations {db : MutationDb} {batchSize : ℕ} (batch : Batch db batchSize) :
    List PendingMutation := batch.pending.take batchSize

/-! ### A mutation -/

/-- A value that is bound to a column. -/
inductive Bound
  | uuid (id : Uuid)
  | int (n : ℤ)
deriving DecidableEq

/-- What a `UUID` column takes. -/
def bindUuid : Bound → Except ServiceError Uuid
  | .uuid id => .ok id
  | .int _ => .error .dataError

/-- The session: the mutations that it has changed, the events that it has flushed, and whether a
flush has failed. -/
structure Session where
  changed : List PendingMutation := []
  events : List MutationEvent := []
  deactive : Bool := false

/-- An event before its flush. -/
structure NewEvent where
  id : Uuid
  aggregateType : String
  aggregateId : Bound
  eventType : String
  payload : MutationPayload

/-- The numbers of retries fit their column. -/
def Session.Fits (session : Session) : Prop :=
  ∀ m ∈ session.changed, FitsInteger (m.retryCount.getD 0)

instance (session : Session) : Decidable session.Fits :=
  inferInstanceAs (Decidable (∀ m ∈ session.changed, _))

/-- What a flush makes of a new event; it writes what has been changed before, too. -/
def flush (session : Session) (event : NewEvent) : Except ServiceError MutationEvent :=
  if session.Fits then do
    let aggregateId ← bindUuid event.aggregateId
    return {
      id := event.id
      aggregateType := event.aggregateType
      aggregateId
      eventType := event.eventType
      payload := event.payload }
  else .error .dataError

/-- `append_event`, and the session after it. -/
def appendEvent (session : Session) (event : NewEvent) : Except ServiceError Unit × Session :=
  if session.deactive then (.error .pendingRollback, session)
  else
    match flush session event with
    | .ok row => (.ok (), { session with events := session.events ++ [row] })
    | .error e => (.error e, { changed := [], events := [], deactive := true })

/-- The result of the call. -/
structure Counts where
  accepted : ℕ
  failed : ℕ
deriving DecidableEq

/-- The loop: the session, and the counts so far. -/
structure Progress where
  session : Session := {}
  counts : Counts := ⟨0, 0⟩

/-- A mutation after a failure. -/
def PendingMutation.retried (m : PendingMutation) : PendingMutation :=
  { m with retryCount := some (m.retryCount.getD 0 + 1) }

/-- The `except` block: it reads the mutation for its message, and what a failed flush has expired
cannot be read. -/
def handleFailure (progress : Progress) (m : PendingMutation) : Except ServiceError Progress :=
  if progress.session.deactive then .error .pendingRollback
  else .ok {
    session := { progress.session with changed := progress.session.changed ++ [m.retried] }
    counts := { progress.counts with failed := progress.counts.failed + 1 } }

/-- One turn of the loop; `newId` is the identifier of its event. -/
def processMutation (now : ℤ) (newId : PendingMutation → Uuid) (progress : Progress)
    (m : PendingMutation) : Except ServiceError Progress :=
  match m.payload.value? with
  -- `json.loads` raises before `append_event` is called
  | none => handleFailure progress m
  | some data =>
    let event : NewEvent := {
      id := newId m
      aggregateType := m.entityType
      aggregateId := .int m.id
      eventType := s!"{m.entityType}.{m.operation}"
      payload := ⟨m.entityId, m.operation, data⟩ }
    match appendEvent progress.session event with
    | (.error _, session) => handleFailure { progress with session } m
    | (.ok _, session) => .ok {
        session := { session with changed := session.changed ++ [{ m with syncedAt := some now }] }
        counts := { progress.counts with accepted := progress.counts.accepted + 1 } }

/-! ### The call -/

/-- The row of a mutation after the `UPDATE` of those that have changed. -/
def rowAfter (changed : List PendingMutation) (row : PendingMutation) : PendingMutation :=
  (changed.find? fun m => m.id = row.id).getD row

theorem id_rowAfter (changed : List PendingMutation) (row : PendingMutation) :
    (rowAfter changed row).id = row.id := by
  unfold rowAfter
  cases hfind : changed.find? fun m => m.id = row.id with
  | none => rfl
  | some m => simpa using List.find?_some hfind

/-- The database after a commit. -/
def MutationDb.write (db : MutationDb) (session : Session) : MutationDb where
  mutations := db.mutations.map (rowAfter session.changed)
  outbox := db.outbox ++ session.events
  nodup := by
    rw [List.map_map]
    have hid : PendingMutation.id ∘ rowAfter session.changed = PendingMutation.id :=
      funext fun row => id_rowAfter session.changed row
    rw [hid]
    exact db.nodup

/-- `db.commit()`. -/
def commit (db : MutationDb) (session : Session) : Except ServiceError MutationDb :=
  if session.deactive then .error .pendingRollback
  else if session.Fits then .ok (db.write session)
  else .error .dataError

/-- The call on the mutations of a batch, and the database after it. -/
def processBatch (now : ℤ) (newId : PendingMutation → Uuid) (batch : List PendingMutation)
    (db : MutationDb) : Except ServiceError Counts × MutationDb :=
  match batch.foldlM (processMutation now newId) {} with
  | .error e => (.error e, db)
  | .ok progress =>
    match commit db progress.session with
    | .error e => (.error e, db)
    | .ok db' => (.ok progress.counts, db')

/-- **`process_pending_mutations`**. -/
def processPendingMutations (now : ℤ) (newId : PendingMutation → Uuid) {db : MutationDb}
    {batchSize : ℕ} (batch : Batch db batchSize) : Except ServiceError Counts × MutationDb :=
  processBatch now newId batch.mutations db

/-! ### What is promised -/

/-- The call accepts a mutation that is processed alone. -/
def AcceptedAlone (now : ℤ) (newId : PendingMutation → Uuid) (db : MutationDb)
    (m : PendingMutation) : Prop := (processBatch now newId [m] db).1 = .ok ⟨1, 0⟩

/-- **The mutations of a batch are processed independently**: some of them are accepted, and each of
the others has failed; a mutation is accepted exactly when it is alone. -/
structure Independently (now : ℤ) (newId : PendingMutation → Uuid) (db : MutationDb)
    (batch : List PendingMutation) (answer : Except ServiceError Counts) (db' : MutationDb)
    (accepted : PendingMutation → Bool) : Prop where
  counts : ∃ counts, answer = .ok counts ∧ counts.accepted = batch.countP accepted ∧
    counts.accepted + counts.failed = batch.length
  synced : ∀ m ∈ batch, accepted m = true →
    { m with syncedAt := some now } ∈ db'.mutations ∧
      ∃ event ∈ db'.outbox, event.id = newId m ∧ event.payload.entityId = m.entityId
  failed : ∀ m ∈ batch, accepted m = false → m.retried ∈ db'.mutations
  alone : ∀ m ∈ batch, accepted m = true ↔ AcceptedAlone now newId db m

/-- The text of a payload is no JSON, and the number of retries still fits its column. -/
def Refused (m : PendingMutation) : Prop :=
  m.payload.value? = none ∧ FitsInteger (m.retryCount.getD 0 + 1)

instance (m : PendingMutation) : Decidable (Refused m) := inferInstanceAs (Decidable (_ ∧ _))

variable {now : ℤ} {newId : PendingMutation → Uuid} {db : MutationDb} {progress : Progress}
  {m : PendingMutation} {batch : List PendingMutation}

/-! ### One mutation -/

/-- **The flush of an event of a mutation fails.** -/
theorem flush_int (session : Session) (event : NewEvent) {n : ℤ} (h : event.aggregateId = .int n) :
    flush session event = .error .dataError := by
  unfold flush
  rw [h]
  split_ifs <;> rfl

/-- A mutation with a payload that can be read ends the call. -/
theorem processMutation_readable (h : m.payload.value? ≠ none) :
    processMutation now newId progress m = .error .pendingRollback := by
  obtain ⟨data, hdata⟩ := Option.ne_none_iff_exists'.1 h
  unfold processMutation
  rw [hdata]
  dsimp only
  unfold appendEvent
  split_ifs with hdeactive
  · exact if_pos hdeactive
  · rw [flush_int _ _ rfl]
    rfl

/-- The loop after some mutations whose payloads are no JSON. -/
def Progress.refuse (progress : Progress) (ms : List PendingMutation) : Progress where
  session.changed := progress.session.changed ++ ms.map PendingMutation.retried
  session.events := progress.session.events
  session.deactive := progress.session.deactive
  counts.accepted := progress.counts.accepted
  counts.failed := progress.counts.failed + ms.length

@[simp] theorem Progress.refuse_nil (progress : Progress) : progress.refuse [] = progress := by
  simp [Progress.refuse]

theorem Progress.refuse_refuse (progress : Progress) (ms ms' : List PendingMutation) :
    (progress.refuse ms).refuse ms' = progress.refuse (ms ++ ms') := by
  simp [Progress.refuse, Nat.add_assoc]

/-- A mutation whose payload is no JSON is counted. -/
theorem processMutation_malformed (h : m.payload.value? = none)
    (hactive : progress.session.deactive = false) :
    processMutation now newId progress m = .ok (progress.refuse [m]) := by
  unfold processMutation
  rw [h]
  exact if_neg (by rw [hactive]; decide)

/-! ### The loop -/

/-- A batch without JSON. -/
theorem foldlM_malformed (progress : Progress) (h : ∀ m ∈ batch, m.payload.value? = none)
    (hactive : progress.session.deactive = false) :
    batch.foldlM (processMutation now newId) progress = .ok (progress.refuse batch) := by
  induction batch generalizing progress with
  | nil =>
    rw [Progress.refuse_nil]
    rfl
  | cons m batch ih =>
    obtain ⟨hm, hbatch⟩ := List.forall_mem_cons.1 h
    have hrest := ih (progress.refuse [m]) hbatch hactive
    rw [Progress.refuse_refuse] at hrest
    rw [List.foldlM_cons, processMutation_malformed hm hactive]
    exact hrest

/-- A batch with a payload that can be read. -/
theorem foldlM_readable (h : ∃ m ∈ batch, m.payload.value? ≠ none)
    (hactive : progress.session.deactive = false) :
    batch.foldlM (processMutation now newId) progress = .error .pendingRollback := by
  induction batch generalizing progress with
  | nil =>
    obtain ⟨m, hm, -⟩ := h
    cases hm
  | cons m batch ih =>
    rw [List.foldlM_cons]
    by_cases hm : m.payload.value? = none
    · rw [processMutation_malformed hm hactive]
      obtain ⟨m', hmem, hreadable⟩ := h
      rcases List.mem_cons.1 hmem with rfl | hmem
      · exact absurd hm hreadable
      · exact ih ⟨m', hmem, hreadable⟩ hactive
    · rw [processMutation_readable hm]
      rfl

/-! ### The call -/

theorem fits_retried_iff : Session.Fits { changed := batch.map PendingMutation.retried } ↔
    ∀ m ∈ batch, FitsInteger (m.retryCount.getD 0 + 1) := by
  unfold Session.Fits
  simp [PendingMutation.retried]

/-- **A batch of refused mutations** is counted, and its retries are stored. -/
theorem processBatch_refused (h : ∀ m ∈ batch, Refused m) :
    processBatch now newId batch db =
      (.ok ⟨0, batch.length⟩, db.write { changed := batch.map PendingMutation.retried }) := by
  have hfits := fits_retried_iff.2 fun m hm => (h m hm).2
  unfold processBatch
  rw [foldlM_malformed _ (fun m hm => (h m hm).1) rfl]
  simp [Progress.refuse, commit, hfits]

/-- **Any other batch** ends with an exception. -/
theorem processBatch_raises (now : ℤ) (newId : PendingMutation → Uuid) (db : MutationDb)
    (h : ¬ ∀ m ∈ batch, Refused m) : ∃ e, processBatch now newId batch db = (.error e, db) := by
  unfold processBatch
  by_cases hmalformed : ∀ m ∈ batch, m.payload.value? = none
  · have hfits : ¬ Session.Fits { changed := batch.map PendingMutation.retried } := by
      rw [fits_retried_iff]
      exact fun hfits => h fun m hm => ⟨hmalformed m hm, hfits m hm⟩
    rw [foldlM_malformed _ hmalformed rfl]
    exact ⟨.dataError, by simp [Progress.refuse, commit, hfits]⟩
  · push Not at hmalformed
    rw [foldlM_readable hmalformed rfl]
    exact ⟨_, rfl⟩

/-- The rows of a batch after the `UPDATE`. -/
theorem rowAfter_retried (hnodup : (batch.map PendingMutation.id).Nodup) (hm : m ∈ batch) :
    rowAfter (batch.map PendingMutation.retried) m = m.retried := by
  unfold rowAfter
  cases hfind : (batch.map PendingMutation.retried).find? fun row => row.id = m.id with
  | none =>
    have hnone := List.find?_eq_none.1 hfind m.retried (List.mem_map_of_mem hm)
    exact absurd (decide_eq_true rfl) hnone
  | some row =>
    obtain ⟨other, hother, rfl⟩ := List.mem_map.1 (List.mem_of_find?_eq_some hfind)
    have hid := List.find?_some hfind
    rw [decide_eq_true_eq] at hid
    replace hid : other.id = m.id := hid
    rw [List.inj_on_of_nodup_map hnodup hother hm hid]
    rfl

theorem Batch.sublist_mutations {batchSize : ℕ} (batch : Batch db batchSize) :
    ∀ m ∈ batch.mutations, m ∈ db.mutations := fun _ hm =>
  List.mem_of_mem_filter (batch.perm.subset (List.mem_of_mem_take hm))

theorem Batch.nodup_mutations {batchSize : ℕ} (batch : Batch db batchSize) :
    (batch.mutations.map PendingMutation.id).Nodup := by
  have hpending : (batch.pending.map PendingMutation.id).Nodup :=
    (batch.perm.map _).nodup_iff.2 (db.nodup.sublist (List.filter_sublist.map _))
  exact hpending.sublist ((List.take_sublist _ _).map _)

/-- **The mutations of a batch are processed independently exactly when** none of them has a payload
that can be read, and their retries fit. -/
theorem mutations_iff (now : ℤ) (newId : PendingMutation → Uuid) {batchSize : ℕ}
    (batch : Batch db batchSize) :
    (∃ accepted, Independently now newId db batch.mutations
        (processPendingMutations now newId batch).1 (processPendingMutations now newId batch).2
        accepted) ↔
      ∀ m ∈ batch.mutations, Refused m := by
  unfold processPendingMutations
  constructor
  · rintro ⟨accepted, h⟩
    by_contra hrefused
    obtain ⟨e, hraises⟩ := processBatch_raises now newId db hrefused
    obtain ⟨counts, hanswer, -⟩ := h.counts
    rw [hraises] at hanswer
    cases hanswer
  · intro h
    rw [processBatch_refused h]
    refine ⟨fun _ => false, ⟨_, rfl, by simp, Nat.zero_add _⟩, nofun, fun m hm _ => ?_,
      fun m hm => ?_⟩
    · refine List.mem_map.2 ⟨m, batch.sublist_mutations m hm, ?_⟩
      exact rowAfter_retried batch.nodup_mutations hm
    · have halone : ∀ m' ∈ [m], Refused m' := by simpa using h m hm
      unfold AcceptedAlone
      rw [processBatch_refused halone]
      simp

/-! ### Two mutations -/

/-- A mutation of an order, with a payload. -/
def orderMutation (id : ℤ) (payload : JsonText) : PendingMutation where
  id
  deviceId := "pda-001"
  entityType := "order"
  entityId := "1"
  operation := "create"
  payload
  createdAt := id

/-- A payload that is no JSON, and one that is. -/
def brokenText : JsonText := ⟨"?", none⟩

@[inherit_doc brokenText]
def emptyObject : JsonText := ⟨"\x7b\x7d", some (.object "")⟩

/-- Two mutations, the first of which is no JSON. -/
def twoMutations : MutationDb where
  mutations := [orderMutation 1 brokenText, orderMutation 2 emptyObject]
  outbox := []
  nodup := by decide

/-- Both of them are pending. -/
def twoBatch : Batch twoMutations 50 where
  pending := twoMutations.mutations
  perm := by decide
  oldest := by decide

/-- **A mutation that can be read** ends the call: nothing is accepted, and the failure of the other
one, which would be counted alone, is lost. -/
theorem twoMutations_raise :
    processPendingMutations 5 (fun _ => 9) twoBatch = (.error .pendingRollback, twoMutations) ∧
    (processBatch 5 (fun _ => 9) [orderMutation 1 brokenText] twoMutations).1 = .ok ⟨0, 1⟩ ∧
    ¬ ∃ accepted, Independently 5 (fun _ => 9) twoMutations twoBatch.mutations
      (processPendingMutations 5 (fun _ => 9) twoBatch).1
      (processPendingMutations 5 (fun _ => 9) twoBatch).2 accepted := by
  have hraises : processPendingMutations 5 (fun _ => 9) twoBatch =
      (.error .pendingRollback, twoMutations) := rfl
  refine ⟨hraises, rfl, ?_⟩
  rintro ⟨accepted, h⟩
  obtain ⟨counts, hanswer, -⟩ := h.counts
  rw [hraises] at hanswer
  cases hanswer

end Mutations

end Pda

end OmsWmsTms
