import OmsWmsTms.Connectors.Idoc
import OmsWmsTms.Core.Errors
import OmsWmsTms.Data.Json
import OmsWmsTms.Data.JsonText
import OmsWmsTms.Lts.Basic

/-!
# The dead letter queue

`DeadLetterQueue` of `src/models/erp_connector.py`.  A message is stored as the JSON text of its
dump, and the dump has the time at which the message was made as a `datetime`, for which
`json.dumps` raises a `TypeError`.

* `PyObject`, `dumps` : values with times, and `json.dumps` on them.
* `modelDump` : the dump of a message; `dumps_modelDump` : it has no text.
* `enqueue`, `retry` : the two methods.
* `dlqSystem` : calls of them, with the answers of the retries so far.
* `Keeps`, `Once` : what is promised of a call, and of the retries of a run.
* `deadLetters_iff` : when every call of a run does what is promised.
-/

namespace OmsWmsTms

namespace Connectors

namespace DeadLetters

/-! ### `json.dumps` -/

/-- A value that `model_dump` returns. -/
inductive PyObject
  | none
  | bool (b : Bool)
  | int (n : ℤ)
  | float (repr : String)
  | str (s : String)
  | datetime (time : ℤ)
  | list (items : List PyObject)
  | dict (members : List (String × PyObject))

mutual

/-- JSON data as a value. -/
def ofJson : Json → PyObject
  | .null => .none
  | .bool b => .bool b
  | .int n => .int n
  | .float repr _ => .float repr
  | .str s => .str s
  | .list items => .list (ofJsonItems items)
  | .dict members => .dict (ofJsonMembers members)

/-- The items of a list. -/
def ofJsonItems : List Json → List PyObject
  | [] => []
  | item :: items => ofJson item :: ofJsonItems items

/-- The members of an object. -/
def ofJsonMembers : List (String × Json) → List (String × PyObject)
  | [] => []
  | (name, value) :: members => (name, ofJson value) :: ofJsonMembers members

end

/-- The text of a string. -/
def strText (s : String) : List Char := JsonText.dumpString (PyStr.ofString s)

/-- The text of a float. -/
def floatText (repr : String) : List Char :=
  if repr = "nan" then "NaN".toList
  else if repr = "inf" then "Infinity".toList
  else if repr = "-inf" then "-Infinity".toList
  else repr.toList

mutual

/-- `json.dumps(value)`. -/
def dumps : PyObject → Except ServiceError (List Char)
  | .none => .ok "null".toList
  | .bool true => .ok "true".toList
  | .bool false => .ok "false".toList
  | .int n => (JsonText.intText n).mapError fun _ => .valueError
  | .float repr => .ok (floatText repr)
  | .str s => .ok (strText s)
  | .datetime _ => .error .typeError
  | .list items => do
    let texts ← dumpsItems items
    return '[' :: (", ".toList).intercalate texts ++ [']']
  | .dict members => do
    let texts ← dumpsMembers members
    return '{' :: (", ".toList).intercalate texts ++ ['}']

/-- The texts of the items of a list. -/
def dumpsItems : List PyObject → Except ServiceError (List (List Char))
  | [] => .ok []
  | item :: items => do
    let text ← dumps item
    let texts ← dumpsItems items
    return text :: texts

/-- The texts of the members of a dictionary. -/
def dumpsMembers : List (String × PyObject) → Except ServiceError (List (List Char))
  | [] => .ok []
  | (name, value) :: members => do
    let text ← dumps value
    let texts ← dumpsMembers members
    return (strText name ++ ": ".toList ++ text) :: texts

end

example : dumps (.dict [("id", .str "A\"1"), ("lines", .list [.int (-2), .none])]) =
    .ok "\x7b\"id\": \"A\\\"1\", \"lines\": [-2, null]\x7d".toList := by decide +kernel

/-! ### The queue -/

/-- `ERPMessage`, whose payload is the members of a JSON object. -/
abbrev ErpMessage := Message (List (String × Json))

/-- `msg.model_dump()`. -/
def modelDump (msg : ErpMessage) : PyObject :=
  .dict [("msg_type", .str msg.msgType.value), ("sender_id", .str msg.senderId),
    ("receiver_id", .str msg.receiverId), ("created_at", .datetime msg.createdAt),
    ("payload", .dict (ofJsonMembers msg.payload))]

/-- `DLQEntry`. -/
structure DlqEntry where
  id : String
  msgType : MessageType
  errorCode : String
  rawMessage : String
  resolved : Bool := false
  resolvedAt : Option ℤ := none
  createdAt : ℤ
deriving DecidableEq

/-- An entry after a retry. -/
def DlqEntry.resolve (now : ℤ) (entry : DlqEntry) : DlqEntry :=
  { entry with resolved := true, resolvedAt := some now }

/-- `enqueue`, with the new identifier and the time. -/
def enqueue (id : String) (now : ℤ) (msg : ErpMessage) (errorCode : String)
    (entries : List DlqEntry) : Except ServiceError DlqEntry × List DlqEntry :=
  match dumps (modelDump msg) with
  | .error e => (.error e, entries)
  | .ok rawMessage =>
    let entry : DlqEntry := {
      id
      msgType := msg.msgType
      errorCode
      rawMessage := String.ofList rawMessage
      createdAt := now }
    (.ok entry, entries ++ [entry])

/-- `retry`. -/
def retry (dlqId : String) (now : ℤ) : List DlqEntry → Bool × List DlqEntry
  | [] => (false, [])
  | entry :: entries =>
    if entry.id = dlqId ∧ entry.resolved = false then (true, entry.resolve now :: entries)
    else ((retry dlqId now entries).1, entry :: (retry dlqId now entries).2)

/-! ### Runs -/

/-- A call. -/
inductive Call
  | enqueue (id : String) (now : ℤ) (msg : ErpMessage) (errorCode : String)
  | retry (dlqId : String) (now : ℤ)

/-- The entries, and the answers of the retries so far. -/
structure State where
  entries : List DlqEntry
  answers : List (String × Bool)

/-- A call. -/
def State.next (s : State) : Call → State
  | .enqueue id now msg errorCode => { s with
      entries := (DeadLetters.enqueue id now msg errorCode s.entries).2 }
  | .retry dlqId now => {
      entries := (DeadLetters.retry dlqId now s.entries).2
      answers := s.answers ++ [(dlqId, (DeadLetters.retry dlqId now s.entries).1)] }

/-- **The calls**, one after another. -/
def dlqSystem : Lts State Call where
  step s call s' := s' = s.next call

/-! ### What is promised -/

/-- A retry answers true and resolves one entry that was not resolved, or it answers false and there
was none. -/
inductive Retried (dlqId : String) (now : ℤ) : List DlqEntry → List DlqEntry → Bool → Prop
  | resolved (front : List DlqEntry) (entry : DlqEntry) (back : List DlqEntry)
      (hid : entry.id = dlqId) (hopen : entry.resolved = false) :
      Retried dlqId now (front ++ entry :: back) (front ++ entry.resolve now :: back) true
  | nothing {entries : List DlqEntry}
      (h : ∀ entry ∈ entries, entry.id = dlqId → entry.resolved = true) :
      Retried dlqId now entries entries false

/-- **A call keeps what has failed**: an `enqueue` succeeds and adds an entry that is not resolved and
whose text decodes to the message; a `retry` resolves an entry, or nothing. -/
def Keeps (decodes : String → ErpMessage → Prop) (s : State) (call : Call) (s' : State) : Prop :=
  match call with
  | .enqueue id now msg errorCode =>
    ∃ entry, (DeadLetters.enqueue id now msg errorCode s.entries).1 = .ok entry ∧
      s'.entries = s.entries ++ [entry] ∧ entry.resolved = false ∧ decodes entry.rawMessage msg
  | .retry dlqId now =>
    Retried dlqId now s.entries s'.entries (DeadLetters.retry dlqId now s.entries).1

/-- **A retry answers true once for each entry**: of the answers so far, one for an entry that is
resolved, and none for one that is not. -/
structure Once (s : State) : Prop where
  nodup : (s.entries.map DlqEntry.id).Nodup
  counted : ∀ entry ∈ s.entries,
    s.answers.count (entry.id, true) = if entry.resolved then 1 else 0

/-- The call is a retry. -/
def IsRetry (_ : State) : Call → Prop
  | .enqueue _ _ _ _ => False
  | .retry _ _ => True

variable {s s' : State} {call : Call} {entries : List DlqEntry}

/-! ### Calls -/

/-- **A message has no text.** -/
theorem dumps_modelDump (msg : ErpMessage) : dumps (modelDump msg) = .error .typeError := by
  simp only [modelDump, dumps, dumpsMembers]
  rfl

theorem enqueue_raises (id : String) (now : ℤ) (msg : ErpMessage) (errorCode : String) :
    enqueue id now msg errorCode entries = (.error .typeError, entries) := by
  rw [enqueue, dumps_modelDump]

theorem retried_retry (dlqId : String) (now : ℤ) (entries : List DlqEntry) :
    Retried dlqId now entries (retry dlqId now entries).2 (retry dlqId now entries).1 := by
  induction entries with
  | nil => exact .nothing nofun
  | cons entry entries ih =>
    unfold retry
    split_ifs with hentry
    · exact .resolved [] entry entries hentry.1 hentry.2
    · dsimp only
      generalize (retry dlqId now entries).1 = answer at ih ⊢
      generalize (retry dlqId now entries).2 = entries' at ih ⊢
      cases ih with
      | resolved front found back hid hopen =>
        exact .resolved (entry :: front) found back hid hopen
      | nothing hnone =>
        refine .nothing (List.forall_mem_cons.2 ⟨fun hid => ?_, hnone⟩)
        exact Bool.eq_true_of_not_eq_false fun hopen => hentry ⟨hid, hopen⟩

/-- **A call does what is promised exactly when** it is a retry. -/
theorem keeps_iff (decodes : String → ErpMessage → Prop) (hstep : dlqSystem.step s call s') :
    Keeps decodes s call s' ↔ IsRetry s call := by
  cases call with
  | enqueue id now msg errorCode =>
    refine iff_of_false ?_ fun h => h
    rintro ⟨entry, hentry, -⟩
    rw [enqueue_raises] at hentry
    cases hentry
  | retry dlqId now =>
    refine iff_of_true ?_ trivial
    rw [hstep]
    exact retried_retry dlqId now s.entries

/-! ### Answers -/

theorem count_append_ne (answers : List (String × Bool)) {dlqId id : String} (h : id ≠ dlqId) :
    (answers ++ [(dlqId, true)]).count (id, true) = answers.count (id, true) := by
  simp [Ne.symm h]

theorem eq_or_mem_of_mem_middle {α : Type*} {a b : α} {front back : List α}
    (h : a ∈ front ++ b :: back) : a = b ∨ a ∈ front ++ back := by
  simpa [or_left_comm] using h

theorem mem_middle_of_mem_rest {α : Type*} {a b : α} {front back : List α}
    (h : a ∈ front ++ back) : a ∈ front ++ b :: back :=
  List.Sublist.subset (List.Sublist.append_left (List.sublist_cons_self b back) front) h

/-- The other entries have other identifiers. -/
theorem id_ne_of_mem_rest {front back : List DlqEntry} {entry other : DlqEntry}
    (hnodup : ((front ++ entry :: back).map DlqEntry.id).Nodup) (h : other ∈ front ++ back) :
    other.id ≠ entry.id := by
  rw [List.map_append, List.map_cons, List.nodup_middle, List.nodup_cons, ← List.map_append]
    at hnodup
  exact fun heq => hnodup.1 (heq ▸ List.mem_map_of_mem h)

theorem count_append_false (answers : List (String × Bool)) (dlqId id : String) :
    (answers ++ [(dlqId, false)]).count (id, true) = answers.count (id, true) := by
  simp

section Once

variable {front back : List DlqEntry} {entry : DlqEntry} {answers : List (String × Bool)}

/-- An entry that is resolved gets its answer. -/
theorem Once.resolve (now : ℤ) (h : Once ⟨front ++ entry :: back, answers⟩)
    (hopen : entry.resolved = false) :
    Once ⟨front ++ entry.resolve now :: back, answers ++ [(entry.id, true)]⟩ := by
  have hids : (front ++ entry.resolve now :: back).map DlqEntry.id =
      (front ++ entry :: back).map DlqEntry.id := by
    rw [List.map_append, List.map_append, List.map_cons, List.map_cons]
    rfl
  refine ⟨by rw [hids]; exact h.nodup, fun other hother => ?_⟩
  have hentry := h.counted entry (List.mem_append_right _ List.mem_cons_self)
  rw [if_neg (by rw [hopen]; decide)] at hentry
  dsimp only at hentry ⊢
  rcases eq_or_mem_of_mem_middle hother with rfl | hrest
  · -- the entry that is resolved now had no answer before
    rw [List.count_append]
    change _ + List.count (entry.id, true) [(entry.id, true)] = 1
    rw [List.count_singleton_self]
    exact congrArg (· + 1) hentry
  · have hne := id_ne_of_mem_rest h.nodup hrest
    rw [count_append_ne answers hne]
    exact h.counted other (mem_middle_of_mem_rest hrest)

theorem Once.append_false {entries : List DlqEntry} (h : Once ⟨entries, answers⟩)
    (dlqId : String) : Once ⟨entries, answers ++ [(dlqId, false)]⟩ := by
  refine ⟨h.nodup, fun entry hentry => ?_⟩
  dsimp only
  rw [count_append_false]
  exact h.counted entry hentry

end Once

/-- A call keeps the answers right. -/
theorem Once.next (h : Once s) (hstep : dlqSystem.step s call s') : Once s' := by
  rw [hstep]
  cases call with
  | enqueue id now msg errorCode =>
    unfold State.next
    dsimp only
    rw [enqueue_raises]
    exact h
  | retry dlqId now =>
    have hretried := retried_retry dlqId now s.entries
    obtain ⟨entries, answers⟩ := s
    unfold State.next
    dsimp only at *
    generalize (retry dlqId now entries).1 = answer at hretried ⊢
    generalize (retry dlqId now entries).2 = entries' at hretried ⊢
    cases hretried with
    | resolved front entry back hid hopen =>
      subst hid
      exact h.resolve now hopen
    | nothing hnone => exact h.append_false dlqId

/-! ### The law -/

/-- **Every call of a run does what is promised exactly when** all of them are retries; and in every
run a retry answers true once for each entry. -/
theorem deadLetters_iff (decodes : String → ErpMessage → Prop) (hs : Once s) (calls : List Call)
    (s' : State) :
    ((dlqSystem.restrict (Keeps decodes)).Run s calls s' ↔ (dlqSystem.guard IsRetry).Run s calls s') ∧
      (dlqSystem.Run s calls s' → Once s') := by
  have hsystem : dlqSystem.restrict (Keeps decodes) = dlqSystem.guard IsRetry :=
    Lts.restrict_eq_guard fun s call s' hstep => keeps_iff decodes hstep
  constructor
  · rw [hsystem]
  · intro hrun
    exact hrun.invariant hs fun _ _ _ h hstep => h.next hstep

/-! ### An order -/

/-- An entry for an order. -/
def orderEntry (resolved : Bool) : DlqEntry :=
  ⟨"1", .orders, "EDI_PARSE_ERROR", "\x7b\x7d", resolved, if resolved then some 5 else none, 0⟩

/-- **An entry that is retried twice** is resolved once. -/
theorem orderEntry_retried :
    (dlqSystem.restrict (Keeps fun _ _ => True)).Run ⟨[orderEntry false], []⟩
        [.retry "1" 5, .retry "1" 6] ⟨[orderEntry true], [("1", true), ("1", false)]⟩ ∧
      Once ⟨[orderEntry true], [("1", true), ("1", false)]⟩ := by
  have hstart : Once ⟨[orderEntry false], []⟩ := ⟨by decide +kernel, by decide +kernel⟩
  have hrun : (dlqSystem.guard IsRetry).Run ⟨[orderEntry false], []⟩
      [.retry "1" 5, .retry "1" 6] ⟨[orderEntry true], [("1", true), ("1", false)]⟩ :=
    .cons ⟨rfl, trivial⟩ (.single ⟨rfl, trivial⟩)
  have hlaw := deadLetters_iff (fun _ _ => True) hstart [.retry "1" 5, .retry "1" 6]
    ⟨[orderEntry true], [("1", true), ("1", false)]⟩
  exact ⟨hlaw.1.2 hrun, hlaw.2 hrun.of_guard⟩

/-- An order that could not be read. -/
def failedOrder : ErpMessage := ⟨.orders, "SAP", "WMS", 0, [("order_id", .str "ORD-001")]⟩

/-- **A failed order is not recorded**: the call raises, and the queue stays empty. -/
theorem failedOrder_not_recorded :
    enqueue "1" 5 failedOrder "EDI_PARSE_ERROR" [] = (.error .typeError, []) ∧
    ¬ ∃ s, (dlqSystem.restrict (Keeps fun _ _ => True)).Run ⟨[], []⟩
      [.enqueue "1" 5 failedOrder "EDI_PARSE_ERROR"] s := by
  refine ⟨enqueue_raises _ _ _ _, ?_⟩
  rintro ⟨s, hrun⟩
  cases hrun with
  | cons hstep _ => exact (keeps_iff _ hstep.1).1 hstep.2

end DeadLetters

end Connectors

end OmsWmsTms
