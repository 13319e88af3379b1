import OmsWmsTms.Lts.Basic
import Mathlib.Data.Int.Notation
import Mathlib.Data.Nat.Notation
import Mathlib.Logic.Function.Basic
import Mathlib.Tactic.SplitIfs

/-!
# The offline queue of the mobile app

`request`, `enqueueMutation` and `syncMutations` of `mobile/src/api/client.js`.  The calls run in
one event loop: what one of them does between two of its awaits is one step, and any other call may
run at an await.  A read or a write of the stored queue is a step of its own.

* `Mutation`, `Entry` : a call of `request`, and its entry in the stored queue.
* `Call`, `Phase` : where a call is.
* `State.next`, `clientSystem` : the runs.
* `Step` : what a step does, case by case.
-/

namespace OmsWmsTms

namespace Mobile

/-- What an app call of `request` asks for. -/
structure Mutation where
  /-- Tells the calls of `request` apart. -/
  id : ℕ
  method : String
  path : String
  body : Option String
deriving DecidableEq

/-- An entry of the stored queue. -/
structure Entry where
  mutation : Mutation
  /-- `synced_at`. -/
  syncedAt : Option ℤ := none
deriving DecidableEq

/-- What comes of a `fetch`. -/
inductive Outcome
  | networkError
  | response (status : ℕ)
deriving DecidableEq

/-- `resp.ok`. -/
def IsOk (status : ℕ) : Prop := 200 ≤ status ∧ status < 300

/-- A success or a 4xx status. -/
def IsFinal (status : ℕ) : Prop := IsOk status ∨ 400 ≤ status ∧ status < 500

instance (status : ℕ) : Decidable (IsOk status) := inferInstanceAs (Decidable (_ ∧ _))

instance (status : ℕ) : Decidable (IsFinal status) := inferInstanceAs (Decidable (_ ∨ _))

/-- Who has called `request`. -/
inductive Call
  /-- The app. -/
  | app (mutation : Mutation)
  /-- `syncMutations`, in its loop. -/
  | replay (before : List Entry) (entry : Entry) (after : List Entry)
deriving DecidableEq

/-- What is requested. -/
def Call.mutation : Call → Mutation
  | app mutation => mutation
  | replay _ entry _ => entry.mutation

/-- Where a call is. -/
inductive Phase
  | idle
  /-- `request`, at its `fetch`. -/
  | fetching (call : Call)
  /-- `enqueueMutation`, at its `getItem`. -/
  | reading (call : Call)
  /-- `enqueueMutation`, at its `setItem`. -/
  | writing (call : Call) (entries : List Entry)
  /-- `syncMutations`, at its `getItem`. -/
  | syncing
  /-- `syncMutations`, at its `setItem`. -/
  | saving (entries : List Entry)
deriving DecidableEq

/-- The loop of `syncMutations`. -/
def loop (before : List Entry) : List Entry → Phase
  | [] => .saving before
  | entry :: after => .fetching (.replay before entry after)

/-- The end of a call of `request`, and what its caller makes of the entry. -/
def Call.resume (call : Call) (mark : Entry → Entry) : Phase :=
  match call with
  | app _ => .idle
  | replay before entry after => loop (before ++ [mark entry]) after

/-- How `syncMutations` marks an entry that has been answered: an error with a status is taken for a
permanent one. -/
def Entry.answered (status : ℕ) (now : ℤ) (entry : Entry) : Entry :=
  if IsOk status ∨ status ≠ 0 then { entry with syncedAt := some now } else entry

/-- The stored queue, the calls, the mutations that the app has requested and that have been queued,
and the answers of the server. -/
structure State (T : Type) where
  stored : Option (List Entry)
  calls : T → Phase
  requested : List ℕ
  queued : List ℕ
  answers : List (ℕ × ℕ)

/-- What happens next. -/
inductive Label (T : Type)
  /-- The app calls `request`. -/
  | request (t : T) (mutation : Mutation)
  /-- The app calls `syncMutations`. -/
  | syncMutations (t : T)
  /-- A `fetch` ends. -/
  | fetch (t : T) (outcome : Outcome) (now : ℤ)
  /-- A `getItem`. -/
  | getItem (t : T)
  /-- A `setItem`. -/
  | setItem (t : T)

section System

variable {T : Type} [DecidableEq T]

/-- A call comes to another phase. -/
def State.goto (s : State T) (t : T) (phase : Phase) : State T :=
  { s with calls := Function.update s.calls t phase }

/-- **One step.** -/
def State.next (s : State T) : Label T → Option (State T)
  | .request t mutation =>
    match s.calls t with
    | .idle =>
      if mutation.id ∈ s.requested then none
      else some { s.goto t (.fetching (.app mutation)) with
        requested := s.requested ++ [mutation.id] }
    | _ => none
  | .syncMutations t =>
    match s.calls t with
    | .idle => some (s.goto t .syncing)
    | _ => none
  | .fetch t outcome now =>
    match s.calls t, outcome with
    | .fetching call, .networkError =>
      if call.mutation.method ≠ "GET" then some (s.goto t (.reading call))
      else some (s.goto t (call.resume id))
    | .fetching call, .response status =>
      some { s.goto t (call.resume (Entry.answered status now)) with
        answers := s.answers ++ [(call.mutation.id, status)] }
    | _, _ => none
  | .getItem t =>
    match s.calls t with
    | .reading call => some (s.goto t (.writing call (s.stored.getD [])))
    | .syncing =>
      match s.stored with
      | none => some (s.goto t .idle)
      | some entries => some (s.goto t (loop [] entries))
    | _ => none
  | .setItem t =>
    match s.calls t with
    | .writing call entries =>
      some { s.goto t (call.resume id) with
        stored := some (entries ++ [{ mutation := call.mutation }])
        queued := s.queued ++ [call.mutation.id] }
    | .saving entries =>
      some { s.goto t .idle with
        stored := some (entries.filter fun entry => entry.syncedAt = none) }
    | _ => none

/-- **The runs of the app.** -/
def clientSystem : Lts (State T) (Label T) := .ofNext State.next

/-! ### What a step does -/

/-- The steps, case by case. -/
inductive Step (s : State T) : Label T → State T → Prop
  | request (t : T) (mutation : Mutation) (ht : s.calls t = .idle)
    (hnew : mutation.id ∉ s.requested) :
    Step s (.request t mutation) { s.goto t (.fetching (.app mutation)) with
      requested := s.requested ++ [mutation.id] }
  | syncMutations (t : T) (ht : s.calls t = .idle) : Step s (.syncMutations t) (s.goto t .syncing)
  /-- A mutation that the network loses is queued. -/
  | lost (t : T) (now : ℤ) (call : Call) (ht : s.calls t = .fetching call)
    (hmutation : call.mutation.method ≠ "GET") :
    Step s (.fetch t .networkError now) (s.goto t (.reading call))
  /-- Any other request is not. -/
  | dropped (t : T) (now : ℤ) (call : Call) (ht : s.calls t = .fetching call)
    (hget : call.mutation.method = "GET") :
    Step s (.fetch t .networkError now) (s.goto t (call.resume id))
  | answered (t : T) (status : ℕ) (now : ℤ) (call : Call) (ht : s.calls t = .fetching call) :
    Step s (.fetch t (.response status) now)
      { s.goto t (call.resume (Entry.answered status now)) with
      answers := s.answers ++ [(call.mutation.id, status)] }
  /-- `enqueueMutation` reads the queue. -/
  | read (t : T) (call : Call) (ht : s.calls t = .reading call) :
    Step s (.getItem t) (s.goto t (.writing call (s.stored.getD [])))
  /-- `syncMutations` finds no queue. -/
  | none (t : T) (ht : s.calls t = .syncing) (hstored : s.stored = none) :
    Step s (.getItem t) (s.goto t .idle)
  /-- `syncMutations` reads the queue. -/
  | load (t : T) (entries : List Entry) (ht : s.calls t = .syncing)
    (hstored : s.stored = some entries) : Step s (.getItem t) (s.goto t (loop [] entries))
  /-- `enqueueMutation` writes the queue. -/
  | write (t : T) (call : Call) (entries : List Entry) (ht : s.calls t = .writing call entries) :
    Step s (.setItem t) { s.goto t (call.resume id) with
      stored := some (entries ++ [{ mutation := call.mutation }])
      queued := s.queued ++ [call.mutation.id] }
  /-- `syncMutations` writes the queue. -/
  | save (t : T) (entries : List Entry) (ht : s.calls t = .saving entries) :
    Step s (.setItem t) { s.goto t .idle with
      stored := some (entries.filter fun entry => entry.syncedAt = Option.none) }

theorem step_of_next {s s' : State T} {label : Label T} (h : clientSystem.step s label s') :
    Step s label s' := by
  replace h : s.next label = some s' := h
  cases label with
  | request t mutation =>
    simp only [State.next] at h
    split at h
    · rename_i ht
      split_ifs at h with hnew
      cases h
      exact .request t mutation ht hnew
    · cases h
  | syncMutations t =>
    simp only [State.next] at h
    split at h
    · rename_i ht
      cases h
      exact .syncMutations t ht
    · cases h
  | fetch t outcome now =>
    simp only [State.next] at h
    split at h
    · rename_i call ht
      split_ifs at h with hmutation
      · cases h
        exact .lost t now call ht hmutation
      · cases h
        exact .dropped t now call ht (not_not.1 hmutation)
    · rename_i call status ht
      cases h
      exact .answered t status now call ht
    · cases h
  | getItem t =>
    simp only [State.next] at h
    split at h
    · rename_i call ht
      cases h
      exact .read t call ht
    · rename_i ht
      split at h
      · rename_i hstored
        cases h
        exact .none t ht hstored
      · rename_i entries hstored
        cases h
        exact .load t entries ht hstored
    · cases h
  | setItem t =>
    simp only [State.next] at h
    split at h
    · rename_i call entries ht
      cases h
      exact .write t call entries ht
    · rename_i entries ht
      cases h
      exact .save t entries ht
    · cases h

end System

end Mobile

end OmsWmsTms
