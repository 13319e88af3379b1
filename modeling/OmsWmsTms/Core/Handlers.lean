import OmsWmsTms.Control.Except
import OmsWmsTms.Core.Errors
import OmsWmsTms.Core.Ids
import OmsWmsTms.Uow.Program

/-!
# What request handlers share

* `RequestError` : what a handler raises.
* `IdArg.parse`, `scalarOneOrNone` : `uuid.UUID` and `Result.scalar_one_or_none`.
* `storeText?`, `storeChanged` : what columns keep of the texts that a handler sends.
* `changed` : the columns of an `UPDATE`.
* `Prog.refresh` : `AsyncSession.refresh`.
-/

namespace OmsWmsTms

/-- What a request handler raises. -/
inductive RequestError
  | service (e : ServiceError)
  /-- `InvalidRequestError`: the row of a `refresh` is gone. -/
  | invalidRequest
deriving DecidableEq

/-- `NotFoundException`. -/
def RequestError.notFound (message : String) : RequestError := .service (.notFound message)

/-- `ValidationException`. -/
def RequestError.validation (message : String) : RequestError := .service (.validation message none)

/-- The text of an identifier, as an argument. -/
def IdArg.ofUuid (id : Uuid) : IdArg := ⟨Uuid.text id, some id⟩

/-- `uuid.UUID`. -/
def IdArg.parse (arg : IdArg) : Except RequestError Uuid :=
  match arg.uuid? with
  | some id => .ok id
  | none => .error (.service .valueError)

/-- `uuid.UUID(arg) if arg else None`. -/
def IdArg.parse? : Option IdArg → Except RequestError (Option Uuid)
  | none => .ok none
  | some arg => Except.map some arg.parse

theorem IdArg.isSome_of_parse? {arg : Option IdArg} {id : Option Uuid}
    (h : IdArg.parse? arg = .ok id) : id.isSome = arg.isSome := by
  cases arg with
  | none =>
    cases h
    rfl
  | some arg =>
    obtain ⟨id, -, rfl⟩ := map_eq_ok_iff.1 h
    rfl

/-- A unique index or a foreign key. -/
def constraint (holds : Prop) [Decidable holds] : Except ServiceError Unit :=
  if holds then .ok () else .error .integrityError

theorem constraint_eq_ok_iff {holds : Prop} [Decidable holds] {u : Unit} :
    constraint holds = .ok u ↔ holds := by
  unfold constraint
  split_ifs with h <;> simp [h]

/-- What a `String(limit)` column keeps of a text, or of none, that a handler sends.  Whether it fits
is the same for all rows, so that handlers ask for it before they commit. -/
def storeText? (limit : ℕ) : Option String → Except RequestError (Option String)
  | none => .ok none
  | some text => ((storeText limit text).mapError .service).map some

/-- What it keeps of what an `UPDATE` sets it to. -/
def storeChanged (limit : ℕ) :
    Option (Option String) → Except RequestError (Option (Option String))
  | none => .ok none
  | some value => (storeText? limit value).map some

/-- `given or loaded`. -/
def orLoaded (given loaded : Option String) : Option String :=
  match given with
  | none | some "" => loaded
  | some text => some text

/-- `scalar_one_or_none`. -/
def scalarOneOrNone {α : Type} : List α → Except RequestError (Option α)
  | [] => .ok none
  | [a] => .ok (some a)
  | _ => .error (.service .multipleResults)

/-- The row that is there is one of the rows. -/
theorem mem_of_scalarOneOrNone {α : Type} {rows : List α} {row : α}
    (h : scalarOneOrNone rows = .ok (some row)) : rows = [row] := by
  match rows with
  | [] => cases h
  | [a] =>
    cases h
    rfl
  | _ :: _ :: _ => cases h

theorem scalarOneOrNone_eq_none {α : Type} {rows : List α} (h : scalarOneOrNone rows = .ok none) :
    rows = [] := by
  match rows with
  | [] => rfl
  | [a] => cases h
  | _ :: _ :: _ => cases h

/-- What an `UPDATE` sets a column to: nothing, when the new value is the one that was loaded. -/
def changed {α : Type} [DecidableEq α] (loaded new : α) : Option α :=
  if new = loaded then none else some new

theorem of_ite_eq_some {α : Type} {c : Prop} [Decidable c] {a b : α}
    (h : (if c then some a else none) = some b) : c ∧ a = b := by
  split_ifs at h with hc
  exact ⟨hc, Option.some.inj h⟩

/-- `AsyncSession.refresh`: read the row again. -/
def Uow.Prog.refresh {D W A α : Type} (find : D → Option α)
    (next : α → Uow.Prog D W RequestError A) : Uow.Prog D W RequestError A :=
  .read fun d =>
    match find d with
    | some row => next row
    | none => .throw .invalidRequest

end OmsWmsTms
