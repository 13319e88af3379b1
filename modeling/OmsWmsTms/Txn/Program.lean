import OmsWmsTms.Txn.Table

/-!
# Transaction programs

A service that talks to the database is a tree of statements.  A statement reads the latest
committed rows under the transaction's own writes; `commit` publishes the writes, `rollback` drops
them, and a program that raises an exception has its writes dropped by the session.

* `Prog K R E A` : programs over rows `R` with keys `K`, which raise `E` or return `A`.
* `Prog.exec` : what a program does when it runs alone, from a stream of new identifiers.
* `exec_bind` : running programs one after another.
-/

namespace OmsWmsTms

namespace Txn

/-- Transaction programs.  The `Bool` that `update`, `insert` and `commit` pass on says whether a
row was changed, whether the key was free, and whether the commit succeeded. -/
inductive Prog (K R E A : Type)
  /-- Return a value. -/
  | ret (a : A)
  /-- Raise an exception. -/
  | throw (e : E)
  /-- Make a new identifier. -/
  | fresh (next : ℕ → Prog K R E A)
  /-- `SELECT`: the rows that match a query. -/
  | select (query : Query K R) (next : List (K × R) → Prog K R E A)
  /-- `UPDATE` of the row with a primary key, if it exists and meets the guard. -/
  | update (key : K) (guard : R → Bool) (change : R → R) (next : Bool → Prog K R E A)
  /-- `INSERT` of a row, if its primary key is free. -/
  | insert (key : K) (row : R) (next : Bool → Prog K R E A)
  /-- `COMMIT`. -/
  | commit (next : Bool → Prog K R E A)
  /-- `ROLLBACK`. -/
  | rollback (next : Prog K R E A)

namespace Prog

variable {K R E A B : Type}

/-- Run a program, and another one on its value. -/
def bind (p : Prog K R E A) (f : A → Prog K R E B) : Prog K R E B :=
  match p with
  | ret a => f a
  | throw e => throw e
  | fresh next => fresh fun n => (next n).bind f
  | select query next => select query fun rows => (next rows).bind f
  | update key guard change next => update key guard change fun hit => (next hit).bind f
  | insert key row next => insert key row fun ok => (next ok).bind f
  | commit next => commit fun ok => (next ok).bind f
  | rollback next => rollback (next.bind f)

instance : Monad (Prog K R E) where
  pure := ret
  bind := bind

/-- Change the value of a program. -/
def map (f : A → B) (p : Prog K R E A) : Prog K R E B := p.bind fun a => ret (f a)

/-- A program with other exceptions. -/
def mapError {E' : Type} (f : E → E') : Prog K R E A → Prog K R E' A
  | ret a => ret a
  | throw e => throw (f e)
  | fresh next => fresh fun n => (next n).mapError f
  | select query next => select query fun rows => (next rows).mapError f
  | update key guard change next => update key guard change fun hit => (next hit).mapError f
  | insert key row next => insert key row fun free => (next free).mapError f
  | commit next => commit fun done => (next done).mapError f
  | rollback next => rollback (next.mapError f)

/-- Run a program for each element of a list, in order. -/
def forEach {α : Type} (l : List α) (f : α → Prog K R E Unit) : Prog K R E Unit :=
  match l with
  | [] => ret ()
  | a :: l => (f a).bind fun _ => forEach l f

/-- Run a program for each element of a list, in order, passing a value along. -/
def foldEach {α σ : Type} (l : List α) (s : σ) (f : σ → α → Prog K R E σ) : Prog K R E σ :=
  match l with
  | [] => ret s
  | a :: l => (f s a).bind fun s => foldEach l s f

/-- `for i in range(i, i + left + 1)` with a `break`: `f i`, `f (i + 1)` and so on, until one of
them breaks with `Sum.inr`; the last one ends the loop in any case. -/
def attempts (f : ℕ → Prog K R E (A ⊕ A)) (i left : ℕ) : Prog K R E A :=
  match left with
  | 0 => (f i).bind fun answer => ret (answer.elim id id)
  | left + 1 => (f i).bind fun answer => answer.elim (fun _ => attempts f (i + 1) left) ret

@[simp] theorem pure_eq (a : A) : (pure a : Prog K R E A) = ret a := rfl

@[simp] theorem bind_eq (p : Prog K R E A) (f : A → Prog K R E B) : p >>= f = p.bind f := rfl

@[simp] theorem ret_bind (a : A) (f : A → Prog K R E B) : (ret a : Prog K R E A).bind f = f a := rfl

@[simp] theorem bind_ret (p : Prog K R E A) : p.bind ret = p := by
  induction p with
  | ret a => rfl
  | throw e => rfl
  | fresh next ih => exact congrArg fresh (funext ih)
  | select query next ih => exact congrArg (select query) (funext ih)
  | update key guard change next ih => exact congrArg (update key guard change) (funext ih)
  | insert key row next ih => exact congrArg (insert key row) (funext ih)
  | commit next ih => exact congrArg commit (funext ih)
  | rollback next ih => exact congrArg rollback ih

theorem bind_assoc {C : Type} (p : Prog K R E A) (f : A → Prog K R E B) (g : B → Prog K R E C) :
    (p.bind f).bind g = p.bind fun a => (f a).bind g := by
  induction p with
  | ret a => rfl
  | throw e => rfl
  | fresh next ih => exact congrArg fresh (funext ih)
  | select query next ih => exact congrArg (select query) (funext ih)
  | update key guard change next ih => exact congrArg (update key guard change) (funext ih)
  | insert key row next ih => exact congrArg (insert key row) (funext ih)
  | commit next ih => exact congrArg commit (funext ih)
  | rollback next ih => exact congrArg rollback ih

/-! ### Statements -/

/-- A new identifier. -/
def newId : Prog K R E ℕ := fresh ret

/-- The rows that match a query. -/
def query (q : Query K R) : Prog K R E (List (K × R)) := select q ret

/-- Commit; whether it succeeded. -/
def tryCommit : Prog K R E Bool := commit ret

/-- Commit, or raise. -/
def commitOr (e : E) : Prog K R E Unit := commit fun ok => if ok then ret () else throw e

/-- `UPDATE` of a row by its primary key, as a flush issues it; it raises when the row is gone. -/
def updateOr (e : E) (key : K) (change : R → R) : Prog K R E Unit :=
  update key (fun _ => true) change fun hit => if hit then ret () else throw e

/-- `INSERT` of a row; it raises when the key is taken. -/
def insertOr (e : E) (key : K) (row : R) : Prog K R E Unit :=
  insert key row fun ok => if ok then ret () else throw e

/-- `INSERT` of rows, one after another; whether their keys were free. -/
def insertAll : List (K × R) → Prog K R E Bool
  | [] => ret true
  | (key, row) :: rest => insert key row fun free => if free then insertAll rest else ret false

/-- The value of a computation without statements, or its exception. -/
def ofExcept : Except E A → Prog K R E A
  | .ok a => ret a
  | .error e => throw e

/-! ### Running alone -/

end Prog

/-- The session of a program that runs alone. -/
structure Session (K R : Type) where
  /-- The committed rows. -/
  committed : Dict K R
  /-- The rows as the transaction sees them. -/
  working : Dict K R
  /-- The identifiers that will be made. -/
  ids : ℕ → ℕ

namespace Prog

variable {K R E A B : Type} [DecidableEq K]

/-- What a program does when it runs alone. -/
def exec (p : Prog K R E A) (s : Session K R) : Except E A × Session K R :=
  match p with
  | ret a => (.ok a, s)
  | throw e => (.error e, s)
  | fresh next => (next (s.ids 0)).exec { s with ids := fun n => s.ids (n + 1) }
  | select query next => (next (Txn.select query s.working)).exec s
  | update key guard change next =>
    match s.working.get? key with
    | none => (next false).exec s
    | some row =>
      if guard row then (next true).exec { s with working := s.working.set key (change row) }
      else (next false).exec s
  | insert key row next =>
    match s.working.get? key with
    | none => (next true).exec { s with working := s.working.set key row }
    | some _ => (next false).exec s
  | commit next => (next true).exec { s with committed := s.working }
  | rollback next => next.exec { s with working := s.committed }

/-- A service call on a database: its answer and the rows committed. -/
def run (p : Prog K R E A) (ids : ℕ → ℕ) (d : Dict K R) : Except E A × Dict K R :=
  let (answer, s) := p.exec ⟨d, d, ids⟩
  (answer, s.committed)

section Exec

variable (s : Session K R)

@[simp] theorem exec_ret (a : A) : (ret a : Prog K R E A).exec s = (.ok a, s) := rfl

@[simp] theorem exec_throw (e : E) : (throw e : Prog K R E A).exec s = (.error e, s) := rfl

@[simp] theorem exec_fresh (next : ℕ → Prog K R E A) :
    (fresh next).exec s = (next (s.ids 0)).exec { s with ids := fun n => s.ids (n + 1) } := rfl

@[simp] theorem exec_select (query : Query K R) (next : List (K × R) → Prog K R E A) :
    (select query next).exec s = (next (Txn.select query s.working)).exec s := rfl

@[simp] theorem exec_commit (next : Bool → Prog K R E A) :
    (commit next).exec s = (next true).exec { s with committed := s.working } := rfl

@[simp] theorem exec_rollback (next : Prog K R E A) :
    (rollback next).exec s = next.exec { s with working := s.committed } := rfl

variable {s}

theorem exec_update_none {key : K} {guard : R → Bool} {change : R → R}
    {next : Bool → Prog K R E A} (h : s.working.get? key = none) :
    (update key guard change next).exec s = (next false).exec s := by
  simp only [exec, h]

theorem exec_update_some {key : K} {guard : R → Bool} {change : R → R}
    {next : Bool → Prog K R E A} {row : R} (h : s.working.get? key = some row) :
    (update key guard change next).exec s =
      if guard row then (next true).exec { s with working := s.working.set key (change row) }
      else (next false).exec s := by
  simp only [exec, h]

theorem exec_insert_none {key : K} {row : R} {next : Bool → Prog K R E A}
    (h : s.working.get? key = none) :
    (insert key row next).exec s =
      (next true).exec { s with working := s.working.set key row } := by
  simp only [exec, h]

theorem exec_insert_some {key : K} {row row' : R} {next : Bool → Prog K R E A}
    (h : s.working.get? key = some row') :
    (insert key row next).exec s = (next false).exec s := by
  simp only [exec, h]

/-- **Running one program after another.** -/
theorem exec_bind (p : Prog K R E A) (f : A → Prog K R E B) (s : Session K R) :
    (p.bind f).exec s =
      match p.exec s with
      | (.ok a, s') => (f a).exec s'
      | (.error e, s') => (.error e, s') := by
  induction p generalizing s with
  | ret a => rfl
  | throw e => rfl
  | fresh next ih => exact ih _ _
  | select query next ih => exact ih _ _
  | update key guard change next ih =>
    cases h : s.working.get? key with
    | none =>
      rw [bind, exec_update_none h, exec_update_none h]
      exact ih _ _
    | some row =>
      rw [bind, exec_update_some h, exec_update_some h]
      split
      · exact ih _ _
      · exact ih _ _
  | insert key row next ih =>
    cases h : s.working.get? key with
    | none =>
      rw [bind, exec_insert_none h, exec_insert_none h]
      exact ih _ _
    | some row' =>
      rw [bind, exec_insert_some h, exec_insert_some h]
      exact ih _ _
  | commit next ih => exact ih _ _
  | rollback next ih => exact ih _

theorem exec_bind_of_ok {p : Prog K R E A} {f : A → Prog K R E B} {s s' : Session K R} {a : A}
    (h : p.exec s = (.ok a, s')) : (p.bind f).exec s = (f a).exec s' := by
  rw [exec_bind, h]

theorem exec_bind_of_error {p : Prog K R E A} {f : A → Prog K R E B} {s s' : Session K R} {e : E}
    (h : p.exec s = (.error e, s')) : (p.bind f).exec s = (.error e, s') := by
  rw [exec_bind, h]

/-- A program with another value. -/
theorem exec_map (f : A → B) (p : Prog K R E A) (s : Session K R) :
    (p.map f).exec s = ((p.exec s).1.map f, (p.exec s).2) := by
  rw [map, exec_bind]
  cases p.exec s with
  | mk answer s' => cases answer <;> rfl

/-- A program with other exceptions does the same. -/
theorem exec_mapError {E' : Type} (f : E → E') (p : Prog K R E A) (s : Session K R) :
    (p.mapError f).exec s = ((p.exec s).1.mapError f, (p.exec s).2) := by
  induction p generalizing s with
  | ret a => rfl
  | throw e => rfl
  | fresh next ih => exact ih _ _
  | select query next ih => exact ih _ _
  | update key guard change next ih =>
    cases hget : s.working.get? key with
    | none =>
      rw [mapError, exec_update_none hget, exec_update_none hget]
      exact ih _ _
    | some row =>
      rw [mapError, exec_update_some hget, exec_update_some hget]
      split
      · exact ih _ _
      · exact ih _ _
  | insert key row next ih =>
    cases hget : s.working.get? key with
    | none =>
      rw [mapError, exec_insert_none hget, exec_insert_none hget]
      exact ih _ _
    | some row' =>
      rw [mapError, exec_insert_some hget, exec_insert_some hget]
      exact ih _ _
  | commit next ih => exact ih _ _
  | rollback next ih => exact ih _

theorem exec_mapError_of_ok {E' : Type} (f : E → E') {p : Prog K R E A} {s s' : Session K R}
    {a : A} (h : p.exec s = (.ok a, s')) : (p.mapError f).exec s = (.ok a, s') := by
  rw [exec_mapError, h]
  rfl

theorem run_map (f : A → B) (p : Prog K R E A) (ids : ℕ → ℕ) (d : Dict K R) :
    (p.map f).run ids d = ((p.run ids d).1.map f, (p.run ids d).2) := by
  simp only [run, exec_map]

/-! ### Running the statements -/

@[simp] theorem exec_query (q : Query K R) (s : Session K R) :
    (query q : Prog K R E _).exec s = (.ok (Txn.select q s.working), s) := rfl

@[simp] theorem exec_newId (s : Session K R) :
    (newId : Prog K R E ℕ).exec s = (.ok (s.ids 0), { s with ids := fun n => s.ids (n + 1) }) := rfl

@[simp] theorem exec_commitOr (e : E) (s : Session K R) :
    (commitOr e : Prog K R E Unit).exec s = (.ok (), { s with committed := s.working }) := rfl

@[simp] theorem exec_ofExcept_ok (a : A) (s : Session K R) :
    (ofExcept (.ok a) : Prog K R E A).exec s = (.ok a, s) := rfl

@[simp] theorem exec_ofExcept_error (e : E) (s : Session K R) :
    (ofExcept (.error e) : Prog K R E A).exec s = (.error e, s) := rfl

theorem exec_updateOr {e : E} {key : K} {change : R → R} {s : Session K R} {row : R}
    (h : s.working.get? key = some row) :
    (updateOr e key change : Prog K R E Unit).exec s =
      (.ok (), { s with working := s.working.set key (change row) }) := by
  rw [updateOr, exec_update_some h, if_pos rfl]
  rfl

theorem exec_insertOr_none {e : E} {key : K} {row : R} {s : Session K R}
    (h : s.working.get? key = none) :
    (insertOr e key row : Prog K R E Unit).exec s =
      (.ok (), { s with working := s.working.set key row }) := by
  rw [insertOr, exec_insert_none h]
  rfl

theorem exec_insertOr_some {e : E} {key : K} {row row' : R} {s : Session K R}
    (h : s.working.get? key = some row') :
    (insertOr e key row : Prog K R E Unit).exec s = (.error e, s) := by
  rw [insertOr, exec_insert_some h]
  rfl

end Exec

end Prog

end Txn

end OmsWmsTms
