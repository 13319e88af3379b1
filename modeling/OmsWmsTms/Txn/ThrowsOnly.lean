import OmsWmsTms.Txn.Program

/-!
# The exceptions of a program

* `ThrowsOnly X p` : the program raises no exception outside `X`, whatever the database does.
* `ThrowsOnly.bind` and the rules after it : composed programs, loops and statements.
* `ThrowsOnly.run` : a call on a database.
-/

namespace OmsWmsTms

namespace Txn

variable {K R E A B : Type} {X : E → Prop}

/-- Every exception of the program is in `X`. -/
def ThrowsOnly (X : E → Prop) : Prog K R E A → Prop
  | .ret _ => True
  | .throw e => X e
  | .fresh next => ∀ n, ThrowsOnly X (next n)
  | .select _ next => ∀ rows, ThrowsOnly X (next rows)
  | .update _ _ _ next => ∀ hit, ThrowsOnly X (next hit)
  | .insert _ _ next => ∀ free, ThrowsOnly X (next free)
  | .commit next => ∀ ok, ThrowsOnly X (next ok)
  | .rollback next => ThrowsOnly X next

namespace ThrowsOnly

theorem mono {X' : E → Prop} {p : Prog K R E A} (h : ThrowsOnly X p) (hX : ∀ e, X e → X' e) :
    ThrowsOnly X' p := by
  induction p with
  | ret a => trivial
  | throw e => exact hX e h
  | fresh next ih => exact fun n => ih n (h n)
  | select query next ih => exact fun rows => ih rows (h rows)
  | update key guard change next ih => exact fun hit => ih hit (h hit)
  | insert key row next ih => exact fun free => ih free (h free)
  | commit next ih => exact fun done => ih done (h done)
  | rollback next ih => exact ih h

/-- **Programs in sequence.** -/
theorem bind {p : Prog K R E A} {f : A → Prog K R E B} (h : ThrowsOnly X p)
    (hf : ∀ a, ThrowsOnly X (f a)) : ThrowsOnly X (p.bind f) := by
  induction p with
  | ret a => exact hf a
  | throw e => exact h
  | fresh next ih => exact fun n => ih n (h n)
  | select query next ih => exact fun rows => ih rows (h rows)
  | update key guard change next ih => exact fun hit => ih hit (h hit)
  | insert key row next ih => exact fun free => ih free (h free)
  | commit next ih => exact fun ok => ih ok (h ok)
  | rollback next ih => exact ih h

/-- A program with other exceptions. -/
theorem mapError {E' : Type} {X : E' → Prop} {f : E → E'} {p : Prog K R E A}
    (h : ThrowsOnly (fun e => X (f e)) p) : ThrowsOnly X (p.mapError f) := by
  induction p with
  | ret a => trivial
  | throw e => exact h
  | fresh next ih => exact fun n => ih n (h n)
  | select query next ih => exact fun rows => ih rows (h rows)
  | update key guard change next ih => exact fun hit => ih hit (h hit)
  | insert key row next ih => exact fun free => ih free (h free)
  | commit next ih => exact fun done => ih done (h done)
  | rollback next ih => exact ih h

/-- **Loops.** -/
theorem forEach {α : Type} {l : List α} {f : α → Prog K R E Unit}
    (hf : ∀ a ∈ l, ThrowsOnly X (f a)) : ThrowsOnly X (Prog.forEach l f) := by
  induction l with
  | nil => trivial
  | cons a l ih =>
    obtain ⟨ha, hl⟩ := List.forall_mem_cons.1 hf
    exact ha.bind fun _ => ih hl

/-! ### Statements -/

theorem ret (a : A) : ThrowsOnly X (.ret a : Prog K R E A) := trivial

theorem query (q : Query K R) : ThrowsOnly X (Prog.query q : Prog K R E _) := fun _ => trivial

theorem newId : ThrowsOnly X (Prog.newId : Prog K R E ℕ) := fun _ => trivial

theorem ofExcept {x : Except E A} (h : ∀ e, x = .error e → X e) :
    ThrowsOnly X (Prog.ofExcept x : Prog K R E A) := by
  cases x with
  | ok a => trivial
  | error e => exact h e rfl

theorem insertOr {e : E} (he : X e) (key : K) (row : R) :
    ThrowsOnly X (Prog.insertOr e key row) := by
  intro free
  cases free with
  | true => trivial
  | false => exact he

theorem commitOr {e : E} (he : X e) : ThrowsOnly X (Prog.commitOr e : Prog K R E Unit) := by
  intro ok
  cases ok with
  | true => trivial
  | false => exact he

/-! ### Runs -/

variable [DecidableEq K]

theorem exec {p : Prog K R E A} (h : ThrowsOnly X p) (s : Session K R) {e : E}
    (he : (p.exec s).1 = .error e) : X e := by
  induction p generalizing s with
  | ret a => cases he
  | throw e' =>
    cases he
    exact h
  | fresh next ih => exact ih _ (h _) _ he
  | select query next ih => exact ih _ (h _) _ he
  | update key guard change next ih =>
    cases hget : s.working.get? key with
    | none =>
      rw [Prog.exec_update_none hget] at he
      exact ih _ (h _) _ he
    | some row =>
      rw [Prog.exec_update_some hget] at he
      split at he
      · exact ih _ (h _) _ he
      · exact ih _ (h _) _ he
  | insert key row next ih =>
    cases hget : s.working.get? key with
    | none =>
      rw [Prog.exec_insert_none hget] at he
      exact ih _ (h _) _ he
    | some row' =>
      rw [Prog.exec_insert_some hget] at he
      exact ih _ (h _) _ he
  | commit next ih => exact ih _ (h _) _ he
  | rollback next ih => exact ih h _ he

/-- **A call on a database** raises no other exception. -/
theorem run {p : Prog K R E A} (h : ThrowsOnly X p) (ids : ℕ → ℕ) (d : Dict K R) {e : E}
    (he : (p.run ids d).1 = .error e) : X e :=
  h.exec ⟨d, d, ids⟩ he

end ThrowsOnly

end Txn

end OmsWmsTms
