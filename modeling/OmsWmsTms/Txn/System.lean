import OmsWmsTms.Lts.Basic
import OmsWmsTms.Txn.Program
import Mathlib.Data.Fintype.Basic

/-!
# Concurrent transactions at READ COMMITTED

Any number of programs run against one database, one statement at a time.  A statement reads the
latest committed rows under the program's own writes.  A write locks its row until the program
commits, rolls back or raises; another program that wants the row waits.

* `Local` : what a program has written and read in its open transaction, and the record of its
  commits and rollbacks.
* `Proc.next` : one statement of a program.
* `system` : the runs of all programs; `Label.fail` is a commit that fails.
* `Exclusive` : no two programs have written one row; `exclusive_step` keeps it.
* `State.schedule` : the run of a given schedule.
-/

namespace OmsWmsTms

namespace Txn

/-- A query that an open transaction has made: the query, the transaction's own writes at that
moment, and the answer. -/
structure Observation (K R : Type) where
  /-- The query. -/
  query : Query K R
  /-- The writes it saw. -/
  pending : List (K × R)
  /-- The rows it gave. -/
  rows : List (K × R)

/-- The local state of a program. -/
structure Local (K R : Type) where
  /-- The writes of the open transaction, oldest first; their rows are locked. -/
  pending : List (K × R)
  /-- What the open transaction has read, newest first. -/
  observed : List (Observation K R)
  /-- The commits: the database before each and the writes, newest first. -/
  commits : List (Dict K R × List (K × R))
  /-- How often the program has rolled back. -/
  rollbacks : ℕ

namespace Local

variable {K R : Type} (l : Local K R)

/-- The local state at the start of a program. -/
def start : Local K R := ⟨[], [], [], 0⟩

/-- The keys of the locked rows. -/
def locks : List K := l.pending.map Prod.fst

/-- After a query. -/
def see (query : Query K R) (rows : List (K × R)) : Local K R :=
  { l with observed := ⟨query, l.pending, rows⟩ :: l.observed }

/-- After a write. -/
def write (key : K) (row : R) : Local K R := { l with pending := l.pending ++ [(key, row)] }

/-- After a commit on the database `d`. -/
def commit (d : Dict K R) : Local K R := ⟨[], [], (d, l.pending) :: l.commits, l.rollbacks⟩

/-- After the loss of the writes. -/
def abort : Local K R := { l with pending := [], observed := [] }

/-- After a rollback. -/
def rollback : Local K R := { l.abort with rollbacks := l.rollbacks + 1 }

end Local

/-- A running program; `base` is the program that was left when its open transaction began. -/
structure Proc (K R E A : Type) where
  /-- The program that is left. -/
  prog : Prog K R E A
  /-- The program that was left when the open transaction began. -/
  base : Prog K R E A
  /-- The local state. -/
  loc : Local K R

section Step

variable {K R E A : Type} [DecidableEq K]

/-- A program that starts. -/
def Proc.start (p : Prog K R E A) : Proc K R E A := ⟨p, p, .start⟩

/-- The row that the next statement locks. -/
def Prog.lock? : Prog K R E A → Option K
  | .update key _ _ _ => some key
  | .insert key _ _ => some key
  | _ => none

/-- One statement of a program on the committed rows `d`; a new identifier would be `n`. -/
def Proc.next (d : Dict K R) (n : ℕ) (p : Proc K R E A) : Dict K R × Proc K R E A :=
  let l := p.loc
  match p.prog with
  | .ret _ => (d, p)
  | .throw e => (d, ⟨.throw e, .throw e, l.abort⟩)
  | .fresh next => (d, { p with prog := next n })
  | .select query next =>
    let rows := select query (overlay d l.pending)
    (d, { p with prog := next rows, loc := l.see query rows })
  | .update key guard change next =>
    match (overlay d l.pending).get? key with
    | none => (d, { p with prog := next false, loc := l.see (keyQuery key) [] })
    | some row =>
      if guard row then
        (d, { p with
          prog := next true, loc := (l.see (keyQuery key) [(key, row)]).write key (change row) })
      else (d, { p with prog := next false, loc := l.see (keyQuery key) [(key, row)] })
  | .insert key row next =>
    match (overlay d l.pending).get? key with
    | none => (d, { p with prog := next true, loc := (l.see (keyQuery key) []).write key row })
    | some row' => (d, { p with prog := next false, loc := l.see (keyQuery key) [(key, row')] })
  | .commit next => (overlay d l.pending, ⟨next true, next true, l.commit d⟩)
  | .rollback next => (d, ⟨next, next, l.rollback⟩)

/-- The state of the system: the committed rows and the programs. -/
structure State (P K R E A : Type) where
  /-- The committed rows. -/
  db : Dict K R
  /-- The programs. -/
  procs : P → Proc K R E A

/-- What happens next: a statement of a program, or the failure of its commit. -/
inductive Label (P : Type)
  | run (p : P) (newId : ℕ)
  | fail (p : P)

variable {P : Type}

/-- The row that the next statement of `p` locks is not locked by another program. -/
def State.Unblocked (s : State P K R E A) (p : P) : Prop :=
  ∀ key, (s.procs p).prog.lock? = some key → ∀ q, q ≠ p → key ∉ (s.procs q).loc.locks

variable [DecidableEq P]

/-- The state after a step of the program `p`. -/
def State.update (s : State P K R E A) (p : P) (result : Dict K R × Proc K R E A) :
    State P K R E A :=
  ⟨result.1, Function.update s.procs p result.2⟩

/-- **The system of concurrent programs.** -/
def system : Lts (State P K R E A) (Label P) where
  step s label s' :=
    match label with
    | .run p newId => s.Unblocked p ∧ s' = s.update p ((s.procs p).next s.db newId)
    | .fail p => ∃ next, (s.procs p).prog = .commit next ∧
        s' = s.update p (s.db, ⟨next false, next false, (s.procs p).loc.abort⟩)

/-- The state in which every program starts. -/
def State.start (d : Dict K R) (progs : P → Prog K R E A) : State P K R E A :=
  ⟨d, fun p => .start (progs p)⟩

/-! ### One statement -/

section Next

variable {d : Dict K R} {n : ℕ} {base : Prog K R E A} {l : Local K R} {key : K} {row row' : R}
  {guard : R → Bool} {change : R → R} {next : Bool → Prog K R E A}

theorem Proc.next_update_none (h : (overlay d l.pending).get? key = none) :
    Proc.next d n ⟨.update key guard change next, base, l⟩ =
      (d, ⟨next false, base, l.see (keyQuery key) []⟩) := by
  simp only [Proc.next, h]

theorem Proc.next_update_some (h : (overlay d l.pending).get? key = some row) :
    Proc.next d n ⟨.update key guard change next, base, l⟩ =
      if guard row then
        (d, ⟨next true, base, (l.see (keyQuery key) [(key, row)]).write key (change row)⟩)
      else (d, ⟨next false, base, l.see (keyQuery key) [(key, row)]⟩) := by
  simp only [Proc.next, h]

theorem Proc.next_insert_none (h : (overlay d l.pending).get? key = none) :
    Proc.next d n ⟨.insert key row next, base, l⟩ =
      (d, ⟨next true, base, (l.see (keyQuery key) []).write key row⟩) := by
  simp only [Proc.next, h]

theorem Proc.next_insert_some (h : (overlay d l.pending).get? key = some row') :
    Proc.next d n ⟨.insert key row next, base, l⟩ =
      (d, ⟨next false, base, l.see (keyQuery key) [(key, row')]⟩) := by
  simp only [Proc.next, h]

end Next

theorem Proc.next_commit {p : Proc K R E A} {next : Bool → Prog K R E A}
    (h : p.prog = .commit next) (d : Dict K R) (n : ℕ) :
    p.next d n = (overlay d p.loc.pending, ⟨next true, next true, p.loc.commit d⟩) := by
  simp only [Proc.next, h]

/-- Only a commit changes the committed rows and the record of the commits. -/
theorem Proc.next_commits (d : Dict K R) (n : ℕ) (p : Proc K R E A) :
    ((p.next d n).1 = d ∧ (p.next d n).2.loc.commits = p.loc.commits) ∨
    ∃ next, p.prog = .commit next ∧
      p.next d n = (overlay d p.loc.pending, ⟨next true, next true, p.loc.commit d⟩) := by
  obtain ⟨prog, base, l⟩ := p
  cases prog with
  | commit next => exact .inr ⟨next, rfl, rfl⟩
  | update key guard change next =>
    left
    cases h : (overlay d l.pending).get? key with
    | none =>
      rw [next_update_none h]
      exact ⟨rfl, rfl⟩
    | some row =>
      rw [next_update_some h]
      split <;> exact ⟨rfl, rfl⟩
  | insert key row next =>
    left
    cases h : (overlay d l.pending).get? key with
    | none =>
      rw [next_insert_none h]
      exact ⟨rfl, rfl⟩
    | some row' =>
      rw [next_insert_some h]
      exact ⟨rfl, rfl⟩
  | ret a => exact .inl ⟨rfl, rfl⟩
  | throw e => exact .inl ⟨rfl, rfl⟩
  | fresh next => exact .inl ⟨rfl, rfl⟩
  | select query next => exact .inl ⟨rfl, rfl⟩
  | rollback next => exact .inl ⟨rfl, rfl⟩

/-- Only a commit changes the committed rows. -/
theorem Proc.next_db (d : Dict K R) (n : ℕ) (p : Proc K R E A) :
    (p.next d n).1 = d ∨ ∃ next, p.prog = .commit next ∧
      p.next d n = (overlay d p.loc.pending, ⟨next true, next true, p.loc.commit d⟩) :=
  (p.next_commits d n).imp_left And.left

/-- A statement locks at most the row it asks for. -/
theorem Proc.next_locks (d : Dict K R) (n : ℕ) (p : Proc K R E A) {key : K}
    (hkey : key ∈ (p.next d n).2.loc.locks) : key ∈ p.loc.locks ∨ p.prog.lock? = some key := by
  obtain ⟨prog, base, l⟩ := p
  have hwrite {q : Query K R} {rows : List (K × R)} {k : K} {row : R}
      (h : key ∈ ((l.see q rows).write k row).locks) : key ∈ l.locks ∨ some k = some key := by
    simpa [Local.locks, Local.see, Local.write, eq_comm] using h
  cases prog with
  | update k guard change next =>
    cases h : (overlay d l.pending).get? k with
    | none =>
      rw [next_update_none h] at hkey
      exact .inl hkey
    | some row =>
      rw [next_update_some h] at hkey
      split at hkey
      · exact hwrite hkey
      · exact .inl hkey
  | insert k row next =>
    cases h : (overlay d l.pending).get? k with
    | none =>
      rw [next_insert_none h] at hkey
      exact hwrite hkey
    | some row' =>
      rw [next_insert_some h] at hkey
      exact .inl hkey
  | ret a => exact .inl hkey
  | fresh next => exact .inl hkey
  | select query next => exact .inl hkey
  | throw e => simp [Proc.next, Local.locks, Local.abort] at hkey
  | commit next => simp [Proc.next, Local.locks, Local.commit] at hkey
  | rollback next => simp [Proc.next, Local.locks, Local.rollback, Local.abort] at hkey

/-- What a step does to the committed rows and to the record of the commits. -/
theorem system_commits {s s' : State P K R E A} {label : Label P} (h : system.step s label s') :
    (s'.db = s.db ∧ ∀ q, (s'.procs q).loc.commits = (s.procs q).loc.commits) ∨
    ∃ p next n, (s.procs p).prog = .commit next ∧ label = .run p n ∧
      s' = s.update p (overlay s.db (s.procs p).loc.pending,
        ⟨next true, next true, (s.procs p).loc.commit s.db⟩) := by
  -- a program that does not commit keeps its record, and the others are as they were
  have hkeep {p : P} {result : Dict K R × Proc K R E A}
      (hp : result.2.loc.commits = (s.procs p).loc.commits) (q : P) :
      ((s.update p result).procs q).loc.commits = (s.procs q).loc.commits := by
    by_cases hq : q = p
    · subst hq
      simpa only [State.update, Function.update_self] using hp
    · simp only [State.update, Function.update_of_ne hq]
  cases label with
  | run p n =>
    obtain ⟨-, rfl⟩ := h
    rcases Proc.next_commits s.db n (s.procs p) with ⟨hdb, hcommits⟩ | ⟨next, hprog, hnext⟩
    · exact .inl ⟨hdb, hkeep hcommits⟩
    · exact .inr ⟨p, next, n, hprog, rfl, by rw [hnext]⟩
  | fail p =>
    obtain ⟨next, -, rfl⟩ := h
    exact .inl ⟨rfl, hkeep rfl⟩

/-- Only a commit changes the committed rows. -/
theorem system_db {s s' : State P K R E A} {label : Label P} (h : system.step s label s') :
    s'.db = s.db ∨ ∃ p next n, (s.procs p).prog = .commit next ∧
      s'.db = overlay s.db (s.procs p).loc.pending ∧ label = .run p n := by
  rcases system_commits h with ⟨hdb, -⟩ | ⟨p, next, n, hprog, hlabel, rfl⟩
  · exact .inl hdb
  · exact .inr ⟨p, next, n, hprog, rfl, hlabel⟩

/-! ### Locks -/

/-- No two programs have written one row. -/
def Exclusive (s : State P K R E A) : Prop :=
  ∀ p q, p ≠ q → ∀ key ∈ (s.procs p).loc.locks, key ∉ (s.procs q).loc.locks

omit [DecidableEq K] [DecidableEq P] in
theorem exclusive_start (d : Dict K R) (progs : P → Prog K R E A) :
    Exclusive (State.start d progs) := by
  intro p q _ key hkey
  simp [State.start, Proc.start, Local.start, Local.locks] at hkey

/-- **A step keeps the locks exclusive.** -/
theorem exclusive_step {s s' : State P K R E A} {label : Label P} (hs : Exclusive s)
    (h : system.step s label s') : Exclusive s' := by
  -- the program that steps locks no row of another
  have key {p : P} {result : Dict K R × Proc K R E A}
      (hlocks : ∀ key ∈ result.2.loc.locks, key ∈ (s.procs p).loc.locks ∨
        ∀ q, q ≠ p → key ∉ (s.procs q).loc.locks) : Exclusive (s.update p result) := by
    have hp (q : P) (hq : q ≠ p) (k : K) (hk : k ∈ result.2.loc.locks) :
        k ∉ (s.procs q).loc.locks := by
      rcases hlocks k hk with hk | hk
      · exact hs p q hq.symm k hk
      · exact hk q hq
    intro q q' hne k hk hk'
    simp only [State.update] at hk hk'
    by_cases hq : q = p
    · subst hq
      rw [Function.update_self] at hk
      rw [Function.update_of_ne hne.symm] at hk'
      exact hp q' hne.symm k hk hk'
    · rw [Function.update_of_ne hq] at hk
      by_cases hq' : q' = p
      · subst hq'
        rw [Function.update_self] at hk'
        exact hp q hq k hk' hk
      · rw [Function.update_of_ne hq'] at hk'
        exact hs q q' hne k hk hk'
  cases label with
  | run p newId =>
    obtain ⟨hfree, rfl⟩ := h
    refine key fun k hk => ?_
    rcases Proc.next_locks _ _ _ hk with hk | hk
    · exact .inl hk
    · exact .inr (hfree k hk)
  | fail p =>
    obtain ⟨next, -, rfl⟩ := h
    exact key fun k hk => by simp [Local.locks, Local.abort] at hk

/-! ### Schedules -/

section Schedule

variable [Fintype P]

instance (s : State P K R E A) (p : P) : Decidable (s.Unblocked p) :=
  match h : (s.procs p).prog.lock? with
  | none => isTrue fun key hkey => by rw [h] at hkey; cases hkey
  | some key =>
    decidable_of_iff (∀ q, q ≠ p → key ∉ (s.procs q).loc.locks)
      ⟨fun hfree key' hkey => by rw [h] at hkey; cases hkey; exact hfree, fun hfree => hfree key h⟩

/-- The state after the statements of a schedule, with the identifiers that they make; `none` when
a program would have to wait. -/
def State.schedule (s : State P K R E A) (steps : List (P × ℕ)) : Option (State P K R E A) :=
  match steps with
  | [] => some s
  | (p, n) :: rest =>
    if s.Unblocked p then (s.update p ((s.procs p).next s.db n)).schedule rest else none

/-- A schedule is a run. -/
theorem State.run_schedule {s t : State P K R E A} {steps : List (P × ℕ)}
    (h : s.schedule steps = some t) :
    system.Run s (steps.map fun step => .run step.1 step.2) t := by
  induction steps generalizing s with
  | nil =>
    cases h
    exact .nil _
  | cons step steps ih =>
    unfold schedule at h
    split at h
    · rename_i hfree
      exact .cons ⟨hfree, rfl⟩ (ih h)
    · cases h

end Schedule

end Step

end Txn

end OmsWmsTms
