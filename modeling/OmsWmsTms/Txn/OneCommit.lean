import OmsWmsTms.Txn.Serial
import OmsWmsTms.Txn.Writes

/-!
# Programs that end with their commit

A program that commits at most once, and then returns, has run alone on the rows that its commit
finds, whenever its reads are valid there.

* `OneCommit ok` : the program ends with its first commit, and raises when that fails; all its
  writes satisfy `ok`.
* `OneCommit.bind` and the rules after it : composed programs.
* `Stage` : where such a program is; `stage_step` keeps it.
* `Stage.run` : what it commits on valid reads is what it commits alone.
* `valid_or_observed` : a step makes no read that is not valid.
-/

namespace OmsWmsTms

namespace Txn

variable {K R E A B P : Type}

/-- The program ends with its first commit, and raises when that fails; every write satisfies `ok`:
of the key, the row that was there and the new row. -/
def OneCommit (ok : K → Option R → R → Prop) : Prog K R E A → Prop
  | .ret _ => True
  | .throw _ => True
  | .fresh next => ∀ n, OneCommit ok (next n)
  | .select _ next => ∀ rows, OneCommit ok (next rows)
  | .update key guard change next =>
    (∀ row, guard row = true → ok key (some row) (change row)) ∧ ∀ hit, OneCommit ok (next hit)
  | .insert key row next => ok key none row ∧ ∀ free, OneCommit ok (next free)
  | .commit next => (∃ a, next true = .ret a) ∧ ∃ e, next false = .throw e
  | .rollback _ => False

namespace OneCommit

variable {ok : K → Option R → R → Prop} {p : Prog K R E A}

/-- **After a program that does not end its transaction.** -/
theorem bind (hp : Writes False ok p) {f : A → Prog K R E B} (hf : ∀ a, OneCommit ok (f a)) :
    OneCommit ok (p.bind f) := by
  induction p with
  | ret a => exact hf a
  | throw e => trivial
  | fresh next ih => exact fun n => ih n (hp n)
  | select query next ih => exact fun rows => ih rows (hp rows)
  | update key guard change next ih => exact ⟨hp.1, fun hit => ih hit (hp.2 hit)⟩
  | insert key row next ih => exact ⟨hp.1, fun free => ih free (hp.2 free)⟩
  | commit next => exact hp.1.elim
  | rollback next => exact hp.1.elim

/-- A program that does not end its transaction. -/
theorem of_writes (hp : Writes False ok p) : OneCommit ok p := by
  rw [← Prog.bind_ret p]
  exact bind hp fun a => trivial

/-- The commit at the end of a program. -/
theorem commitOr (e : E) (a : A) :
    OneCommit ok ((Prog.commitOr e : Prog K R E Unit).bind fun _ => .ret a) :=
  ⟨⟨a, rfl⟩, ⟨e, rfl⟩⟩

theorem map (hp : OneCommit ok p) (f : A → B) : OneCommit ok (p.map f) := by
  induction p with
  | ret a => trivial
  | throw e => trivial
  | fresh next ih => exact fun n => ih n (hp n)
  | select query next ih => exact fun rows => ih rows (hp rows)
  | update key guard change next ih => exact ⟨hp.1, fun hit => ih hit (hp.2 hit)⟩
  | insert key row next ih => exact ⟨hp.1, fun free => ih free (hp.2 free)⟩
  | commit next =>
    obtain ⟨⟨a, ha⟩, e, he⟩ := hp
    refine ⟨⟨f a, ?_⟩, e, ?_⟩
    · change (next true).bind _ = _
      rw [ha]
      rfl
    · change (next false).bind _ = _
      rw [he]
      rfl
  | rollback next => exact hp.elim

/-- The writes of such a program. -/
theorem writes (hp : OneCommit ok p) : Writes True ok p := by
  induction p with
  | ret a => trivial
  | throw e => trivial
  | fresh next ih => exact fun n => ih n (hp n)
  | select query next ih => exact fun rows => ih rows (hp rows)
  | update key guard change next ih => exact ⟨hp.1, fun hit => ih hit (hp.2 hit)⟩
  | insert key row next ih => exact ⟨hp.1, fun free => ih free (hp.2 free)⟩
  | commit next =>
    obtain ⟨⟨a, ha⟩, e, he⟩ := hp
    refine ⟨trivial, fun done => ?_⟩
    cases done with
    | true =>
      rw [ha]
      trivial
    | false =>
      rw [he]
      trivial
  | rollback next => exact hp.elim

/-- **An exception loses the writes**: the program had not committed. -/
theorem exec_error [DecidableEq K] (hp : OneCommit ok p) {s : Session K R} {e : E}
    (he : (p.exec s).1 = .error e) : (p.exec s).2.committed = s.committed := by
  induction p generalizing s with
  | ret a => rfl
  | throw e' => rfl
  | fresh next ih => exact ih _ (hp _) he
  | select query next ih => exact ih _ (hp _) he
  | update key guard change next ih =>
    cases hget : s.working.get? key with
    | none =>
      rw [Prog.exec_update_none hget] at he ⊢
      exact ih _ (hp.2 _) he
    | some row =>
      rw [Prog.exec_update_some hget] at he ⊢
      split at he
      · rename_i hguard
        rw [if_pos hguard]
        exact ih _ (hp.2 _) he
      · rename_i hguard
        rw [if_neg hguard]
        exact ih _ (hp.2 _) he
  | insert key row next ih =>
    cases hget : s.working.get? key with
    | none =>
      rw [Prog.exec_insert_none hget] at he ⊢
      exact ih _ (hp.2 _) he
    | some row' =>
      rw [Prog.exec_insert_some hget] at he ⊢
      exact ih _ (hp.2 _) he
  | commit next =>
    obtain ⟨⟨a, ha⟩, -⟩ := hp
    rw [Prog.exec_commit, ha] at he
    cases he
  | rollback next => exact hp.elim

/-- **A call that raises leaves the database as it was.** -/
theorem run_error [DecidableEq K] (hp : OneCommit ok p) {ids : ℕ → ℕ} {d d' : Dict K R} {e : E}
    (hrun : p.run ids d = (.error e, d')) : d' = d := by
  have hcommitted := hp.exec_error (s := ⟨d, d, ids⟩) (congrArg Prod.fst hrun)
  exact (congrArg Prod.snd hrun).symm.trans hcommitted

end OneCommit

/-! ### Runs -/

/-- Where such a program is: it has not committed, or it has ended. -/
inductive Stage (ok : K → Option R → R → Prop) (p : Prog K R E A) : Proc K R E A → Prop
  | before {prog : Prog K R E A} {l : Local K R} :
      OneCommit ok prog → l.commits = [] → Stage ok p ⟨prog, p, l⟩
  | returned {a : A} {base : Prog K R E A} {l : Local K R} : Stage ok p ⟨.ret a, base, l⟩
  | raised {e : E} {base : Prog K R E A} {l : Local K R} : Stage ok p ⟨.throw e, base, l⟩

section Stage

variable {ok : K → Option R → R → Prop} {p : Prog K R E A} {proc : Proc K R E A}
  {after : Bool → Prog K R E A}

/-- A program that is about to commit has not committed. -/
theorem Stage.commits (h : Stage ok p proc) (hprog : proc.prog = .commit after) :
    proc.loc.commits = [] := by
  cases h with
  | before hone hcommits => exact hcommits
  | returned => cases hprog
  | raised => cases hprog

variable [DecidableEq K] {d : Dict K R}

/-- **A statement.** -/
theorem Stage.next (h : Stage ok p proc) (d : Dict K R) (n : ℕ) : Stage ok p (proc.next d n).2 := by
  cases h with
  | returned => exact .returned
  | raised => exact .raised
  | @before prog l hone hcommits =>
    cases prog with
    | ret a => exact .returned
    | throw e => exact .raised
    | fresh next => exact .before (hone n) hcommits
    | select query next => exact .before (hone _) hcommits
    | update key guard change next =>
      cases hget : (overlay d l.pending).get? key with
      | none =>
        rw [Proc.next_update_none hget]
        exact .before (hone.2 false) hcommits
      | some row =>
        rw [Proc.next_update_some hget]
        split
        · exact .before (hone.2 true) hcommits
        · exact .before (hone.2 false) hcommits
    | insert key row next =>
      cases hget : (overlay d l.pending).get? key with
      | none =>
        rw [Proc.next_insert_none hget]
        exact .before (hone.2 true) hcommits
      | some row' =>
        rw [Proc.next_insert_some hget]
        exact .before (hone.2 false) hcommits
    | commit next =>
      obtain ⟨a, ha⟩ := hone.1
      rw [Proc.next_commit rfl, ha]
      exact .returned
    | rollback next => exact hone.elim

/-- **On valid reads a program commits what it commits alone**, and it returns. -/
theorem Stage.run (h : Stage ok p proc) (hcoh : Coherent proc) (hprog : proc.prog = .commit after)
    (hvalid : ∀ o ∈ proc.loc.observed, o.Valid d) :
    ∃ ids a, p.run ids d = (.ok a, overlay d proc.loc.pending) := by
  cases h with
  | returned => cases hprog
  | raised => cases hprog
  | @before prog l hone _ =>
    cases hprog
    obtain ⟨a, ha⟩ := hone.1
    obtain ⟨ids, hids⟩ := hcoh.replay d hvalid id
    refine ⟨ids, a, ?_⟩
    change p.exec ⟨d, d, ids⟩ = _ at hids
    rw [Prog.run, hids, Prog.exec_commit, ha]
    rfl

variable [DecidableEq P] {s s' : State P K R E A} {label : Label P} {q : P}

/-- **A step keeps where a program is.** -/
theorem stage_step (hs : Stage ok p (s.procs q)) (h : system.step s label s') :
    Stage ok p (s'.procs q) := by
  cases label with
  | run r n =>
    obtain ⟨-, rfl⟩ := h
    by_cases hq : q = r
    · subst hq
      simpa only [State.update, Function.update_self] using hs.next s.db n
    · simpa only [State.update, Function.update_of_ne hq] using hs
  | fail r =>
    obtain ⟨next, hprog, rfl⟩ := h
    by_cases hq : q = r
    · subst hq
      simp only [State.update, Function.update_self]
      cases hproc : s.procs q with
      | mk prog base l =>
        rw [hproc] at hs hprog
        cases hs with
        | returned => cases hprog
        | raised => cases hprog
        | before hone _ =>
          cases hprog
          obtain ⟨-, e, he⟩ := hone
          rw [he]
          exact .raised
    · simpa only [State.update, Function.update_of_ne hq] using hs

/-- What an open transaction has read after a step, it had read before or reads from the committed
rows of the moment. -/
theorem valid_or_observed (h : system.step s label s') {o : Observation K R}
    (ho : o ∈ (s'.procs q).loc.observed) : o ∈ (s.procs q).loc.observed ∨ o.Valid s.db := by
  cases label with
  | run r n =>
    obtain ⟨-, rfl⟩ := h
    by_cases hq : q = r
    · subst hq
      simp only [State.update, Function.update_self] at ho
      exact valid_next ho
    · simp only [State.update, Function.update_of_ne hq] at ho
      exact .inl ho
  | fail r =>
    obtain ⟨next, -, rfl⟩ := h
    by_cases hq : q = r
    · subst hq
      simp [State.update, Local.abort] at ho
    · simp only [State.update, Function.update_of_ne hq] at ho
      exact .inl ho

end Stage

end Txn

end OmsWmsTms
