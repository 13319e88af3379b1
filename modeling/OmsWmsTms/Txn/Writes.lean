import OmsWmsTms.Txn.Program

/-!
# What a program may write

A condition on single writes, whatever the program has read, decides which invariants of the rows a
program preserves.

* `Writes ends ok` : every write of the program satisfies `ok`, and it ends its transaction only if
  `ends`; `Reads` : a program that only reads.
* `Writes.exec` : an invariant that such writes preserve is preserved by a run of the program.
-/

namespace OmsWmsTms

namespace Txn

variable {K R E A B : Type}

/-- Every write of the program satisfies `ok`: of the key, the row that was there (`none` for an
`INSERT`) and the new row; the program ends its transaction only if `ends`. -/
def Writes (ends : Prop) (ok : K → Option R → R → Prop) : Prog K R E A → Prop
  | .ret _ => True
  | .throw _ => True
  | .fresh next => ∀ n, Writes ends ok (next n)
  | .select _ next => ∀ rows, Writes ends ok (next rows)
  | .update key guard change next =>
    (∀ row, guard row = true → ok key (some row) (change row)) ∧ ∀ hit, Writes ends ok (next hit)
  | .insert key row next => ok key none row ∧ ∀ free, Writes ends ok (next free)
  | .commit next => ends ∧ ∀ done, Writes ends ok (next done)
  | .rollback next => ends ∧ Writes ends ok next

/-- The program neither writes nor ends its transaction. -/
abbrev Reads (p : Prog K R E A) : Prop := Writes False (fun _ _ _ => False) p

namespace Writes

variable {ends ends' : Prop} {ok ok' : K → Option R → R → Prop} {p : Prog K R E A}

theorem mono (hp : Writes ends ok p) (hends : ends → ends')
    (h : ∀ key old row, ok key old row → ok' key old row) : Writes ends' ok' p := by
  induction p with
  | ret a => trivial
  | throw e => trivial
  | fresh next ih => exact fun n => ih n (hp n)
  | select query next ih => exact fun rows => ih rows (hp rows)
  | update key guard change next ih =>
    exact ⟨fun row hg => h _ _ _ (hp.1 row hg), fun hit => ih hit (hp.2 hit)⟩
  | insert key row next ih => exact ⟨h _ _ _ hp.1, fun free => ih free (hp.2 free)⟩
  | commit next ih => exact ⟨hends hp.1, fun done => ih done (hp.2 done)⟩
  | rollback next ih => exact ⟨hends hp.1, ih hp.2⟩

/-- Reads are allowed everywhere. -/
theorem of_reads (hp : Reads p) : Writes ends ok p := hp.mono False.elim fun _ _ _ => False.elim

theorem bind (hp : Writes ends ok p) {f : A → Prog K R E B} (hf : ∀ a, Writes ends ok (f a)) :
    Writes ends ok (p.bind f) := by
  induction p with
  | ret a => exact hf a
  | throw e => trivial
  | fresh next ih => exact fun n => ih n (hp n)
  | select query next ih => exact fun rows => ih rows (hp rows)
  | update key guard change next ih => exact ⟨hp.1, fun hit => ih hit (hp.2 hit)⟩
  | insert key row next ih => exact ⟨hp.1, fun free => ih free (hp.2 free)⟩
  | commit next ih => exact ⟨hp.1, fun done => ih done (hp.2 done)⟩
  | rollback next ih => exact ⟨hp.1, ih hp.2⟩

theorem forEach {α : Type} {l : List α} {f : α → Prog K R E Unit}
    (hf : ∀ a, Writes ends ok (f a)) : Writes ends ok (Prog.forEach l f) := by
  induction l with
  | nil => trivial
  | cons a l ih => exact (hf a).bind fun _ => ih

theorem foldEach {α σ : Type} {l : List α} {s : σ} {f : σ → α → Prog K R E σ}
    (hf : ∀ s a, Writes ends ok (f s a)) : Writes ends ok (Prog.foldEach l s f) := by
  induction l generalizing s with
  | nil => trivial
  | cons a l ih => exact (hf s a).bind fun _ => ih

theorem insertAll {rows : List (K × R)} (h : ∀ item ∈ rows, ok item.1 none item.2) :
    Writes ends ok (Prog.insertAll rows : Prog K R E Bool) := by
  induction rows with
  | nil => trivial
  | cons item rows ih =>
    refine ⟨h item List.mem_cons_self, fun free => ?_⟩
    cases free with
    | false => trivial
    | true => exact ih fun item' hitem' => h item' (List.mem_cons_of_mem _ hitem')

theorem attempts {f : ℕ → Prog K R E (A ⊕ A)} (hf : ∀ i, Writes ends ok (f i)) (i left : ℕ) :
    Writes ends ok (Prog.attempts f i left) := by
  induction left generalizing i with
  | zero => exact (hf i).bind fun _ => trivial
  | succ left ih =>
    refine (hf i).bind fun answer => ?_
    cases answer with
    | inl a => exact ih (i + 1)
    | inr a => trivial

theorem ofExcept (x : Except E A) : Writes ends ok (Prog.ofExcept x : Prog K R E A) := by
  cases x <;> trivial

theorem insertOr {e : E} {key : K} {row : R} (h : ok key none row) :
    Writes ends ok (Prog.insertOr e key row) := ⟨h, fun free => by cases free <;> trivial⟩

theorem updateOr {e : E} {key : K} {change : R → R} (h : ∀ row, ok key (some row) (change row)) :
    Writes ends ok (Prog.updateOr e key change) :=
  ⟨fun row _ => h row, fun hit => by cases hit <;> trivial⟩

theorem tryCommit : Writes True ok (Prog.tryCommit : Prog K R E Bool) :=
  ⟨trivial, fun _ => trivial⟩

theorem commitOr (e : E) : Writes True ok (Prog.commitOr e : Prog K R E Unit) :=
  ⟨trivial, fun done => by cases done <;> trivial⟩

variable [DecidableEq K] {I : Dict K R → Prop}

/-- **The rule for runs**: what the writes preserve of the rows, a program preserves of the
committed rows and of those that its transaction sees. -/
theorem exec (hupdate : ∀ d key row row', I d → d.get? key = some row → ok key (some row) row' →
      I (d.set key row'))
    (hinsert : ∀ d key row, I d → d.get? key = none → ok key none row → I (d.set key row))
    (hp : Writes ends ok p) {s : Session K R} (hcommitted : I s.committed)
    (hworking : I s.working) :
    I (p.exec s).2.committed ∧ I (p.exec s).2.working := by
  induction p generalizing s with
  | ret a => exact ⟨hcommitted, hworking⟩
  | throw e => exact ⟨hcommitted, hworking⟩
  | fresh next ih =>
    exact ih _ (hp _) (s := { s with ids := fun n => s.ids (n + 1) }) hcommitted hworking
  | select query next ih => exact ih _ (hp _) hcommitted hworking
  | update key guard change next ih =>
    cases hget : s.working.get? key with
    | none =>
      rw [Prog.exec_update_none hget]
      exact ih _ (hp.2 _) hcommitted hworking
    | some row =>
      rw [Prog.exec_update_some hget]
      split
      · rename_i hg
        exact ih true (hp.2 true) (s := { s with working := s.working.set key (change row) })
          hcommitted (hupdate _ _ _ _ hworking hget (hp.1 row hg))
      · exact ih _ (hp.2 _) hcommitted hworking
  | insert key row next ih =>
    cases hget : s.working.get? key with
    | none =>
      rw [Prog.exec_insert_none hget]
      exact ih true (hp.2 true) (s := { s with working := s.working.set key row })
        hcommitted (hinsert _ _ _ hworking hget hp.1)
    | some row' =>
      rw [Prog.exec_insert_some hget]
      exact ih _ (hp.2 _) hcommitted hworking
  | commit next ih =>
    exact ih true (hp.2 true) (s := { s with committed := s.working }) hworking hworking
  | rollback next ih =>
    exact ih hp.2 (s := { s with working := s.committed }) hcommitted hcommitted

end Writes

/-- A call that only reads changes nothing. -/
theorem run_reads [DecidableEq K] {p : Prog K R E A} (h : Reads p) (ids : ℕ → ℕ) (d : Dict K R) :
    (p.run ids d).2 = d :=
  (Writes.exec (I := fun d' => d' = d) (fun _ _ _ _ _ _ hok => hok.elim)
    (fun _ _ _ _ _ hok => hok.elim) h (s := ⟨d, d, ids⟩) rfl rfl).1

end Txn

end OmsWmsTms
