import OmsWmsTms.Txn.System

/-!
# Reads that stay valid

An open transaction whose reads would all be answered in the same way on the committed rows of the
moment has done what it would do if it ran alone on those rows.  The reads stay valid under the
commits of other programs that write no row matched by a query made so far.

* `Observation.Valid` : the query would be answered in the same way.
* `Coherent` : replaying the open transaction on rows on which its reads are valid leads to where
  the program is; `coherent_step` keeps it.
* `Undisturbed` : the writes match no query of the open transaction.
* `valid_step` : undisturbed reads stay valid.
-/

namespace OmsWmsTms

namespace Txn

variable {K R E A P : Type} [DecidableEq K]

/-- On the committed rows `d` the query gives the same answer. -/
def Observation.Valid (d : Dict K R) (o : Observation K R) : Prop :=
  select o.query (overlay d o.pending) = o.rows

/-- Where a program is, is where its open transaction leads to on rows on which its reads are
valid. -/
structure Coherent (p : Proc K R E A) : Prop where
  replay : ∀ d, (∀ o ∈ p.loc.observed, o.Valid d) → ∀ ids, ∃ ids',
    p.base.exec ⟨d, d, ids'⟩ = p.prog.exec ⟨d, overlay d p.loc.pending, ids⟩
  locked : ∀ o ∈ p.loc.observed, ∀ w ∈ o.pending, w.1 ∈ p.loc.locks

section Coherent

variable {p : Proc K R E A} {base prog : Prog K R E A} {l : Local K R} {d : Dict K R}

omit [DecidableEq K] in
@[simp] theorem locks_see (query : Query K R) (rows : List (K × R)) :
    (l.see query rows).locks = l.locks := rfl

omit [DecidableEq K] in
@[simp] theorem locks_write (key : K) (row : R) :
    (l.write key row).locks = l.locks ++ [key] := by
  simp [Local.locks, Local.write]

/-- A program at the beginning of a transaction. -/
theorem Coherent.of_begin (hpending : l.pending = []) (hobserved : l.observed = []) :
    Coherent ⟨prog, prog, l⟩ where
  replay d _ ids := ⟨ids, by simp [hpending]⟩
  locked o ho := by simp [hobserved] at ho

theorem Coherent.see (h : Coherent ⟨prog, base, l⟩) {query : Query K R} {rows : List (K × R)}
    {next : Prog K R E A}
    (hnext : ∀ d, select query (overlay d l.pending) = rows → ∀ ids,
      prog.exec ⟨d, overlay d l.pending, ids⟩ = next.exec ⟨d, overlay d l.pending, ids⟩) :
    Coherent ⟨next, base, l.see query rows⟩ where
  replay d hvalid ids := by
    obtain ⟨ids', hids⟩ := h.replay d (fun o ho => hvalid o (List.mem_cons_of_mem _ ho)) ids
    exact ⟨ids', hids.trans (hnext d (hvalid _ List.mem_cons_self) ids)⟩
  locked o ho w hw := by
    rcases List.mem_cons.1 ho with rfl | ho
    · exact List.mem_map_of_mem hw
    · exact h.locked o ho w hw

theorem Coherent.write (h : Coherent ⟨prog, base, l⟩) {query : Query K R} {rows : List (K × R)}
    {key : K} {row : R} {next : Prog K R E A}
    (hnext : ∀ d, select query (overlay d l.pending) = rows → ∀ ids,
      prog.exec ⟨d, overlay d l.pending, ids⟩ =
        next.exec ⟨d, (overlay d l.pending).set key row, ids⟩) :
    Coherent ⟨next, base, (l.see query rows).write key row⟩ where
  replay d hvalid ids := by
    obtain ⟨ids', hids⟩ := h.replay d (fun o ho => hvalid o (List.mem_cons_of_mem _ ho)) ids
    refine ⟨ids', hids.trans ?_⟩
    rw [hnext d (hvalid _ List.mem_cons_self) ids]
    simp [Local.write, Local.see]
  locked o ho w hw := by
    rw [locks_write, locks_see]
    rcases List.mem_cons.1 ho with rfl | ho
    · exact List.mem_append_left _ (List.mem_map_of_mem hw)
    · exact List.mem_append_left _ (h.locked o ho w hw)

/-- **A statement keeps the replay.** -/
theorem Coherent.next (h : Coherent p) (d : Dict K R) (n : ℕ) : Coherent (p.next d n).2 := by
  obtain ⟨prog, base, l⟩ := p
  have hnone {key : K} {d : Dict K R} (hsel : select (keyQuery key) (overlay d l.pending) = []) :
      (overlay d l.pending).get? key = none := select_keyQuery_eq_nil_iff.1 hsel
  have hsome {key : K} {row : R} {d : Dict K R}
      (hsel : select (keyQuery key) (overlay d l.pending) = [(key, row)]) :
      (overlay d l.pending).get? key = some row :=
    (mem_select.1 (hsel ▸ List.mem_singleton_self (key, row))).1
  cases prog with
  | ret a => exact h
  | throw e => exact .of_begin rfl rfl
  | fresh next =>
    refine ⟨fun d' hvalid ids => ?_, h.locked⟩
    -- the identifier that was made comes first
    exact h.replay d' hvalid fun k => Nat.casesOn k n ids
  | select query next =>
    refine h.see fun d' hsel ids => ?_
    rw [Prog.exec_select, hsel]
  | update key guard change next =>
    cases hget : (overlay d l.pending).get? key with
    | none =>
      rw [Proc.next_update_none hget]
      exact h.see fun d' hsel ids => Prog.exec_update_none (hnone hsel)
    | some row =>
      rw [Proc.next_update_some hget]
      split
      · rename_i hg
        refine h.write fun d' hsel ids => ?_
        rw [Prog.exec_update_some (s := ⟨d', overlay d' l.pending, ids⟩) (hsome hsel), if_pos hg]
      · rename_i hg
        refine h.see fun d' hsel ids => ?_
        rw [Prog.exec_update_some (s := ⟨d', overlay d' l.pending, ids⟩) (hsome hsel), if_neg hg]
  | insert key row next =>
    cases hget : (overlay d l.pending).get? key with
    | none =>
      rw [Proc.next_insert_none hget]
      exact h.write fun d' hsel ids => Prog.exec_insert_none (hnone hsel)
    | some row' =>
      rw [Proc.next_insert_some hget]
      exact h.see fun d' hsel ids => Prog.exec_insert_some (hsome hsel)
  | commit next => exact .of_begin rfl rfl
  | rollback next => exact .of_begin rfl rfl

variable [DecidableEq P]

theorem coherent_step {s s' : State P K R E A} {label : Label P}
    (hs : ∀ p, Coherent (s.procs p)) (h : system.step s label s') (p : P) :
    Coherent (s'.procs p) := by
  cases label with
  | run q n =>
    obtain ⟨-, rfl⟩ := h
    by_cases hp : p = q
    · subst hp
      simp only [State.update, Function.update_self]
      exact (hs p).next _ n
    · simp only [State.update, Function.update_of_ne hp]
      exact hs p
  | fail q =>
    obtain ⟨next, -, rfl⟩ := h
    by_cases hp : p = q
    · subst hp
      simp only [State.update, Function.update_self]
      exact .of_begin rfl rfl
    · simp only [State.update, Function.update_of_ne hp]
      exact hs p

end Coherent

/-! ### Undisturbed reads -/

/-- The writes match no query of the open transaction, neither before nor after them. -/
def Undisturbed (d : Dict K R) (writes : List (K × R)) (o : Observation K R) : Prop :=
  ∀ k ∈ writes.map Prod.fst, ∀ r, d.get? k = some r ∨ (overlay d writes).get? k = some r →
    o.query k r = false

/-- An undisturbed read stays valid. -/
theorem Observation.Valid.overlay {d : Dict K R} {writes : List (K × R)} {o : Observation K R}
    (h : o.Valid d) (hfree : ∀ w ∈ o.pending, w.1 ∉ writes.map Prod.fst)
    (hwrites : Undisturbed d writes o) : o.Valid (overlay d writes) := by
  unfold Observation.Valid at h ⊢
  rw [← h]
  exact (select_overlay_congr hfree (fun k hk r hr => hwrites k hk r (.inl hr))
    fun k hk r hr => hwrites k hk r (.inr hr)).symm

/-- What a statement reads is valid. -/
theorem valid_next {d : Dict K R} {n : ℕ} {p : Proc K R E A} {o : Observation K R}
    (ho : o ∈ (p.next d n).2.loc.observed) : o ∈ p.loc.observed ∨ o.Valid d := by
  obtain ⟨prog, base, l⟩ := p
  have hsee {query : Query K R} {rows : List (K × R)}
      (hvalid : select query (overlay d l.pending) = rows)
      (ho : o ∈ (l.see query rows).observed) : o ∈ l.observed ∨ o.Valid d := by
    rcases List.mem_cons.1 ho with rfl | ho
    · exact .inr hvalid
    · exact .inl ho
  cases prog with
  | ret a => exact .inl ho
  | throw e => simp [Proc.next, Local.abort] at ho
  | fresh next => exact .inl ho
  | select query next => exact hsee rfl ho
  | update key guard change next =>
    cases hget : (overlay d l.pending).get? key with
    | none =>
      rw [Proc.next_update_none hget] at ho
      exact hsee (select_keyQuery_eq_nil_iff.2 hget) ho
    | some row =>
      rw [Proc.next_update_some hget] at ho
      split at ho
      · exact hsee (select_keyQuery_of_get? hget) ho
      · exact hsee (select_keyQuery_of_get? hget) ho
  | insert key row next =>
    cases hget : (overlay d l.pending).get? key with
    | none =>
      rw [Proc.next_insert_none hget] at ho
      exact hsee (select_keyQuery_eq_nil_iff.2 hget) ho
    | some row' =>
      rw [Proc.next_insert_some hget] at ho
      exact hsee (select_keyQuery_of_get? hget) ho
  | commit next => simp [Proc.next, Local.commit] at ho
  | rollback next => simp [Proc.next, Local.rollback, Local.abort] at ho

variable [DecidableEq P]

/-- **Reads stay valid** over a step, unless it commits writes that disturb them. -/
theorem valid_step {s s' : State P K R E A} {label : Label P} {p : P} (hexcl : Exclusive s)
    (hcoh : Coherent (s.procs p)) (h : system.step s label s') {o : Observation K R}
    (ho : o ∈ (s'.procs p).loc.observed) :
    (o ∈ (s.procs p).loc.observed → o.Valid s.db) →
    (∀ q, q ≠ p → s'.db = overlay s.db (s.procs q).loc.pending →
      o ∈ (s.procs p).loc.observed → Undisturbed s.db (s.procs q).loc.pending o) →
    o.Valid s'.db := by
  intro hvalid hfree
  cases label with
  | run q n =>
    obtain ⟨-, rfl⟩ := h
    by_cases hq : p = q
    · subst hq
      simp only [State.update, Function.update_self] at ho ⊢
      rcases Proc.next_db s.db n (s.procs p) with hdb | ⟨next, -, hnext⟩
      · rw [hdb]
        exact (valid_next ho).elim hvalid id
      · -- after its own commit a program has read nothing
        rw [hnext] at ho
        cases ho
    · simp only [State.update, Function.update_of_ne hq] at ho hfree ⊢
      rcases Proc.next_db s.db n (s.procs q) with hdb | ⟨next, -, hnext⟩
      · rw [hdb]
        exact hvalid ho
      · rw [hnext] at hfree ⊢
        refine (hvalid ho).overlay (fun w hw hmem => ?_) (hfree q (Ne.symm hq) rfl ho)
        exact hexcl p q hq w.1 (hcoh.locked o ho w hw) hmem
  | fail q =>
    obtain ⟨next, -, rfl⟩ := h
    by_cases hq : p = q
    · subst hq
      simp [State.update, Local.abort] at ho
    · simp only [State.update, Function.update_of_ne hq] at ho ⊢
      exact hvalid ho

end Txn

end OmsWmsTms
