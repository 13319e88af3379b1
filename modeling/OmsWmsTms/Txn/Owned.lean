import OmsWmsTms.Txn.Program
import Mathlib.Data.Set.Insert

/-!
# Rows that belong to identifiers

A program that only inserts rows of identifiers it has drawn leaves the old rows alone, and every
new row tells which identifier it is from.

* `Grown own d w` : the rows `w` are the rows `d` with new rows in `own`.
* `Owned own ids p` : every row that the program inserts is owned by an identifier in `ids` or by
  one that it has drawn.
* `Owned.bind` and the rules after it : composed programs, loops and statements.
* `Owned.exec` : what such a program leaves.
-/

namespace OmsWmsTms

namespace Txn

variable {K R E A B : Type}

/-! ### Grown databases -/

section Grown

variable [DecidableEq K]

/-- The rows `w` are the rows `d` with new rows in `own`. -/
structure Grown (own : K → R → Prop) (d w : Dict K R) : Prop where
  old : ∀ key row, d.get? key = some row → w.get? key = some row
  new : ∀ key row, w.get? key = some row → d.get? key = some row ∨ own key row

namespace Grown

variable {own own' : K → R → Prop} {d w w' : Dict K R} {key : K} {row : R}

theorem refl (own : K → R → Prop) (d : Dict K R) : Grown own d d :=
  ⟨fun _ _ h => h, fun _ _ h => .inl h⟩

theorem trans (h : Grown own d w) (h' : Grown own w w') : Grown own d w' where
  old key row hget := h'.old key row (h.old key row hget)
  new key row hget := (h'.new key row hget).elim (h.new key row) .inr

theorem mono (h : Grown own d w) (hown : ∀ key row, own key row → own' key row) :
    Grown own' d w where
  old := h.old
  new key row hget := (h.new key row hget).imp_right (hown key row)

/-- One more row. -/
theorem set (h : Grown own d w) (hfree : w.get? key = none) (hown : own key row) :
    Grown own d (w.set key row) where
  old key' row' hget := by
    rw [Dict.get?_set, if_neg]
    · exact h.old key' row' hget
    · rintro rfl
      rw [h.old key row' hget] at hfree
      cases hfree
  new key' row' hget := by
    rw [Dict.get?_set] at hget
    split_ifs at hget with hkey
    · subst hkey
      cases hget
      exact .inr hown
    · exact h.new key' row' hget

/-- A key that is free later was free before. -/
theorem free (h : Grown own d w) (hfree : w.get? key = none) : d.get? key = none := by
  refine Option.eq_none_iff_forall_not_mem.2 fun row hrow => ?_
  rw [h.old key row hrow] at hfree
  cases hfree

/-- A key under which no new row can be. -/
theorem get?_eq (h : Grown own d w) (hkey : ∀ row, ¬ own key row) : w.get? key = d.get? key := by
  cases hd : d.get? key with
  | some row => exact h.old key row hd
  | none =>
    refine Option.eq_none_iff_forall_not_mem.2 fun row hrow => ?_
    rcases h.new key row hrow with hold | hown
    · rw [hd] at hold
      cases hold
    · exact hkey row hown

end Grown

end Grown

/-! ### Programs -/

/-- Every row that the program inserts is owned by an identifier in `ids` or by one that it has
drawn; it changes no row, and leaves its transaction open. -/
def Owned (own : ℕ → K → R → Prop) (ids : Set ℕ) : Prog K R E A → Prop
  | .ret _ => True
  | .throw _ => True
  | .fresh next => ∀ n, Owned own (insert n ids) (next n)
  | .select _ next => ∀ rows, Owned own ids (next rows)
  | .update _ _ _ _ => False
  | .insert key row next => (∃ n ∈ ids, own n key row) ∧ ∀ free, Owned own ids (next free)
  | .commit _ => False
  | .rollback _ => False

namespace Owned

variable {own : ℕ → K → R → Prop} {ids ids' : Set ℕ} {p : Prog K R E A}

theorem mono (h : Owned own ids p) (hids : ids ⊆ ids') : Owned own ids' p := by
  induction p generalizing ids ids' with
  | ret a => trivial
  | throw e => trivial
  | fresh next ih => exact fun n => ih n (h n) (Set.insert_subset_insert hids)
  | select query next ih => exact fun rows => ih rows (h rows) hids
  | update key guard change next => exact h
  | insert key row next ih =>
    obtain ⟨⟨n, hn, hown⟩, hnext⟩ := h
    exact ⟨⟨n, hids hn, hown⟩, fun free => ih free (hnext free) hids⟩
  | commit next => exact h
  | rollback next => exact h

/-- **Programs in sequence.** -/
theorem bind {f : A → Prog K R E B} (h : Owned own ids p)
    (hf : ∀ a, Owned own ids (f a)) : Owned own ids (p.bind f) := by
  induction p generalizing ids with
  | ret a => exact hf a
  | throw e => trivial
  | fresh next ih =>
    exact fun n => ih n (h n) fun a => (hf a).mono (Set.subset_insert n ids)
  | select query next ih => exact fun rows => ih rows (h rows) hf
  | update key guard change next => exact h
  | insert key row next ih => exact ⟨h.1, fun free => ih free (h.2 free) hf⟩
  | commit next => exact h
  | rollback next => exact h

/-- A program with other exceptions. -/
theorem mapError {E' : Type} {f : E → E'} (h : Owned own ids p) : Owned own ids (p.mapError f) := by
  induction p generalizing ids with
  | ret a => trivial
  | throw e => trivial
  | fresh next ih => exact fun n => ih n (h n)
  | select query next ih => exact fun rows => ih rows (h rows)
  | update key guard change next => exact h
  | insert key row next ih => exact ⟨h.1, fun free => ih free (h.2 free)⟩
  | commit next => exact h
  | rollback next => exact h

/-- **Loops.** -/
theorem forEach {α : Type} {l : List α} {f : α → Prog K R E Unit}
    (hf : ∀ a, Owned own ids (f a)) : Owned own ids (Prog.forEach l f) := by
  induction l with
  | nil => trivial
  | cons a l ih => exact (hf a).bind fun _ => ih

/-! ### Statements -/

theorem ret (a : A) : Owned own ids (.ret a : Prog K R E A) := trivial

theorem query (q : Query K R) : Owned own ids (Prog.query q : Prog K R E _) := fun _ => trivial

/-- A new identifier, and what uses it. -/
theorem newId {f : ℕ → Prog K R E B} (hf : ∀ n, Owned own (insert n ids) (f n)) :
    Owned own ids (Prog.newId.bind f) := hf

theorem ofExcept {x : Except E A} {f : A → Prog K R E B}
    (hf : ∀ a, x = .ok a → Owned own ids (f a)) : Owned own ids ((Prog.ofExcept x).bind f) := by
  cases x with
  | ok a => exact hf a rfl
  | error e => trivial

theorem insertOr {e : E} {key : K} {row : R} {n : ℕ} (hn : n ∈ ids) (hown : own n key row) :
    Owned own ids (Prog.insertOr e key row) := by
  refine ⟨⟨n, hn, hown⟩, fun free => ?_⟩
  cases free <;> trivial

/-! ### Runs -/

variable [DecidableEq K]

/-- **What the program leaves**: the rows that it has found, and rows of its identifiers. -/
theorem exec (h : Owned own ids p) {s : Session K R} {all : Set ℕ} (hids : ids ⊆ all)
    (hdrawn : ∀ n, s.ids n ∈ all) : (p.exec s).2.committed = s.committed ∧
      Grown (fun key row => ∃ n ∈ all, own n key row) s.working (p.exec s).2.working := by
  induction p generalizing s ids with
  | ret a => exact ⟨rfl, .refl _ _⟩
  | throw e => exact ⟨rfl, .refl _ _⟩
  | fresh next ih =>
    exact ih _ (h _) (s := { s with ids := fun n => s.ids (n + 1) })
      (Set.insert_subset (hdrawn 0) hids) fun n => hdrawn (n + 1)
  | select query next ih => exact ih _ (h _) hids hdrawn
  | update key guard change next => exact h.elim
  | insert key row next ih =>
    obtain ⟨⟨n, hn, hown⟩, hnext⟩ := h
    cases hget : s.working.get? key with
    | none =>
      rw [Prog.exec_insert_none hget]
      obtain ⟨hcommitted, hgrown⟩ :=
        ih _ (hnext true) (s := { s with working := s.working.set key row }) hids hdrawn
      exact ⟨hcommitted, ((Grown.refl _ _).set hget ⟨n, hids hn, hown⟩).trans hgrown⟩
    | some row' =>
      rw [Prog.exec_insert_some hget]
      exact ih _ (hnext false) hids hdrawn
  | commit next => exact h.elim
  | rollback next => exact h.elim

/-- A row that is there before the rest of a program is there behind it. -/
theorem get?_ne_none_of_bind {f : A → Prog K R E B} {a : A} {s s' : Session K R} {key : K}
    (hexec : p.exec s = (.ok a, s')) (hf : Owned own ∅ (f a))
    (hkey : s'.working.get? key ≠ none) : ((p.bind f).exec s).2.working.get? key ≠ none := by
  rw [Prog.exec_bind_of_ok hexec]
  obtain ⟨row, hrow⟩ := Option.ne_none_iff_exists'.1 hkey
  have hgrown := (hf.exec (Set.empty_subset Set.univ) fun n => Set.mem_univ (s'.ids n)).2
  rw [hgrown.old key row hrow]
  exact Option.some_ne_none row

end Owned

end Txn

end OmsWmsTms
