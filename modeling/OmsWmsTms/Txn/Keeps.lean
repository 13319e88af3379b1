import OmsWmsTms.Txn.Outline
import OmsWmsTms.Txn.Serial

/-!
# Rows that are kept

A relation between the old and the new contents of a row, which every write respects, relates what
a program has read to what is committed now, however many other programs have committed since.

* `Keeps rel d d'` : every row of `d` is still there in `d'`, in the relation `rel` to what it was.
* `Safe.keeps` : a program whose writes are in the relation keeps the rows when it commits.
* `ReadsKept` : what the open transactions have read is in the relation to what is committed;
  `readsKept_step` keeps it.
-/

namespace OmsWmsTms

namespace Txn

variable {K R E A P : Type} [DecidableEq K] {rel : R → R → Prop} {d d' d'' : Dict K R} {key : K}
  {row : R}

/-- Every row is still there, in the relation `rel` to what it was. -/
def Keeps (rel : R → R → Prop) (d d' : Dict K R) : Prop :=
  ∀ key row, d.get? key = some row → ∃ row', d'.get? key = some row' ∧ rel row row'

/-- A write in the relation: of the key, the row that was there and the new row. -/
def WriteKeeps (rel : R → R → Prop) (_ : K) (old : Option R) (row : R) : Prop :=
  ∀ r, old = some r → rel r row

theorem Keeps.mono {rel' : R → R → Prop} (h : Keeps rel d d')
    (hrel : ∀ r r', rel r r' → rel' r r') :
    Keeps rel' d d' := by
  intro key row hrow
  obtain ⟨row', hrow', h⟩ := h key row hrow
  exact ⟨row', hrow', hrel _ _ h⟩

theorem Keeps.trans [IsTrans R rel] (h : Keeps rel d d') (h' : Keeps rel d' d'') :
    Keeps rel d d'' := by
  intro key row hrow
  obtain ⟨row', hrow', h⟩ := h key row hrow
  obtain ⟨row'', hrow'', h'⟩ := h' key row' hrow'
  exact ⟨row'', hrow'', trans_of rel h h'⟩

/-- What is written whatever is beneath. -/
theorem get?_overlay_eq_of_mem {writes : List (K × R)} (h : key ∈ writes.map Prod.fst)
    (d d' : Dict K R) : (overlay d writes).get? key = (overlay d' writes).get? key := by
  induction writes using List.reverseRecOn with
  | nil => cases h
  | append_singleton writes w ih =>
    obtain ⟨k, r⟩ := w
    rw [overlay_concat, overlay_concat, Dict.get?_set, Dict.get?_set]
    split_ifs with hk
    · rfl
    · exact ih (by simpa [Ne.symm hk] using h)

section Refl

variable [Std.Refl rel]

theorem Keeps.refl (d : Dict K R) : Keeps rel d d := fun _ row h => ⟨row, h, refl_of rel row⟩

theorem keeps_set (h : WriteKeeps rel key (d.get? key) row) : Keeps rel d (d.set key row) := by
  intro key' row' hrow'
  rw [Dict.get?_set]
  split_ifs with hkey
  · subst hkey
    exact ⟨row, rfl, h row' hrow'⟩
  · exact ⟨row', hrow', refl_of rel row'⟩

/-- The writes of an open transaction keep the rows also after other programs have changed rows that
are not locked. -/
theorem Keeps.overlay_congr {writes : List (K × R)} (h : Keeps rel d (overlay d writes))
    (hlocked : ∀ key ∈ writes.map Prod.fst, d'.get? key = d.get? key) :
    Keeps rel d' (overlay d' writes) := by
  intro key row hrow
  by_cases hkey : key ∈ writes.map Prod.fst
  · rw [get?_overlay_eq_of_mem hkey d' d]
    exact h key row (hlocked key hkey ▸ hrow)
  · exact ⟨row, by rw [get?_overlay_of_notMem hkey, hrow], refl_of rel row⟩

/-- **A program whose writes are in the relation keeps the rows when it commits.** -/
theorem Safe.keeps [IsTrans R rel] {ends : Prop} {p : Prog K R E A}
    (hp : Writes ends (WriteKeeps rel) p)
    {c : Contract K R E} (hguar : ∀ l d, Keeps rel d (overlay d l.pending) →
      c.guar l d (overlay d l.pending)) (hexc : ∀ e l d, c.exc e l d) {l : Local K R} {d : Dict K R}
    (h : Keeps rel d (overlay d l.pending)) : Safe c (fun _ _ _ => True) p l d := by
  have hempty (d : Dict K R) : Keeps rel d (overlay d []) := .refl d
  induction p generalizing l d with
  | ret a => exact fun _ _ => trivial
  | throw e => exact fun d' _ => hexc e _ d'
  | fresh next ih => exact fun n => ih n (hp n) h
  | select query next ih =>
    exact fun d' henv => ih _ (hp _) (l := l.see _ _) (h.overlay_congr henv.2)
  | update key guard change next ih =>
    intro d' henv
    have h' := h.overlay_congr henv.2
    refine ⟨fun _ => ih _ (hp.2 _) (l := l.see _ _) h', fun row hrow =>
      ⟨fun hg => ih _ (hp.2 _) ?_, fun _ => ih _ (hp.2 _) (l := l.see _ _) h'⟩⟩
    rw [Local.write, overlay_concat]
    refine h'.trans (keeps_set ?_)
    rw [hrow]
    exact hp.1 row hg
  | insert key row next ih =>
    intro d' henv
    have h' := h.overlay_congr henv.2
    refine ⟨fun hnone => ih _ (hp.2 _) ?_, fun _ _ => ih _ (hp.2 _) (l := l.see _ _) h'⟩
    rw [Local.write, overlay_concat]
    refine h'.trans (keeps_set ?_)
    rw [hnone]
    exact hp.1
  | commit next ih =>
    intro d' henv
    exact ⟨hguar l d' (h.overlay_congr henv.2), ih _ (hp.2 _) (l := l.commit d') (hempty _),
      fun _ => ih _ (hp.2 _) (l := l.abort) (hempty _)⟩
  | rollback next ih => exact fun d' _ => ih hp.2 (l := l.rollback) (hempty d')

end Refl

variable [DecidableEq P]

/-- What an open transaction has read, and not from its own writes, is in the relation to what is
committed. -/
def ReadsKept (rel : R → R → Prop) (s : State P K R E A) : Prop :=
  ∀ p, ∀ o ∈ (s.procs p).loc.observed, ∀ key row, (key, row) ∈ o.rows →
    key ∉ o.pending.map Prod.fst → ∃ row', s.db.get? key = some row' ∧ rel row row'

omit [DecidableEq P] in
theorem readsKept_start (d : Dict K R) (progs : P → Prog K R E A) :
    ReadsKept rel (State.start d progs) := by
  intro p o ho
  cases ho

/-- A valid read gives committed rows. -/
theorem Observation.Valid.get? {o : Observation K R} (h : o.Valid d) (hrow : (key, row) ∈ o.rows)
    (hkey : key ∉ o.pending.map Prod.fst) : d.get? key = some row := by
  rw [← h] at hrow
  have hget := (mem_select.1 hrow).1
  rwa [get?_overlay_of_notMem hkey] at hget

/-- **A step that keeps the rows keeps what has been read.** -/
theorem readsKept_step [IsTrans R rel] {s s' : State P K R E A} {label : Label P}
    (hs : ReadsKept rel s) (h : system.step s label s') (hkeeps : Keeps rel s.db s'.db) :
    ReadsKept rel s' := by
  have hold {p : P} {o : Observation K R} (ho : o ∈ (s.procs p).loc.observed) {key : K} {row : R}
      (hrow : (key, row) ∈ o.rows) (hkey : key ∉ o.pending.map Prod.fst) :
      ∃ row', s'.db.get? key = some row' ∧ rel row row' := by
    obtain ⟨row', hrow', hrel⟩ := hs p o ho key row hrow hkey
    obtain ⟨row'', hrow'', hrel'⟩ := hkeeps key row' hrow'
    exact ⟨row'', hrow'', trans_of rel hrel hrel'⟩
  intro p o ho key row hrow hkey
  cases label with
  | run q n =>
    obtain ⟨-, rfl⟩ := h
    by_cases hp : p = q
    · subst hp
      simp only [State.update, Function.update_self] at ho
      rcases valid_next ho with ho | hvalid
      · exact hold ho hrow hkey
      · exact hkeeps key row (hvalid.get? hrow hkey)
    · simp only [State.update, Function.update_of_ne hp] at ho
      exact hold ho hrow hkey
  | fail q =>
    obtain ⟨next, -, rfl⟩ := h
    by_cases hp : p = q
    · subst hp
      simp [State.update, Local.abort] at ho
    · simp only [State.update, Function.update_of_ne hp] at ho
      exact hold ho hrow hkey

end Txn

end OmsWmsTms
