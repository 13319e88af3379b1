import OmsWmsTms.Imports.OrderSessions

/-!
# When the rows of orders are isolated

A row that fails outside of the database leaves what it has written to the next commit, and one that
fails in it makes the rows behind it fail.

* `Fresh` : the identifiers of the rows differ.
* `Harmless` : no row does either of it to another.
* `orders_isolated_iff` : then, and only then, the rows are isolated.
-/

namespace OmsWmsTms

namespace Imports

open Oms (OmsDb OmsKey OmsRow OmsProg Obtainable FreshIds)
open Txn (Prog Grown StopsAt)

/-! ### What the rows draw -/

/-- The identifiers of the rows differ, and the rows from the number `n` on use none that is in the
database. -/
structure Fresh (draws : ℕ → Draws) (n : ℕ) (d : OmsDb) : Prop where
  injective : ∀ m m' i i', (draws m).ids i = (draws m').ids i' → m = m' ∧ i = i'
  unused : ∀ m, n ≤ m → ∀ i, ∀ key ∈ Oms.idKeys ((draws m).ids i), d.get? key = none

/-- The rows of the database that are from a row of the file before the number `n`. -/
def OwnBefore (draws : ℕ → Draws) (n : ℕ) (key : OmsKey) (row : OmsRow) : Prop :=
  ∃ m < n, OwnRow (draws m) key row

section Own

variable {draws : ℕ → Draws} {n n' m m' : ℕ} {d w w' : OmsDb} {key : OmsKey} {row : OmsRow}
  {orderNo orderNo' : String} {id id' : Uuid}

theorem own_idKeys (h : Own orderNo id key row) (hkey : key ∈ Oms.idKeys id') : id' = id := by
  simp only [Oms.idKeys, List.mem_cons, List.not_mem_nil, or_false] at hkey
  rcases hkey with rfl | rfl | rfl | rfl <;> cases row <;> simp_all [Own]

/-- A row is of one identifier. -/
theorem own_unique (h : Own orderNo id key row) (h' : Own orderNo' id' key row) : id = id' := by
  cases key <;> cases row <;> simp_all [Own]

theorem Fresh.freshIds (h : Fresh draws n d) (hm : n ≤ m) : FreshIds (draws m).ids d :=
  ⟨fun i i' heq => (h.injective m m i i' heq).2, h.unused m hm⟩

theorem Fresh.own_unique (h : Fresh draws n d) (hm : OwnRow (draws m) key row)
    (hm' : OwnRow (draws m') key row) : m = m' := by
  obtain ⟨_, ⟨i, rfl⟩, hown⟩ := hm
  obtain ⟨_, ⟨i', rfl⟩, hown'⟩ := hm'
  exact (h.injective m m' i i' (Imports.own_unique hown hown')).1

/-- What earlier rows have written is not in the way of the identifiers of later ones. -/
theorem Fresh.grown (h : Fresh draws n d) (hn : n ≤ n') (hw : Grown (OwnBefore draws n') d w) :
    Fresh draws n' w where
  injective := h.injective
  unused m hm i key hkey := by
    refine Option.eq_none_iff_forall_not_mem.2 fun row hrow => ?_
    rcases hw.new key row hrow with hold | ⟨m', hm', _, ⟨i', rfl⟩, hown⟩
    · rw [h.unused m (hn.trans hm) i key hkey] at hold
      cases hold
    · have hlt := (h.injective m m' i i' (own_idKeys hown hkey)).1
      omega

theorem grown_ownBefore (h : Grown (OwnBefore draws n) d w)
    (h' : Grown (OwnRow (draws n)) w w') : Grown (OwnBefore draws (n + 1)) d w' := by
  have hold : Grown (OwnBefore draws (n + 1)) d w :=
    h.mono fun key row ⟨m, hm, hown⟩ => ⟨m, Nat.lt_succ_of_lt hm, hown⟩
  exact hold.trans (h'.mono fun key row hown => ⟨n, n.lt_succ_self, hown⟩)

end Own

/-! ### What earlier rows have written -/

section Grown

variable {py : Stdlib} {seen : ℕ → Draws} {n m : ℕ} {d w : OmsDb}

/-- New rows under codes that could be inserted change nothing for later ones. -/
theorem obtainable_iff_of_grown {α : Type} {own : OmsKey → OmsRow → Prop}
    {f : OmsRow → Option α} {key : OmsKey} {code : String} (h : Grown own d w)
    (hown : ∀ row, own key row → (f row).isSome = true ∧ code.length ≤ 50) :
    Obtainable w key f code ↔ Obtainable d key f code := by
  unfold Obtainable
  cases hd : d.get? key with
  | some row => rw [h.old key row hd]
  | none =>
    cases hw : w.get? key with
    | none => rfl
    | some row =>
      rcases h.new key row hw with hold | hnew
      · rw [hd] at hold
        cases hold
      · obtain ⟨hsome, hlength⟩ := hown row hnew
        exact iff_of_true (.inl hsome) (.inr ⟨rfl, hlength⟩)

theorem customerStorable_iff (h : Grown (OwnBefore seen n) d w) (data : OrderData) :
    CustomerStorable w data ↔ CustomerStorable d data := by
  refine obtainable_iff_of_grown h fun row hown => ?_
  obtain ⟨m, -, _, -, hown⟩ := hown
  cases row <;> simp_all [Own, OmsRow.customer?]

theorem lineStorable_eq (h : Grown (OwnBefore seen n) d w) :
    LineStorable w = LineStorable d := by
  have hsku (sku : Json) : SkuStorable w sku ↔ SkuStorable d sku := by
    cases sku with
    | str code =>
      refine or_congr_right (obtainable_iff_of_grown h fun row hown => ?_)
      obtain ⟨m, -, _, -, hown⟩ := hown
      cases row <;> simp_all [Own, OmsRow.sku?]
    | _ => exact Iff.rfl
  funext line
  refine propext ⟨fun hline => ?_, fun hline => ?_⟩
  · exact ⟨(hsku _).1 hline.sku, hline.gtin, hline.productName, hline.quantity, hline.unitPrice⟩
  · exact ⟨(hsku _).2 hline.sku, hline.gtin, hline.productName, hline.quantity, hline.unitPrice⟩

variable {draws : Draws} {taken taken' : Set String} {row : CsvRow}

theorem Numbered.trans {w' : OmsDb} (h : Numbered d w taken) (h' : Numbered w w' taken') :
    Numbered d w' (taken ∪ taken') := by
  intro number
  rw [h' number, h number, or_assoc, Set.mem_union]

theorem orderFits_iff (h : Numbered d w taken) (lines : List Line) :
    OrderFits w draws lines ↔ OrderFits d draws lines ∧ draws.orderNo ∉ taken := by
  have hfree : w.get? (.orderNo draws.orderNo) = none ↔
      d.get? (.orderNo draws.orderNo) = none ∧ draws.orderNo ∉ taken := by
    rw [← not_iff_not, not_and_or, not_not]
    exact h draws.orderNo
  refine ⟨fun hfits => ?_, fun ⟨hfits, hnumber⟩ => ?_⟩
  · obtain ⟨hd, hnumber⟩ := hfree.1 hfits.free
    exact ⟨⟨hfits.number, hd, hfits.total⟩, hnumber⟩
  · exact ⟨hfits.number, hfree.2 ⟨hfits.free, hnumber⟩, hfits.total⟩

/-- **Whether a row can be stored** depends on what earlier rows have written only for the number of
its order. -/
theorem storable_iff (h : Grown (OwnBefore seen n) d w) (hnumbered : Numbered d w taken) :
    Storable py draws w row ↔ Storable py draws d row ∧ draws.orderNo ∉ taken := by
  unfold Storable OrderStorable
  simp only [customerStorable_iff h, lineStorable_eq h, orderFits_iff hnumbered]
  constructor
  · rintro ⟨data, hread, hcustomer, lines, hlines, ⟨hfits, hnumber⟩, hall⟩
    exact ⟨⟨data, hread, hcustomer, lines, hlines, hfits, hall⟩, hnumber⟩
  · rintro ⟨⟨data, hread, hcustomer, lines, hlines, hfits, hall⟩, hnumber⟩
    exact ⟨data, hread, hcustomer, lines, hlines, ⟨hfits, hnumber⟩, hall⟩

/-- So does whether it leaves an order. -/
theorem leavesOrder_iff (h : Grown (OwnBefore seen n) d w) (hnumbered : Numbered d w taken) :
    LeavesOrder py draws w row ↔ LeavesOrder py draws d row ∧ draws.orderNo ∉ taken := by
  unfold LeavesOrder
  simp only [customerStorable_iff h, lineStorable_eq h, orderFits_iff hnumbered]
  constructor
  · rintro ⟨data, lines, hread, hcustomer, hlines, ⟨hfits, hnumber⟩, hstops⟩
    exact ⟨⟨data, lines, hread, hcustomer, hlines, hfits, hstops⟩, hnumber⟩
  · rintro ⟨⟨data, lines, hread, hcustomer, hlines, hfits, hstops⟩, hnumber⟩
    exact ⟨data, lines, hread, hcustomer, hlines, ⟨hfits, hnumber⟩, hstops⟩

theorem interrupted_iff {data : OrderData} (hread : readOrder py row = .ok data) :
    Interrupted py draws d data ↔
      (CustomerStorable d data ∧ ∃ e, readLines py data.items = .error e) ∨
        LeavesOrder py draws d row := by
  constructor
  · rintro ⟨hcustomer, herror | ⟨lines, hlines, hfits, hstops⟩⟩
    · exact .inl ⟨hcustomer, herror⟩
    · exact .inr ⟨data, lines, hread, hcustomer, hlines, hfits, hstops⟩
  · rintro (⟨hcustomer, herror⟩ | ⟨data', lines, hread', hcustomer, hlines, hfits, hstops⟩)
    · exact ⟨hcustomer, .inl herror⟩
    · obtain rfl := Except.ok.inj (hread.symm.trans hread')
      exact ⟨hcustomer, .inr ⟨lines, hlines, hfits, hstops⟩⟩

/-- **A row that cannot be stored** fails in the database if it does so on its own, or if the number
of its order is taken by an earlier row. -/
theorem aborts_iff (h : Grown (OwnBefore seen n) d w) (hnumbered : Numbered d w taken)
    (hstore : ¬ Storable py draws d row) : Aborts py draws w row ↔
      Aborts py draws d row ∨ LeavesOrder py draws d row ∧ draws.orderNo ∈ taken := by
  have hstore' : ¬ Storable py draws w row := fun hw => hstore ((storable_iff h hnumbered).1 hw).1
  cases hread : readOrder py row with
  | error e => simp [Aborts, LeavesOrder, hread]
  | ok data =>
    have hnot (d' : OmsDb) (hd' : ¬ Storable py draws d' row) :
        Aborts py draws d' row ↔ ¬ Interrupted py draws d' data := by
      refine ⟨fun ⟨data', hread', _, habort⟩ => ?_, fun habort =>
        ⟨data, hread, fun horder => hd' ⟨data, hread, horder⟩, habort⟩⟩
      obtain rfl := Except.ok.inj (hread.symm.trans hread')
      exact habort
    have hmalformed : LeavesOrder py draws d row → ¬ ∃ e, readLines py data.items = .error e := by
      rintro ⟨data', lines, hread', -, hlines, -⟩ ⟨e, herror⟩
      obtain rfl := Except.ok.inj (hread.symm.trans hread')
      rw [herror] at hlines
      cases hlines
    rw [hnot w hstore', hnot d hstore, interrupted_iff hread, interrupted_iff hread,
      customerStorable_iff h, leavesOrder_iff h hnumbered]
    tauto

end Grown

/-! ### A row on its own -/

section Alone

variable {py : Stdlib} {draws : Draws} {d : OmsDb} {row : CsvRow}

/-- A row whose order can be stored, in a session that has written nothing. -/
theorem exists_importAlone (hids : FreshIds draws.ids d) (h : Storable py draws d row) :
    ∃ d', importAlone py draws row d = .ok d' ∧
      importRow py draws row (.start d) = (.ok (), .start d') := by
  obtain ⟨d', hrow, -⟩ := importRow_storable (c := d) hids h
  refine ⟨d', ?_, hrow⟩
  rw [importAlone, Session.start, hrow]
  rfl

/-- A row that fails without writing anything, though it can be read, has malformed items. -/
theorem WritesNothing.of_read {data : OrderData} (h : WritesNothing py d row)
    (hread : readOrder py row = .ok data) :
    CustomerThere d data ∧ ∃ e, readLines py data.items = .error e := by
  rcases h with ⟨e, herror⟩ | ⟨data', hread', hbroken⟩
  · rw [hread] at herror
    cases herror
  · obtain rfl := Except.ok.inj (hread.symm.trans hread')
    exact hbroken

theorem WritesNothing.not_aborts (h : WritesNothing py d row) :
    ¬ Aborts py draws d row := by
  rintro ⟨data, hread, -, hnot⟩
  obtain ⟨hcustomer, hlines⟩ := h.of_read hread
  exact hnot ⟨.inl hcustomer, .inl hlines⟩

theorem WritesNothing.leftNumbers_eq (h : WritesNothing py d row) :
    leftNumbers py draws d row = ∅ := by
  refine Set.eq_empty_of_forall_notMem fun number hnumber => ?_
  obtain ⟨⟨data, lines, hread, -, hlines, -⟩, -⟩ := hnumber
  obtain ⟨-, e, herror⟩ := h.of_read hread
  rw [hlines] at herror
  cases herror

/-- A row that neither is stored nor fails in the database fails with the transaction open. -/
theorem importRow_open {c w : OmsDb} (hids : FreshIds draws.ids w)
    (hstore : ¬ Storable py draws w row) (habort : ¬ Aborts py draws w row) :
    ∃ e w', importRow py draws row ⟨c, w, false⟩ = (.error e, ⟨c, w', false⟩) ∧
      Grown (OwnRow draws) w w' ∧ Numbered w w' (leftNumbers py draws w row) := by
  by_cases hwrites : WritesNothing py w row
  · obtain ⟨e, he⟩ : ∃ e, importRow py draws row ⟨c, w, false⟩ = (.error e, ⟨c, w, false⟩) :=
      importRow_unwritten hwrites
    refine ⟨e, w, he, .refl _ w, fun number => ?_⟩
    rw [hwrites.leftNumbers_eq, or_iff_left (Set.notMem_empty number)]
  · obtain ⟨e, w', -, he, hgrown, hnumbered, -⟩ :=
      importRow_pending (c := c) hids hstore habort hwrites
    exact ⟨e, w', he, hgrown, hnumbered⟩

theorem importAlone_error_iff (hids : FreshIds draws.ids d) :
    (∃ e, importAlone py draws row d = .error e) ↔ ¬ Storable py draws d row := by
  constructor
  · rintro ⟨e, he⟩ hstore
    obtain ⟨d', hok, -⟩ := exists_importAlone hids hstore
    rw [he] at hok
    cases hok
  · intro hstore
    have herror {e : RowError} {s : Session}
        (h : importRow py draws row (.start d) = (.error e, s)) :
        ∃ e, importAlone py draws row d = .error e := ⟨e, by rw [importAlone, h]⟩
    by_cases habort : Aborts py draws d row
    · obtain ⟨e, he⟩ := importRow_aborts (c := d) hids habort
      exact herror he
    · obtain ⟨e, w', he, -⟩ := importRow_open (c := d) hids hstore habort
      exact herror he

end Alone

/-! ### The loop -/

variable (py : Stdlib) (draws : ℕ → Draws)

/-- The loop over the rows from the number `n` on. -/
def importRows (n : ℕ) (rows : List CsvRow) (s : Session) : Batch.Report RowError × Session :=
  Batch.loop (fun rowNum => importRow py (draws rowNum)) n rows s

/-- Each row in a session of its own. -/
def rowAlone (rowNum : ℕ) (row : CsvRow) (d : OmsDb) : Except RowError OmsDb :=
  importAlone py (draws rowNum) row d

/-- One of the rows fails in the database, behind orders with the numbers in `taken`: it does so on
its own, or its order has one of the numbers, or the number of an order that a row before it
leaves. -/
def LosesTransaction (d : OmsDb) : Set String → ℕ → List CsvRow → Prop
  | _, _, [] => False
  | taken, n, row :: rows =>
    Aborts py (draws n) d row ∨
      (LeavesOrder py (draws n) d row ∧ (draws n).orderNo ∈ taken) ∨
      LosesTransaction d (taken ∪ leftNumbers py (draws n) d row) (n + 1) rows

/-- None of the rows can be stored, and one of them fails in the database. -/
def RolledBack (taken : Set String) (n : ℕ) (rows : List CsvRow) (d : OmsDb) : Prop :=
  (∀ item ∈ rows.zipIdx n, ¬ Storable py (draws item.2) d item.1) ∧
    LosesTransaction py draws d taken n rows

/-- **The rows do no harm to each other**: each is stored or fails before it writes anything, up to
a row from which on none can be stored and one fails in the database. -/
def Harmless : ℕ → List CsvRow → OmsDb → Prop
  | _, [], _ => True
  | n, row :: rows, d =>
    ((Storable py (draws n) d row ∨ WritesNothing py d row) ∧
      Harmless (n + 1) rows (Batch.atomic (rowAlone py draws) n row d).2) ∨
    RolledBack py draws ∅ n (row :: rows) d

/-- The rows are isolated: those are reported to fail which fail on their own, and the database is
what the others leave. -/
def LeavesAlone (n : ℕ) (rows : List CsvRow) (d : OmsDb) (s : Session) : Prop :=
  (importRows py draws n rows s).1.failed = Batch.failing (rowAlone py draws) n rows d ∧
    (importRows py draws n rows s).2.close = Batch.after (rowAlone py draws) n rows d

section Loop

variable {py draws} {n k : ℕ} {rows : List CsvRow} {d w : OmsDb}

theorem rolledBack_cons {taken : Set String} {row : CsvRow} :
    RolledBack py draws taken n (row :: rows) d ↔
    (¬ Storable py (draws n) d row ∧
      ∀ item ∈ rows.zipIdx (n + 1), ¬ Storable py (draws item.2) d item.1) ∧
    (Aborts py (draws n) d row ∨
      (LeavesOrder py (draws n) d row ∧ (draws n).orderNo ∈ taken) ∨
      LosesTransaction py draws d (taken ∪ leftNumbers py (draws n) d row) (n + 1) rows) := by
  rw [RolledBack, List.zipIdx_cons, List.forall_mem_cons, LosesTransaction]

theorem le_of_mem_zipIdx {item : CsvRow × ℕ} (h : item ∈ rows.zipIdx n) : n ≤ item.2 := by
  obtain ⟨row, i⟩ := item
  exact (List.mem_zipIdx h).1

theorem harmless_of_rolledBack (h : RolledBack py draws ∅ n rows d) :
    Harmless py draws n rows d := by
  cases rows with
  | nil => trivial
  | cons row rows => exact .inr h

/-- All rows fail on their own. -/
theorem failing_eq_iff (hfresh : Fresh draws n d) :
    (List.range' n rows.length = Batch.failing (rowAlone py draws) n rows d ∧
      d = Batch.after (rowAlone py draws) n rows d) ↔
    ∀ item ∈ rows.zipIdx n, ¬ Storable py (draws item.2) d item.1 := by
  have hiff : (∀ item ∈ rows.zipIdx n, ∃ e, rowAlone py draws item.2 item.1 d = .error e) ↔
      ∀ item ∈ rows.zipIdx n, ¬ Storable py (draws item.2) d item.1 :=
    forall₂_congr fun item hitem =>
      importAlone_error_iff (hfresh.freshIds (le_of_mem_zipIdx hitem))
  rw [← hiff, eq_comm, Batch.failing_eq_range'_iff, and_iff_left_iff_imp]
  exact fun h => (Batch.after_of_forall_error h).symm

/-- Behind a transaction that is lost, every row is reported to fail. -/
theorem importRows_deactive (py : Stdlib) (draws : ℕ → Draws) (n : ℕ) (rows : List CsvRow)
    (s : Session) (h : s.deactive = true) :
    (importRows py draws n rows s).1.failed = List.range' n rows.length ∧
      (importRows py draws n rows s).2 = s := by
  have hstuck (rowNum : ℕ) (row : CsvRow) (t : Session) (ht : t = s) :
      ∃ e t', importRow py (draws rowNum) row t = (.error e, t') ∧ t' = s := by
    subst ht
    obtain ⟨e, he⟩ := importRow_deactive h
    exact ⟨e, t, he, rfl⟩
  refine ⟨Batch.failed_of_stuck hstuck n rows rfl, ?_⟩
  refine Batch.loop_invariant (P := fun t => t = s) (fun rowNum row t ht => ?_) n rows rfl
  obtain ⟨e, t', he, ht'⟩ := hstuck rowNum row t ht
  rw [he]
  exact ht'

theorem leavesAlone_cons_ok {row : CsvRow} {d' : OmsDb} {s s' : Session}
    (hrow : importRow py (draws n) row s = (.ok (), s'))
    (halone : rowAlone py draws n row d = .ok d') :
    LeavesAlone py draws n (row :: rows) d s ↔ LeavesAlone py draws (n + 1) rows d' s' := by
  unfold LeavesAlone importRows
  rw [Batch.loop_cons_ok hrow, Batch.failing_cons_ok halone, Batch.after_cons_ok halone,
    Batch.Report.failed_cons_ok]

theorem leavesAlone_cons_error {row : CsvRow} {e e' : RowError} {s s' : Session}
    (hrow : importRow py (draws n) row s = (.error e, s'))
    (halone : rowAlone py draws n row d = .error e') :
    LeavesAlone py draws n (row :: rows) d s ↔ LeavesAlone py draws (n + 1) rows d s' := by
  unfold LeavesAlone importRows
  rw [Batch.loop_cons_error hrow, Batch.failing_cons_error halone,
    Batch.after_cons_error halone, Batch.Report.failed_cons_error, List.cons_inj_right]

/-- A row that is stored on its own, and fails in the session. -/
theorem not_leavesAlone_cons {row : CsvRow} {d' : OmsDb} {e : RowError} {s s' : Session}
    (hrow : importRow py (draws n) row s = (.error e, s'))
    (halone : rowAlone py draws n row d = .ok d') :
    ¬ LeavesAlone py draws n (row :: rows) d s := by
  rintro ⟨hfailed, -⟩
  rw [importRows, Batch.loop_cons_error hrow, Batch.failing_cons_ok halone,
    Batch.Report.failed_cons_error] at hfailed
  have hmem : n ∈ Batch.failing (rowAlone py draws) (n + 1) rows d' := hfailed ▸ List.mem_cons_self
  exact absurd (Batch.mem_failed_le _ hmem) (Nat.not_succ_le_self n)

theorem leavesAlone_deactive_iff (hfresh : Fresh draws n d) (w : OmsDb) :
    LeavesAlone py draws n rows d ⟨d, w, true⟩ ↔
      ∀ item ∈ rows.zipIdx n, ¬ Storable py (draws item.2) d item.1 := by
  obtain ⟨hfailed, hsession⟩ := importRows_deactive py draws n rows ⟨d, w, true⟩ rfl
  rw [LeavesAlone, hfailed, hsession]
  exact failing_eq_iff hfresh

/-- The rows on their own add rows of their own. -/
theorem after_grown (n : ℕ) (rows : List CsvRow) (d : OmsDb) :
    Grown (fun key row => ∃ m, n ≤ m ∧ OwnRow (draws m) key row) d
      (Batch.after (rowAlone py draws) n rows d) := by
  induction rows generalizing n d with
  | nil => exact .refl _ _
  | cons row rows ih =>
    have hlater (d : OmsDb) : Grown (fun key row => ∃ m, n ≤ m ∧ OwnRow (draws m) key row) d
        (Batch.after (rowAlone py draws) (n + 1) rows d) :=
      (ih (n + 1) d).mono fun key row ⟨m, hm, hown⟩ => ⟨m, Nat.le_of_succ_le hm, hown⟩
    cases halone : rowAlone py draws n row d with
    | error e =>
      rw [Batch.after_cons_error halone]
      exact hlater d
    | ok d' =>
      rw [Batch.after_cons_ok halone]
      refine Grown.trans ?_ (hlater d')
      exact (importAlone_grown halone).mono fun key row hown => ⟨n, Nat.le_refl n, hown⟩

/-- Something that an earlier row has written is not what the rows leave on their own. -/
theorem ne_after {key : OmsKey} {value : OmsRow} {n₀ : ℕ} (hfresh : Fresh draws n₀ d)
    (hfree : d.get? key = none) (hown : OwnBefore draws n key value)
    {left : OmsDb} (hleft : left.get? key = some value) (rows : List CsvRow) :
    left ≠ Batch.after (rowAlone py draws) n rows d := by
  rintro rfl
  rcases (after_grown n rows d).new key value hleft with hold | ⟨m, hm, hnew⟩
  · rw [hfree] at hold
    cases hold
  · obtain ⟨m', hm', hown⟩ := hown
    have heq := hfresh.own_unique hnew hown
    omega

/-- What is committed stays, and so does what is pending, unless it is rolled back. -/
theorem importRows_keeps {key : OmsKey} {value : OmsRow} (n : ℕ) (rows : List CsvRow)
    {s : Session} (hcommitted : s.committed.get? key = some value)
    (hworking : s.working.get? key = some value) :
    (importRows py draws n rows s).2.close.get? key = some value := by
  have hboth : (importRows py draws n rows s).2.committed.get? key = some value ∧
      (importRows py draws n rows s).2.working.get? key = some value :=
    Batch.loop_invariant
      (P := fun s : Session => s.committed.get? key = some value ∧ s.working.get? key = some value)
      (fun rowNum row s hs => importRow_keeps row hs.1 hs.2) n rows ⟨hcommitted, hworking⟩
  unfold Session.close
  split
  · exact hboth.1
  · exact hboth.2

/-- The number that is not taken is left, whatever is pending. -/
theorem leftNumbers_eq {taken : Set String} {row : CsvRow}
    (hgrown : Grown (OwnBefore draws n) d w) (hnumbered : Numbered d w taken)
    (h : ¬ (LeavesOrder py (draws n) d row ∧ (draws n).orderNo ∈ taken)) :
    leftNumbers py (draws n) w row = leftNumbers py (draws n) d row := by
  ext number
  refine and_congr_left fun _ => ?_
  rw [leavesOrder_iff hgrown hnumbered, and_iff_left_iff_imp]
  exact fun hleaves htaken => h ⟨hleaves, htaken⟩

/-- Behind a row that has left something pending, one that is stored on its own commits it too, or
fails since the number of its order is taken. -/
theorem not_leavesAlone_of_storable {n₀ : ℕ} {row : CsvRow} (hfresh : Fresh draws n₀ d)
    (hn : n₀ ≤ n) (hgrown : Grown (OwnBefore draws n) d w) {key : OmsKey} {value : OmsRow}
    (hfree : d.get? key = none) (hkey : w.get? key = some value)
    (hown : OwnBefore draws n key value) (hstore : Storable py (draws n) d row) :
    ¬ LeavesAlone py draws n (row :: rows) d ⟨d, w, false⟩ := by
  intro h
  have hfreshw : FreshIds (draws n).ids w := (hfresh.grown hn hgrown).freshIds (Nat.le_refl n)
  obtain ⟨d', halone, -⟩ := exists_importAlone (hfresh.freshIds hn) hstore
  by_cases hstorew : Storable py (draws n) w row
  · -- what is pending is committed with this row
    obtain ⟨w', hrow, hgrown'⟩ := importRow_storable (c := d) hfreshw hstorew
    have hkey' : w'.get? key = some value := hgrown'.old key value hkey
    have hleft : (importRows py draws (n + 1) rows ⟨w', w', false⟩).2.close.get? key =
        some value := importRows_keeps (n + 1) rows hkey' hkey'
    have hafter : Batch.after (rowAlone py draws) n (row :: rows) d =
        Batch.after (rowAlone py draws) (n + 1) rows d' := Batch.after_cons_ok halone
    have hclose := ((leavesAlone_cons_ok hrow halone).1 h).2.trans hafter.symm
    exact ne_after hfresh hfree hown hleft (row :: rows) hclose
  · -- the number of its order is taken
    by_cases habortw : Aborts py (draws n) w row
    · obtain ⟨e, hrow⟩ := importRow_aborts (c := d) hfreshw habortw
      exact not_leavesAlone_cons hrow halone h
    · obtain ⟨e, w', hrow, -⟩ := importRow_open (c := d) hfreshw hstorew habortw
      exact not_leavesAlone_cons hrow halone h

/-- **Behind a row that has left something pending**, the rows are isolated exactly if it is rolled
back before the next commit. -/
theorem leavesAlone_pending_iff {n₀ : ℕ} {taken : Set String} (hfresh : Fresh draws n₀ d)
    (hn : n₀ ≤ n) (hgrown : Grown (OwnBefore draws n) d w) (hnumbered : Numbered d w taken)
    {key : OmsKey} {value : OmsRow} (hfree : d.get? key = none) (hkey : w.get? key = some value) :
    LeavesAlone py draws n rows d ⟨d, w, false⟩ ↔ RolledBack py draws taken n rows d := by
  have hown : OwnBefore draws n key value := by
    refine (hgrown.new key value hkey).resolve_left fun hold => ?_
    rw [hfree] at hold
    cases hold
  induction rows generalizing n w taken with
  | nil =>
    -- the end of the request commits it
    refine iff_of_false (fun h => ?_) fun h => h.2
    exact ne_after hfresh hfree hown hkey [] h.2
  | cons row rows ih =>
    have hfreshd : FreshIds (draws n).ids d := hfresh.freshIds hn
    have hfreshw : FreshIds (draws n).ids w := (hfresh.grown hn hgrown).freshIds (Nat.le_refl n)
    have hstorable : Storable py (draws n) w row ↔
        Storable py (draws n) d row ∧ (draws n).orderNo ∉ taken := storable_iff hgrown hnumbered
    rw [rolledBack_cons]
    by_cases hstore : Storable py (draws n) d row
    · exact iff_of_false (not_leavesAlone_of_storable hfresh hn hgrown hfree hkey hown hstore)
        fun h => h.1.1 hstore
    obtain ⟨e', halone⟩ := (importAlone_error_iff hfreshd).2 hstore
    have habort := aborts_iff hgrown hnumbered hstore
    by_cases habortw : Aborts py (draws n) w row
    · obtain ⟨e, hrow⟩ := importRow_aborts (c := d) hfreshw habortw
      have hfresh' : Fresh draws (n + 1) d := hfresh.grown (Nat.le_succ_of_le hn) (.refl _ d)
      rw [leavesAlone_cons_error hrow halone, leavesAlone_deactive_iff hfresh', ← or_assoc]
      exact ⟨fun h => ⟨⟨hstore, h⟩, .inl (habort.1 habortw)⟩, fun h => h.1.2⟩
    · obtain ⟨e, w', hrow, hgrown', hnumbered'⟩ :=
        importRow_open (c := d) hfreshw (fun h => hstore (hstorable.1 h).1) habortw
      have hown' : OwnBefore draws (n + 1) key value := by
        obtain ⟨m, hm, hown⟩ := hown
        exact ⟨m, Nat.lt_succ_of_lt hm, hown⟩
      obtain ⟨habortd, hleaves⟩ := not_or.1 (mt habort.2 habortw)
      rw [leftNumbers_eq hgrown hnumbered hleaves] at hnumbered'
      refine (leavesAlone_cons_error hrow halone).trans ((ih (Nat.le_succ_of_le hn)
        (grown_ownBefore hgrown hgrown') (hnumbered.trans hnumbered')
        (hgrown'.old key value hkey) hown').trans ?_)
      simp [RolledBack, hstore, habortd, hleaves]

/-- **The rows are isolated exactly if they do no harm to each other.** -/
theorem leavesAlone_iff (hfresh : Fresh draws n d) :
    LeavesAlone py draws n rows d (.start d) ↔ Harmless py draws n rows d := by
  induction rows generalizing n d with
  | nil => exact iff_of_true ⟨rfl, rfl⟩ trivial
  | cons row rows ih =>
    have hids : FreshIds (draws n).ids d := hfresh.freshIds (Nat.le_refl n)
    rw [Harmless, rolledBack_cons]
    by_cases hstore : Storable py (draws n) d row
    · -- the row is stored
      obtain ⟨d', halone, hrow⟩ := exists_importAlone hids hstore
      have hown : Grown (OwnBefore draws (n + 1)) d d' :=
        grown_ownBefore (.refl _ d) (importAlone_grown halone)
      have hatomic : Batch.atomic (rowAlone py draws) n row d = (.ok (), d') :=
        Batch.atomic_ok halone
      rw [leavesAlone_cons_ok hrow halone, ih (hfresh.grown (Nat.le_succ n) hown), hatomic]
      simp [hstore]
    obtain ⟨e', halone⟩ := (importAlone_error_iff hids).2 hstore
    have hfresh' : Fresh draws (n + 1) d := hfresh.grown (Nat.le_succ n) (.refl _ d)
    have hatomic : Batch.atomic (rowAlone py draws) n row d = (.error e', d) :=
      Batch.atomic_error halone
    rw [hatomic]
    by_cases hwrites : WritesNothing py d row
    · -- nothing is pending
      obtain ⟨e, hrow⟩ : ∃ e, importRow py (draws n) row (.start d) = (.error e, .start d) :=
        importRow_unwritten hwrites
      rw [leavesAlone_cons_error (s := .start d) hrow halone]
      refine (ih hfresh').trans ?_
      simp only [hwrites, hwrites.not_aborts, hwrites.leftNumbers_eq, hstore,
        Set.mem_empty_iff_false, Set.union_empty, and_false, or_true, true_and, not_false_eq_true,
        false_or]
      exact ⟨.inl, fun h => h.elim id harmless_of_rolledBack⟩
    by_cases habort : Aborts py (draws n) d row
    · -- the transaction is lost
      obtain ⟨e, hrow⟩ := importRow_aborts (c := d) hids habort
      rw [leavesAlone_cons_error (s := .start d) hrow halone, leavesAlone_deactive_iff hfresh']
      simp [hstore, hwrites, habort]
    · -- something is pending
      obtain ⟨e, w', key, hrow, hgrown, hnumbered, hfree, hkey⟩ :=
        importRow_pending (c := d) hids hstore habort hwrites
      obtain ⟨value, hvalue⟩ := Option.ne_none_iff_exists'.1 hkey
      rw [leavesAlone_cons_error (s := .start d) hrow halone,
        leavesAlone_pending_iff hfresh (Nat.le_succ n) (grown_ownBefore (.refl _ d) hgrown)
          hnumbered hfree hvalue, RolledBack]
      simp [hstore, hwrites, habort]

/-- **When the rows of orders are isolated**: the reader reads the text to its end, and the rows do
no harm to each other. -/
theorem orders_isolated_iff (csvText : String) (hfresh : Fresh draws 2 d) :
    Batch.Isolated (rowAlone py draws) 2 (Csv.dictRows (Csv.excel.read csvText.toList).1) d
        (handleOrdersImport py draws csvText d) ↔
      (Csv.excel.read csvText.toList).2 = none ∧
        Harmless py draws 2 (Csv.dictRows (Csv.excel.read csvText.toList).1) d := by
  unfold handleOrdersImport
  rcases hread : Csv.excel.read csvText.toList with ⟨records, _ | error⟩
  · rw [← leavesAlone_iff hfresh]
    simp only [true_and]
    change Batch.Isolated _ _ _ _ (.ok (importRows py draws 2 (Csv.dictRows records) (.start d)).1,
      (importRows py draws 2 (Csv.dictRows records) (.start d)).2.close) ↔ _
    constructor
    · rintro ⟨report, hanswer, -, hfailed, hclose⟩
      obtain rfl := Except.ok.inj hanswer
      exact ⟨hfailed, hclose⟩
    · rintro ⟨hfailed, hclose⟩
      exact ⟨_, rfl, Batch.success_add_length _ _ _ _, hfailed, hclose⟩
  · exact iff_of_false (fun ⟨report, hanswer, _⟩ => by cases hanswer) fun h => by cases h.1

end Loop

end Imports

end OmsWmsTms
