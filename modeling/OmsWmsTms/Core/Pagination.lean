import OmsWmsTms.Core.Errors
import OmsWmsTms.Core.Ids
import OmsWmsTms.Data.Decimal
import OmsWmsTms.Data.Paging

/-!
# Pagination

`paginate` of `src/core/pagination.py`, and `list_warehouses` of `src/wms/service.py`, which calls it.
The database may choose another order of the rows with one `created_at` for each query.

* `offsetLimit` : `OFFSET` and `LIMIT`.
* `paginate`, `listWarehouses` : a page, with the number of pages.
* `ReturnsOnce` : a walk through the pages returns each row once.
* `returnsOnce_iff` : what it takes, for any function that returns pages.
-/

namespace OmsWmsTms

namespace Pagination

open Paging

/-! ### The number of pages -/

/-- The float next to a rational, whose exponent is in range: 53 digits, half to even. -/
def toFloat (x : ℚ) : ℚ :=
  if x = 0 then 0
  else
    let unit : ℚ := 2 ^ (Int.log 2 |x| - 52)
    roundHalfEven (x / unit) * unit

/-- `math.ceil(total / page_size)`, where the quotient is a float. -/
def totalPages (total : ℕ) (pageSize : ℤ) : ℕ :=
  if 0 < pageSize ∧ 0 < total then ⌈toFloat (total / pageSize)⌉.toNat else 0

/-- A float is next to its rational. -/
theorem sub_toFloat_le {x : ℚ} (hx : 0 < x) : x - toFloat x ≤ x / 2 ^ 53 := by
  have hunit : (0 : ℚ) < 2 ^ (Int.log 2 |x| - 52) := zpow_pos (by norm_num) _
  have hround := (abs_le.1
    (nearestEven_roundHalfEven (x / 2 ^ (Int.log 2 |x| - 52))).abs_sub_le).2
  have hlog : (2 : ℚ) ^ Int.log 2 |x| ≤ |x| := by
    simpa using Int.zpow_log_le_self (b := 2) (by norm_num) (abs_pos.2 hx.ne')
  rw [abs_of_pos hx] at hunit hround hlog
  have hscaled : x - roundHalfEven (x / 2 ^ (Int.log 2 x - 52)) * 2 ^ (Int.log 2 x - 52) ≤
      1 / 2 * 2 ^ (Int.log 2 x - 52) := by
    have hmul := mul_le_mul_of_nonneg_right hround hunit.le
    rwa [sub_mul, div_mul_cancel₀ _ hunit.ne'] at hmul
  have hpow : (2 : ℚ) ^ (Int.log 2 x - 52) = 2 ^ Int.log 2 x / 2 ^ 52 := by
    rw [zpow_sub₀ (by norm_num)]
    norm_num
  simp only [toFloat, if_neg hx.ne', abs_of_pos hx]
  calc x - roundHalfEven (x / 2 ^ (Int.log 2 x - 52)) * 2 ^ (Int.log 2 x - 52)
      ≤ 1 / 2 * 2 ^ (Int.log 2 x - 52) := hscaled
    _ = 2 ^ Int.log 2 x / 2 ^ 53 := by rw [hpow]; ring
    _ ≤ x / 2 ^ 53 := by gcongr

/-- **No page is lost to the rounding** below 2 ^ 53 rows. -/
theorem le_totalPages_mul {total size : ℕ} (hsize : 0 < size) (htotal : total < 2 ^ 53) :
    total ≤ totalPages total size * size := by
  rcases Nat.eq_zero_or_pos total with rfl | hpos
  · exact Nat.zero_le _
  have hsize' : (0 : ℚ) < size := by exact_mod_cast hsize
  have hpos' : (0 : ℚ) < total := by exact_mod_cast hpos
  have hfloat := sub_toFloat_le (div_pos hpos' hsize')
  rw [totalPages, if_pos ⟨by exact_mod_cast hsize, hpos⟩]
  have hceil := Int.le_ceil (toFloat ((total : ℚ) / ((size : ℤ) : ℚ)))
  rw [Int.cast_natCast] at hceil ⊢
  generalize toFloat ((total : ℚ) / size) = quotient at hfloat hceil ⊢
  by_contra hlt
  have hpages : ((⌈quotient⌉.toNat : ℤ) : ℚ) ≥ quotient :=
    hceil.trans (by exact_mod_cast Int.self_le_toNat _)
  generalize ⌈quotient⌉.toNat = pages at hlt hpages
  -- the quotient is above the number of pages by more than the rounding
  have hover : (pages : ℚ) * size + 1 ≤ total := by exact_mod_cast Nat.lt_of_not_le hlt
  have hgap : (pages : ℚ) + 1 / size ≤ total / size := by
    rw [le_div_iff₀ hsize', add_mul, one_div, inv_mul_cancel₀ hsize'.ne']
    exact hover
  have hsmall : (total : ℚ) / size / 2 ^ 53 < 1 / size := by
    rw [div_div, mul_comm, ← div_div, div_lt_div_iff_of_pos_right hsize', div_lt_one (by positivity)]
    exact_mod_cast htotal
  push_cast at hpages
  linarith

/-! ### Pages -/

variable {α β : Type}

/-- What PostgreSQL takes for `OFFSET` and `LIMIT`. -/
def FitsLimit (n : ℤ) : Prop := 0 ≤ n ∧ n < 2 ^ 63

instance (n : ℤ) : Decidable (FitsLimit n) := inferInstanceAs (Decidable (_ ∧ _))

/-- `OFFSET` and `LIMIT`. -/
def offsetLimit (offset limit : ℤ) (rows : List α) : Except ServiceError (List α) :=
  if FitsLimit offset ∧ FitsLimit limit then .ok ((rows.drop offset.toNat).take limit.toNat)
  else .error .dataError

/-- `PaginatedResponse`. -/
structure PaginatedResponse (α : Type) where
  items : List α
  total : ℕ
  page : ℤ
  pageSize : ℤ
  totalPages : ℕ

/-- `paginate`; the second query finds the rows of the statement in the order that the database
chooses for it. -/
def paginate (arrange : List α → List α) (rows : List α) (page pageSize : ℤ) :
    Except ServiceError (PaginatedResponse α) := do
  let items ← offsetLimit ((page - 1) * pageSize) pageSize (arrange rows)
  return ⟨items, rows.length, page, pageSize, totalPages rows.length pageSize⟩

/-- `Warehouse`, with the columns that `list_warehouses` treats itself. -/
structure Warehouse where
  id : Uuid
  warehouseType : String
  status : String
  createdAt : ℤ

/-- An entry of `list_warehouses`. -/
structure WarehouseDict where
  id : Uuid
  type : String
  status : String
  isActive : Bool

/-- The entry of a warehouse. -/
def warehouseToDict (wh : Warehouse) : WarehouseDict where
  id := wh.id
  type := wh.warehouseType
  status := wh.status
  isActive := wh.status = "active"

/-- `list_warehouses`, with a page. -/
def listWarehouses (arrange : List Warehouse → List Warehouse) (warehouses : List Warehouse)
    (page pageSize : ℤ) : Except ServiceError (PaginatedResponse WarehouseDict) := do
  let result ← paginate arrange warehouses page pageSize
  return ⟨result.items.map warehouseToDict, result.total, result.page, result.pageSize,
    result.totalPages⟩

/-- `ORDER BY created_at DESC`. -/
def NewestFirst (createdAt : α → ℤ) (a b : α) : Prop := createdAt b ≤ createdAt a

instance (createdAt : α → ℤ) : DecidableRel (NewestFirst createdAt) :=
  fun _ _ => inferInstanceAs (Decidable (_ ≤ _))

instance (createdAt : α → ℤ) : IsTrans α (NewestFirst createdAt) :=
  ⟨fun _ _ _ h h' => Int.le_trans h' h⟩

instance (createdAt : α → ℤ) : Std.Total (NewestFirst createdAt) :=
  ⟨fun a b => Int.le_total (createdAt b) (createdAt a)⟩

/-! ### A walk through the pages -/

/-- A choice of an order for any rows. -/
def Arranges (r : α → α → Prop) (arrange : List α → List α) : Prop :=
  ∀ rows, Arranged r rows (arrange rows)

/-- **A walk returns each row once**: the first call tells the number of pages, and the calls for
these pages, counted from zero, return the rows. -/
def ReturnsOnce (call : ℕ → Except ServiceError (List β × ℕ)) (rows : List β) : Prop :=
  ∃ first pages, call 0 = .ok (first, pages) ∧ ∃ walked : ℕ → List β,
    (∀ k < pages, ∃ n, call k = .ok (walked k, n)) ∧
      ((List.range pages).flatMap walked).Perm rows

/-- The numbers of a walk fit: the database takes the size of a page and its offset, and the pages
reach the last row. -/
structure Walkable (size total pages : ℕ) : Prop where
  limit : size < 2 ^ 63
  offset : ∀ k < pages, k * size < 2 ^ 63
  total_le : total ≤ pages * size

section

variable {r : α → α → Prop} {rows : List α} {size pages k : ℕ} {f : α → β}

theorem offsetLimit_page (size k : ℕ) (rows : List α) :
    offsetLimit (k * size : ℤ) size rows =
      if k * size < 2 ^ 63 ∧ size < 2 ^ 63 then .ok (page size k rows) else .error .dataError := by
  have hoffset : (k * size : ℤ).toNat = k * size := by rw [← Nat.cast_mul, Int.toNat_natCast]
  have hfits : FitsLimit (k * size) ∧ FitsLimit size ↔ k * size < 2 ^ 63 ∧ size < 2 ^ 63 := by
    rw [FitsLimit, FitsLimit]
    constructor
    · rintro ⟨⟨-, h⟩, -, h'⟩
      exact ⟨by exact_mod_cast h, by exact_mod_cast h'⟩
    · rintro ⟨h, h'⟩
      exact ⟨⟨by positivity, by exact_mod_cast h⟩, Int.natCast_nonneg _, by exact_mod_cast h'⟩
  simp only [offsetLimit, hfits, hoffset, Int.toNat_natCast, page]

/-- A walk with one choice for each query. -/
theorem returnsOnce_choice_iff {choice : ℕ → List α} {call : ℕ → Except ServiceError (List β × ℕ)}
    (hcall : ∀ k, call k = (offsetLimit (k * size : ℤ) size (choice k)).map
      fun items => (items.map f, pages)) :
    ReturnsOnce call (rows.map f) ↔ size < 2 ^ 63 ∧ (∀ k < pages, k * size < 2 ^ 63) ∧
      ((walk size choice pages).map f).Perm (rows.map f) := by
  have hok {k n : ℕ} {items : List β} : call k = .ok (items, n) ↔
      (k * size < 2 ^ 63 ∧ size < 2 ^ 63) ∧ (page size k (choice k)).map f = items ∧ pages = n := by
    rw [hcall, offsetLimit_page]
    split_ifs with hfits
    · rw [and_iff_right hfits]
      simp [Except.map]
    · exact iff_of_false (fun h => by cases h) fun h => hfits h.1
  have hwalk : (walk size choice pages).map f =
      (List.range pages).flatMap fun k => (page size k (choice k)).map f := List.map_flatMap
  constructor
  · rintro ⟨first, _, hfirst, walked, hwalked, hperm⟩
    obtain ⟨⟨-, hsize⟩, -, rfl⟩ := hok.1 hfirst
    have hpage : ∀ k < pages, (page size k (choice k)).map f = walked k := fun k hk =>
      (hok.1 (hwalked k hk).choose_spec).2.1
    refine ⟨hsize, fun k hk => (hok.1 (hwalked k hk).choose_spec).1.1, ?_⟩
    rw [hwalk, List.flatMap_congr fun k hk => hpage k (List.mem_range.1 hk)]
    exact hperm
  · rintro ⟨hsize, hoffset, hperm⟩
    refine ⟨_, pages, hok.2 ⟨⟨by omega, hsize⟩, rfl, rfl⟩,
      fun k => (page size k (choice k)).map f,
      fun k hk => ⟨pages, hok.2 ⟨⟨hoffset k hk, hsize⟩, rfl, rfl⟩⟩, ?_⟩
    rw [← hwalk]
    exact hperm

variable [DecidableRel r] [IsTrans α r] [Std.Total r]

/-- Any orders of the rows can be chosen. -/
theorem exists_arranges {choice : ℕ → List α} (h : ∀ k, Arranged r rows (choice k)) :
    ∃ arrange : ℕ → List α → List α, (∀ k, Arranges r (arrange k)) ∧
      ∀ k, arrange k rows = choice k := by
  classical
  refine ⟨fun k rows' => if rows' = rows then choice k else orderBy r rows',
    fun k rows' => ?_, fun k => if_pos rfl⟩
  dsimp only
  split_ifs with heq
  · exact heq ▸ h k
  · exact arranged_orderBy rows'

/-- **Whatever the database chooses, a walk returns each row once exactly when** its numbers fit and
no page ends inside a group of rows that compare equal. -/
theorem returnsOnce_iff (hsize : 0 < size) (hnodup : (rows.map f).Nodup)
    {call : (ℕ → List α → List α) → ℕ → Except ServiceError (List β × ℕ)}
    (hcall : ∀ arrange k, call arrange k = (offsetLimit (k * size : ℤ) size (arrange k rows)).map
      fun items => (items.map f, pages)) :
    (∀ arrange, (∀ k, Arranges r (arrange k)) → ReturnsOnce (call arrange) (rows.map f)) ↔
      Walkable size rows.length pages ∧ ∀ k, ¬ Splits r rows (k * size) := by
  have hchoice (arrange : ℕ → List α → List α) : ReturnsOnce (call arrange) (rows.map f) ↔ _ :=
    returnsOnce_choice_iff (hcall arrange)
  constructor
  · intro h
    obtain ⟨hlimit, hoffset, -⟩ := (hchoice _).1
      (h (fun _ => orderBy r) fun _ rows' => arranged_orderBy rows')
    obtain ⟨hlength, hsplits⟩ := (walk_perm_iff (r := r) hsize hnodup pages).1 fun choice harranged => by
      obtain ⟨arrange, harrange, heq⟩ := exists_arranges harranged
      have hperm := ((hchoice arrange).1 (h arrange harrange)).2.2
      simp only [heq] at hperm
      exact hperm
    exact ⟨⟨hlimit, hoffset, hlength⟩, hsplits⟩
  · rintro ⟨hwalkable, hsplits⟩ arrange harrange
    exact (hchoice arrange).2 ⟨hwalkable.limit, hwalkable.offset,
      (walk_perm_iff hsize hnodup pages).2 ⟨hwalkable.total_le, hsplits⟩ _
        fun k => harrange k rows⟩

end

/-! ### The pages of a statement -/

/-- The items and the number of pages of a response. -/
def PaginatedResponse.pages (response : PaginatedResponse α) : List α × ℕ :=
  (response.items, response.totalPages)

theorem paginate_page (arrange : List α → List α) (rows : List α) (k size : ℕ) :
    (paginate arrange rows (k + 1) size).map PaginatedResponse.pages =
      (offsetLimit (k * size : ℤ) size (arrange rows)).map
        fun items => (items.map id, totalPages rows.length size) := by
  rw [paginate, add_sub_cancel_right]
  cases offsetLimit (k * size : ℤ) size (arrange rows) with
  | error e => rfl
  | ok items => simp [Except.map, PaginatedResponse.pages, bind, Except.bind, pure, Except.pure]

theorem listWarehouses_page (arrange : List Warehouse → List Warehouse)
    (warehouses : List Warehouse) (k size : ℕ) :
    (listWarehouses arrange warehouses (k + 1) size).map PaginatedResponse.pages =
      (offsetLimit (k * size : ℤ) size (arrange warehouses)).map
        fun items => (items.map warehouseToDict, totalPages warehouses.length size) := by
  rw [listWarehouses, paginate, add_sub_cancel_right]
  cases offsetLimit (k * size : ℤ) size (arrange warehouses) with
  | error e => rfl
  | ok items => rfl

end Pagination

end OmsWmsTms
