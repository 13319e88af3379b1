import OmsWmsTms.Data.Decimal
import OmsWmsTms.Tms.Models

/-!
# Freight

`calculate_freight` of `src/tms/service.py`.  It takes the first tier of the carrier that contains
the weight; the query has no `ORDER BY`.

* `calculateFreight` : the function, on the rows in the order in which the database returns them;
  `float` rounds to the nearest double.
* `OverlapAtEndpoints` : tiers of one type have at most an endpoint in common.
* `Priced` : one order of the rows prices a request as another one does.
* `priced_iff` : so it is for all orders exactly when all tiers with the weight charge the same;
  `sameCharge_of_inner` : so they do inside of the tiers of one type.
-/

namespace OmsWmsTms

namespace Tms

/-- `FreightRule`. -/
inductive FreightRule
  | weightTiered | distanceTiered | flatRate | volumeBased
deriving DecidableEq

/-- `FreightRule.value`. -/
def FreightRule.value : FreightRule → String
  | weightTiered => "weight_tiered"
  | distanceTiered => "distance_tiered"
  | flatRate => "flat_rate"
  | volumeBased => "volume_based"

/-- `FreightTier`. -/
structure FreightTier where
  id : Uuid
  carrierCode : CarrierCode
  ruleType : FreightRule
  minValue : Numeric 20 4
  maxValue : Option (Numeric 20 4)
  pricePerUnit : Numeric 18 4
  surchargeExpress : Numeric 18 4
deriving DecidableEq

/-- The request of `calculate_freight`; `weight?` is what `Decimal` reads, and the default is one
kilogram. -/
structure FreightRequest where
  carrierCode : String
  weight? : Option ℚ := some 1
  express : Bool := false

/-- What `calculate_freight` returns; decimals travel in it as exact texts. -/
structure FreightQuote where
  carrierCode : CarrierCode
  weightKg : ℚ
  totalFreightYuan : ℚ
  ruleType : String
  tierMinValue : ℚ
  tierMaxValue : Option ℚ
deriving DecidableEq

/-- `t.min_value <= weight_kg and (t.max_value is None or weight_kg <= t.max_value)`. -/
def FreightTier.Contains (tier : FreightTier) (weightKg : ℚ) : Prop :=
  tier.minValue.toRat ≤ weightKg ∧ ∀ max ∈ tier.maxValue, weightKg ≤ max.toRat

instance (tier : FreightTier) (weightKg : ℚ) : Decidable (tier.Contains weightKg) :=
  inferInstanceAs (Decidable (_ ∧ _))

variable (float : ℚ → ℚ)

/-- `total_price`, printed with two decimals. -/
def FreightTier.charge (tier : FreightTier) (weightKg : ℚ) (express : Bool) : ℚ :=
  let price := float (float tier.pricePerUnit * float weightKg)
  let totalPrice := if express then float (price + float tier.surchargeExpress) else price
  roundHalfEven (totalPrice * 100) / 100

/-- `calculate_freight`. -/
def calculateFreight (tiers : List FreightTier) (data : FreightRequest) :
    Except TmsError FreightQuote := do
  let carrier ← CarrierCode.ofValue data.carrierCode
  let weightKg ← data.weight?.elim (.error .invalidOperation) .ok
  match (tiers.filter (·.carrierCode = carrier)).find? (·.Contains weightKg) with
  | none => .error (.validation "No matching freight tier found")
  | some tier => .ok {
      carrierCode := carrier
      weightKg
      totalFreightYuan := tier.charge float weightKg data.express
      ruleType := tier.ruleType.value
      tierMinValue := tier.minValue
      -- a maximum of zero is falsy
      tierMaxValue := (tier.maxValue.filter (· ≠ 0)).map Numeric.toRat }

/-! ### The order of the rows -/

/-- Two tiers, when they are of one carrier and type, have at most an endpoint in common. -/
def MeetAtEndpoint (tier tier' : FreightTier) : Prop :=
  tier.carrierCode = tier'.carrierCode → tier.ruleType = tier'.ruleType →
    ∀ x, tier.Contains x → tier'.Contains x →
      tier.maxValue.map Numeric.toRat = some x ∧ tier'.minValue.toRat = x ∨
        tier'.maxValue.map Numeric.toRat = some x ∧ tier.minValue.toRat = x

instance : Std.Symm MeetAtEndpoint where
  symm _ _ h hcarrier htype x hx hx' := (h hcarrier.symm htype.symm x hx' hx).symm

/-- Tiers of one type have at most an endpoint in common. -/
def OverlapAtEndpoints (tiers : List FreightTier) : Prop := tiers.Pairwise MeetAtEndpoint

/-- What a request is charged, or its error. -/
def freightCharge (tiers : List FreightTier) (data : FreightRequest) : Except TmsError ℚ :=
  (calculateFreight float tiers data).map FreightQuote.totalFreightYuan

/-- **A request is charged the same** in whatever order the database returns the rows. -/
def Priced (tiers : List FreightTier) (data : FreightRequest) : Prop :=
  ∀ rows rows', rows.Perm tiers → rows'.Perm tiers →
    freightCharge float rows data = freightCharge float rows' data

/-- The tiers of a carrier that contain a weight. -/
def tiersAt (tiers : List FreightTier) (carrier : CarrierCode) (weightKg : ℚ) : List FreightTier :=
  tiers.filter fun tier => tier.carrierCode = carrier ∧ tier.Contains weightKg

/-- All tiers of a request charge the same for it. -/
def SameCharge (tiers : List FreightTier) (data : FreightRequest) : Prop :=
  ∀ carrier weightKg, CarrierCode.ofValue data.carrierCode = .ok carrier →
    data.weight? = some weightKg →
    ∀ tier ∈ tiersAt tiers carrier weightKg, ∀ tier' ∈ tiersAt tiers carrier weightKg,
      tier.charge float weightKg data.express = tier'.charge float weightKg data.express

variable {float} {tiers rows : List FreightTier} {data : FreightRequest} {carrier : CarrierCode}
  {weightKg : ℚ}

theorem mem_tiersAt {tier : FreightTier} : tier ∈ tiersAt tiers carrier weightKg ↔
    tier ∈ tiers ∧ tier.carrierCode = carrier ∧ tier.Contains weightKg := by
  simp [tiersAt]

/-- The first of the tiers that contain the weight decides. -/
theorem freightCharge_eq (hcarrier : CarrierCode.ofValue data.carrierCode = .ok carrier)
    (hweight : data.weight? = some weightKg) :
    freightCharge float rows data = (tiersAt rows carrier weightKg).head?.elim
      (.error (.validation "No matching freight tier found"))
      fun tier => .ok (tier.charge float weightKg data.express) := by
  have hfind : (rows.filter (·.carrierCode = carrier)).find? (·.Contains weightKg) =
      (tiersAt rows carrier weightKg).head? := by
    rw [tiersAt, List.head?_filter, List.find?_filter]
    simp only [Bool.decide_and, Bool.decide_eq_true]
  unfold freightCharge calculateFreight
  rw [hcarrier, hweight]
  simp only [Option.elim, bind, Except.bind, hfind]
  cases (tiersAt rows carrier weightKg).head? <;> rfl

/-- A request that fails before the query fails in every order of the rows. -/
theorem freightCharge_error {rows' : List FreightTier} (h : ¬ ∃ carrier weightKg,
    CarrierCode.ofValue data.carrierCode = .ok carrier ∧ data.weight? = some weightKg) :
    freightCharge float rows data = freightCharge float rows' data := by
  unfold freightCharge calculateFreight
  cases hcarrier : CarrierCode.ofValue data.carrierCode with
  | error e => rfl
  | ok carrier =>
    cases hweight : data.weight? with
    | none => rfl
    | some weightKg => exact absurd ⟨carrier, weightKg, hcarrier, hweight⟩ h

/-- **A request is charged the same in every order of the rows exactly when** all tiers of its
carrier that contain its weight charge the same for it. -/
theorem priced_iff (float : ℚ → ℚ) (tiers : List FreightTier) (data : FreightRequest) :
    Priced float tiers data ↔ SameCharge float tiers data := by
  constructor
  · intro h carrier weightKg hcarrier hweight tier htier tier' htier'
    -- the database may return any of the tiers first
    have hfirst : ∀ t ∈ tiersAt tiers carrier weightKg, ∃ rows, rows.Perm tiers ∧
        freightCharge float rows data = .ok (t.charge float weightKg data.express) := by
      intro t ht
      obtain ⟨hmem, ht⟩ := mem_tiersAt.1 ht
      refine ⟨t :: tiers.erase t, (List.perm_cons_erase hmem).symm, ?_⟩
      rw [freightCharge_eq hcarrier hweight, tiersAt, List.filter_cons_of_pos (by simpa using ht)]
      rfl
    obtain ⟨rows, hrows, hcharge⟩ := hfirst tier htier
    obtain ⟨rows', hrows', hcharge'⟩ := hfirst tier' htier'
    have heq := h rows rows' hrows hrows'
    rw [hcharge, hcharge'] at heq
    exact Except.ok.inj heq
  · intro h rows rows' hrows hrows'
    by_cases hread : ∃ carrier weightKg,
        CarrierCode.ofValue data.carrierCode = .ok carrier ∧ data.weight? = some weightKg
    · obtain ⟨carrier, weightKg, hcarrier, hweight⟩ := hread
      rw [freightCharge_eq hcarrier hweight, freightCharge_eq hcarrier hweight]
      have hperm : (tiersAt rows carrier weightKg).Perm (tiersAt tiers carrier weightKg) :=
        hrows.filter _
      have hperm' : (tiersAt rows' carrier weightKg).Perm (tiersAt tiers carrier weightKg) :=
        hrows'.filter _
      have hlength := (hperm.trans hperm'.symm).length_eq
      cases hhead : tiersAt rows carrier weightKg with
      | nil =>
        rw [hhead, List.length_nil] at hlength
        rw [List.length_eq_zero_iff.1 hlength.symm]
      | cons tier rest =>
        cases hhead' : tiersAt rows' carrier weightKg with
        | nil =>
          rw [hhead, hhead'] at hlength
          cases hlength
        | cons tier' rest' =>
          refine congrArg Except.ok (h carrier weightKg hcarrier hweight tier ?_ tier' ?_)
          · exact hperm.subset (hhead ▸ List.mem_cons_self)
          · exact hperm'.subset (hhead' ▸ List.mem_cons_self)
    · exact freightCharge_error hread

/-- **Tiers of one type** charge the same for a weight that is not the maximum of any of them. -/
theorem sameCharge_of_inner (hoverlap : OverlapAtEndpoints tiers)
    (htype : ∀ tier ∈ tiers, ∀ tier' ∈ tiers, tier.ruleType = tier'.ruleType)
    (hinner : ∀ weightKg, data.weight? = some weightKg →
      ∀ tier ∈ tiers, tier.maxValue.map Numeric.toRat ≠ some weightKg) :
    SameCharge float tiers data := by
  intro carrier weightKg _ hweight tier htier tier' htier'
  obtain ⟨hmem, hcarrier, hcontains⟩ := mem_tiersAt.1 htier
  obtain ⟨hmem', hcarrier', hcontains'⟩ := mem_tiersAt.1 htier'
  by_cases heq : tier = tier'
  · rw [heq]
  have hpair := hoverlap.forall hmem hmem' heq
  rcases hpair (hcarrier.trans hcarrier'.symm) (htype tier hmem tier' hmem') weightKg hcontains
    hcontains' with ⟨hmax, -⟩ | ⟨hmax, -⟩
  · exact absurd hmax (hinner weightKg hweight tier hmem)
  · exact absurd hmax (hinner weightKg hweight tier' hmem')

/-! ### The tiers of the demo data -/

theorem tenKg_fits : (100000 : ℤ).natAbs < 10 ^ 20 := by decide

theorem lightPrice_fits : (85000 : ℤ).natAbs < 10 ^ 18 := by decide

theorem heavyPrice_fits : (72000 : ℤ).natAbs < 10 ^ 18 := by decide

/-- The tiers of `seed_freight_rules`: up to ten kilograms, and from ten kilograms on. -/
def seedFreightRules : List FreightTier :=
  [⟨1, .sfExpress, .weightTiered, 0, some ⟨100000, tenKg_fits⟩, ⟨85000, lightPrice_fits⟩, 0⟩,
    ⟨2, .sfExpress, .weightTiered, ⟨100000, tenKg_fits⟩, none, ⟨72000, heavyPrice_fits⟩, 0⟩]

/-- Ten kilograms. -/
def tenKg : FreightRequest := { carrierCode := "sf_express", weight? := some 10 }

theorem seedFreightRules_overlap : OverlapAtEndpoints seedFreightRules := by
  unfold OverlapAtEndpoints seedFreightRules
  refine List.pairwise_pair.2 fun _ _ x hx hx' => .inl ?_
  have hle := hx.2 _ rfl
  have hge := hx'.1
  have heq : (⟨100000, tenKg_fits⟩ : Numeric 20 4).toRat = x := le_antisymm hge hle
  exact ⟨congrArg some heq, heq⟩

/-- The nearest double of a number in their normal range. -/
def nearestDouble (x : ℚ) : ℚ :=
  if x = 0 then 0
  else
    let unit : ℚ := 2 ^ (Int.log 2 |x| - 52)
    roundHalfEven (x / unit) * unit

/-- Ten kilograms cost 85 or 72 yuan. -/
theorem tenKg_not_priced : OverlapAtEndpoints seedFreightRules ∧
    freightCharge nearestDouble seedFreightRules tenKg = .ok 85 ∧
    freightCharge nearestDouble seedFreightRules.reverse tenKg = .ok 72 ∧
    ¬ Priced nearestDouble seedFreightRules tenKg := by
  have hlight : freightCharge nearestDouble seedFreightRules tenKg = .ok 85 := by
    decide +kernel
  have hheavy : freightCharge nearestDouble seedFreightRules.reverse tenKg = .ok 72 := by
    decide +kernel
  refine ⟨seedFreightRules_overlap, hlight, hheavy, fun h => ?_⟩
  have heq := h _ _ (List.Perm.refl _) (List.reverse_perm seedFreightRules)
  rw [hlight, hheavy, Except.ok.injEq] at heq
  revert heq
  decide

end Tms

end OmsWmsTms
