import Mathlib.Data.List.DropRight
import OmsWmsTms.Core.Clock
import OmsWmsTms.Data.Decimal
import OmsWmsTms.Data.Dict
import OmsWmsTms.Data.Discounted
import OmsWmsTms.Data.Variation

/-!
# The order forecast

`OrderForecaster` of `src/tms/ml/forecast.py`, in exact arithmetic.  The level that a forecast
starts from is called an exponential moving average, but its weights do not add up to one.

* `OrderForecaster.addObservation`, `forecast` : the two methods; `ema`, `level`, `trend` : what the
  forecast is made of.
* `kept` : the counts in the window; `hist_observe` : they are what the history holds.
* `Averages` : what is promised; `Fits` : what the counts have to be for it.
* `averages_iff` : the promise holds exactly for these; `fits_replicate_iff` : hardly any constant
  is one of them.
-/

namespace OmsWmsTms

namespace Tms

open Discounted (discounted weight average Between)
open Variation (mean)

/-! ### The forecaster -/

/-- A point of a forecast. -/
structure ForecastPoint (K : Type*) where
  date : String
  predictedOrders : ℚ
  confidenceLower : Option K
  confidenceUpper : Option K

/-- The forecaster, with the history of each key. -/
structure OrderForecaster where
  windowSize : ℤ
  alpha : ℚ
  history : Dict String (List ℚ)

namespace OrderForecaster

/-- `OrderForecaster(window_size, alpha)`. -/
def new (windowSize : ℤ) (alpha : ℚ) : OrderForecaster :=
  { windowSize, alpha, history := .empty }

/-- The history of a key. -/
def hist (f : OrderForecaster) (key : String) : List ℚ := (f.history.get? key).getD []

/-- What `add_observation` leaves of a history. -/
def trimmed (windowSize : ℤ) (hist : List ℚ) : List ℚ :=
  if windowSize < (hist.length : ℤ) then hist.drop (hist.length - windowSize).toNat else hist

/-- `add_observation`. -/
def addObservation (f : OrderForecaster) (key : String) (count : ℚ) : OrderForecaster :=
  { f with history := f.history.set key (trimmed f.windowSize (f.hist key ++ [count])) }

end OrderForecaster

/-- `ema`: the newest count has the weight 1. -/
def ema (alpha : ℚ) (hist : List ℚ) : ℚ :=
  (hist.reverse.zipIdx.map fun item => item.1 * alpha ^ item.2).sum

/-- `variance`. -/
def variance (hist : List ℚ) : ℚ := (hist.map fun x => (x - mean hist) ^ 2).sum / hist.length

/-- `trend`. -/
def trend (hist : List ℚ) : ℚ := (hist.getLastD 0 - hist.headD 0) / max hist.length 1

/-- `ema or mean`: where a forecast starts. -/
def level (alpha : ℚ) (hist : List ℚ) : ℚ :=
  if ema alpha hist = 0 then mean hist else ema alpha hist

/-- What a forecast shows of a number of orders. -/
def shown (orders : ℚ) : ℚ := roundDigits 1 (max orders 0)

section Forecast

variable {K : Type*} [Field K] [LinearOrder K] [FloorRing K] (sqrt : K → K)

/-- `forecast`, with the square root of the arithmetic; a date is a number of days since
1970-01-01. -/
def OrderForecaster.forecast (f : OrderForecaster) (key : String) (today days : ℤ) :
    List (ForecastPoint K) :=
  let hist := f.hist key
  let ahead := (List.range days.toNat).map fun (n : ℕ) => (n : ℤ) + 1
  if hist.length < 2 then
    ahead.map fun i => {
      date := dateIsoformat (today + i)
      predictedOrders := 0
      confidenceLower := none
      confidenceUpper := none }
  else
    let stdDev := sqrt (variance hist)
    ahead.map fun (i : ℤ) =>
      let pred := shown (level f.alpha hist + trend hist * i)
      { date := dateIsoformat (today + i)
        predictedOrders := pred
        confidenceLower :=
          if stdDev = 0 then none else some (roundDigits 1 (pred - (1.96 : ℚ) * stdDev))
        confidenceUpper :=
          if stdDev = 0 then none else some (roundDigits 1 (pred + (1.96 : ℚ) * stdDev)) }

end Forecast

/-! ### The window -/

/-- Observations, one after another. -/
def OrderForecaster.observe (f : OrderForecaster) (observations : List (String × ℚ)) :
    OrderForecaster := observations.foldl (fun f o => f.addObservation o.1 o.2) f

/-- The counts of a key. -/
def counts (key : String) (observations : List (String × ℚ)) : List ℚ :=
  (observations.filter (·.1 = key)).map Prod.snd

/-- **The counts in the window**: the last `windowSize` of them. -/
def kept (windowSize : ℤ) (counts : List ℚ) : List ℚ := counts.rtake windowSize.toNat

theorem trimmed_eq_kept (windowSize : ℤ) (hist : List ℚ) :
    OrderForecaster.trimmed windowSize hist = kept windowSize hist := by
  unfold OrderForecaster.trimmed kept List.rtake
  split_ifs with hlong
  · by_cases hneg : windowSize < 0
    · rw [List.drop_eq_nil_of_le (by omega), List.drop_eq_nil_of_le (by omega)]
    · exact congrArg hist.drop (by omega)
  · have hzero : hist.length - windowSize.toNat = 0 := by omega
    rw [hzero, List.drop_zero]

/-- What is outside of the window stays outside. -/
theorem kept_concat (windowSize : ℤ) (l : List ℚ) (x : ℚ) :
    kept windowSize (kept windowSize l ++ [x]) = kept windowSize (l ++ [x]) := by
  unfold kept List.rtake
  rw [← List.drop_append_of_le_length (Nat.sub_le _ _), List.drop_drop]
  refine congrArg (fun n => (l ++ [x]).drop n) ?_
  simp only [List.length_drop, List.length_append, List.length_singleton]
  omega

theorem hist_addObservation (f : OrderForecaster) (key key' : String) (count : ℚ) :
    (f.addObservation key count).hist key' =
      if key = key' then kept f.windowSize (f.hist key ++ [count]) else f.hist key' := by
  unfold OrderForecaster.addObservation OrderForecaster.hist
  rw [Dict.get?_set, trimmed_eq_kept]
  split_ifs <;> rfl

theorem windowSize_observe (f : OrderForecaster) (observations : List (String × ℚ)) :
    (f.observe observations).windowSize = f.windowSize := by
  induction observations generalizing f with
  | nil => rfl
  | cons o observations ih => exact ih (f.addObservation o.1 o.2)

theorem alpha_observe (f : OrderForecaster) (observations : List (String × ℚ)) :
    (f.observe observations).alpha = f.alpha := by
  induction observations generalizing f with
  | nil => rfl
  | cons o observations ih => exact ih (f.addObservation o.1 o.2)

/-- **A history is the counts in the window.** -/
theorem hist_observe (windowSize : ℤ) (alpha : ℚ) (observations : List (String × ℚ))
    (key : String) : ((OrderForecaster.new windowSize alpha).observe observations).hist key =
      kept windowSize (counts key observations) := by
  induction observations using List.reverseRecOn with
  | nil => simp [kept, counts, OrderForecaster.observe, OrderForecaster.hist, OrderForecaster.new]
  | append_singleton observations o ih =>
    have hlast : (OrderForecaster.new windowSize alpha).observe (observations ++ [o]) =
        ((OrderForecaster.new windowSize alpha).observe observations).addObservation o.1 o.2 :=
      List.foldl_concat ..
    rw [hlast, hist_addObservation, windowSize_observe]
    unfold counts at ih ⊢
    rw [List.filter_append, List.map_append]
    by_cases hkey : o.1 = key
    · rw [if_pos hkey, hkey, ih, List.filter_cons_of_pos (by simpa using hkey), List.filter_nil,
        List.map_singleton]
      exact kept_concat windowSize _ _
    · rw [if_neg hkey, ih, List.filter_cons_of_neg (by simpa using hkey), List.filter_nil,
        List.map_nil, List.append_nil]

/-! ### The level -/

theorem ema_eq_discounted (alpha : ℚ) (hist : List ℚ) :
    ema alpha hist = discounted alpha hist.reverse := by
  rw [ema, Discounted.sum_zipIdx, pow_zero, one_mul]

/-- The mean is the average with equal weights. -/
theorem mean_eq_average (hist : List ℚ) : mean hist = average 1 hist := by
  have hsum : discounted 1 hist = hist.sum := by
    induction hist with
    | nil => rfl
    | cons x hist ih => rw [discounted, one_mul, ih, List.sum_cons]
  have hweight : weight (1 : ℚ) hist.length = hist.length := by
    induction hist.length with
    | zero => simp [weight]
    | succ n ih => rw [weight, one_mul, ih, Nat.cast_succ, add_comm]
  rw [average, hsum, hweight, mean]

/-- The exponential moving average: the weights add up to one. -/
def movingAverage (alpha : ℚ) (hist : List ℚ) : ℚ := average alpha hist.reverse

theorem between_reverse {hist : List ℚ} {x : ℚ} : Between hist.reverse x ↔ Between hist x := by
  constructor
  · rintro ⟨hleast, hgreatest⟩
    exact ⟨by simpa using hleast, by simpa using hgreatest⟩
  · rintro ⟨hleast, hgreatest⟩
    exact ⟨by simpa using hleast, by simpa using hgreatest⟩

/-- Where the sum is 0, the mean is in its place, and the moving average is 0. -/
theorem between_level_iff_ema {alpha : ℚ} (hpos : 0 < alpha) {hist : List ℚ} (hne : hist ≠ []) :
    Between hist (level alpha hist) ↔ Between hist (ema alpha hist) := by
  unfold level
  split_ifs with hzero
  · have hrev : hist.reverse ≠ [] := by simpa using hne
    have haverage : ema alpha hist = average alpha hist.reverse := by
      rw [average, ← ema_eq_discounted, hzero, zero_div]
    rw [haverage, ← between_reverse (x := average alpha _), mean_eq_average]
    exact iff_of_true (Discounted.between_average zero_le_one hne)
      (Discounted.between_average hpos.le hrev)
  · exact Iff.rfl

/-- The moving average is so far from the bound on its side that the weights, which add up to
`(1 - alpha ^ n) / (1 - alpha)`, do not take it over. -/
structure LevelFits (alpha : ℚ) (hist : List ℚ) : Prop where
  above : 0 ≤ movingAverage alpha hist →
    ∃ x ∈ hist, (1 - alpha ^ hist.length) * movingAverage alpha hist ≤ (1 - alpha) * x
  below : movingAverage alpha hist ≤ 0 →
    ∃ x ∈ hist, (1 - alpha) * x ≤ (1 - alpha ^ hist.length) * movingAverage alpha hist

/-- **When the level is between** the smallest and the largest count. -/
theorem between_level_iff {alpha : ℚ} (hpos : 0 < alpha) (hone : alpha < 1) {hist : List ℚ}
    (hne : hist ≠ []) : Between hist (level alpha hist) ↔ LevelFits alpha hist := by
  have hrev : hist.reverse ≠ [] := by simpa using hne
  rw [between_level_iff_ema hpos hne, ema_eq_discounted, ← between_reverse,
    Discounted.between_discounted_iff hpos.le hone hrev]
  simp only [List.length_reverse, List.mem_reverse]
  constructor
  · rintro ⟨habove, hbelow⟩
    exact ⟨habove, hbelow⟩
  · rintro ⟨habove, hbelow⟩
    exact ⟨habove, hbelow⟩

/-! ### What is promised -/

section Promise

variable {K : Type*} [Field K] [LinearOrder K] [FloorRing K] (sqrt : K → K)
variable (windowSize : ℤ) (alpha : ℚ) (observations : List (String × ℚ)) (key : String)

/-- **The level is an average**, of the counts in the window. -/
structure Averages : Prop where
  /-- The level that a forecast starts from is between the smallest and the largest of them. -/
  level_between : 2 ≤ (kept windowSize (counts key observations)).length →
    Between (kept windowSize (counts key observations))
      (level alpha (((OrderForecaster.new windowSize alpha).observe observations).hist key))
  /-- The forecast of a constant shows that constant. -/
  constant : ∀ c, 2 ≤ (counts key observations).length → (∀ x ∈ counts key observations, x = c) →
    ∀ today days, ∀ point ∈
      ((OrderForecaster.new windowSize alpha).observe observations).forecast sqrt key today days,
      point.predictedOrders = shown c
  /-- What is outside of the window has no influence. -/
  recent : ∀ others,
    kept windowSize (counts key others) = kept windowSize (counts key observations) →
      ∀ today days,
        ((OrderForecaster.new windowSize alpha).observe others).forecast sqrt key today days =
        ((OrderForecaster.new windowSize alpha).observe observations).forecast sqrt key today days

end Promise

/-- The counts in the window are such that the level fits; and in a window of one count, a constant
is so small that it is shown as 0. -/
structure Fits (windowSize : ℤ) (alpha : ℚ) (counts : List ℚ) : Prop where
  level : 2 ≤ (kept windowSize counts).length → LevelFits alpha (kept windowSize counts)
  single : windowSize ≤ 1 → 2 ≤ counts.length → ∀ c, (∀ x ∈ counts, x = c) → c ≤ 1 / 20

/-! ### What is shown -/

/-- A twentieth is rounded to the even 0. -/
theorem shown_eq_zero_iff {c : ℚ} : shown c = 0 ↔ c ≤ 1 / 20 := by
  have hle := Int.floor_le (max c 0 * 10 ^ 1)
  have hnonneg : 0 ≤ ⌊max c 0 * 10 ^ 1⌋ :=
    Int.floor_nonneg.2 (mul_nonneg (le_max_right c 0) (by norm_num))
  have hsmall : c ≤ 1 / 20 ↔ max c 0 * 10 ^ 1 ≤ 1 / 2 := by
    constructor
    · intro hc
      have hmax : max c 0 ≤ 1 / 20 := max_le hc (by norm_num)
      linarith
    · intro hscaled
      linarith [le_max_left c 0]
  have hfloor (h : max c 0 * 10 ^ 1 ≤ 1 / 2) : ⌊max c 0 * 10 ^ 1⌋ = 0 :=
    le_antisymm (Int.le_of_lt_add_one (Int.floor_lt.2 (by push_cast; linarith))) hnonneg
  have hten : (10 : ℚ) ^ 1 ≠ 0 := by norm_num
  unfold shown roundDigits
  simp only [div_eq_zero_iff, hten, or_false, Int.cast_eq_zero]
  rw [hsmall]
  split_ifs with hdown
  · refine ⟨fun hzero => ?_, hfloor⟩
    rw [hzero, Int.cast_zero, sub_zero] at hdown
    exact hdown.elim le_of_lt fun h => h.1.le
  · refine ⟨fun hzero => by omega, fun hscaled => absurd ?_ hdown⟩
    rw [hfloor hscaled, Int.cast_zero, sub_zero]
    exact hscaled.lt_or_eq.imp_right fun h => ⟨h, Even.zero⟩

theorem trend_of_constant {hist : List ℚ} {c : ℚ} (h : ∀ x ∈ hist, x = c) : trend hist = 0 := by
  unfold trend
  cases hist with
  | nil => simp
  | cons x hist =>
    rw [List.getLastD_cons, List.headD_cons, h _ List.getLastD_mem_cons, h x List.mem_cons_self,
      sub_self, zero_div]

section Points

variable {K : Type*} [Field K] [LinearOrder K] [FloorRing K] {sqrt : K → K}
variable {f f' : OrderForecaster} {key : String} {today days : ℤ}

/-- A short history is forecast to be 0. -/
theorem predictedOrders_of_short (hshort : (f.hist key).length < 2) {point : ForecastPoint K}
    (hpoint : point ∈ f.forecast sqrt key today days) : point.predictedOrders = 0 := by
  simp only [OrderForecaster.forecast, if_pos hshort, List.mem_map] at hpoint
  obtain ⟨_, -, rfl⟩ := hpoint
  rfl

/-- A forecast starts from the level. -/
theorem exists_predictedOrders_eq (hlong : 2 ≤ (f.hist key).length) {point : ForecastPoint K}
    (hpoint : point ∈ f.forecast sqrt key today days) : ∃ i : ℤ, point.predictedOrders =
      shown (level f.alpha (f.hist key) + trend (f.hist key) * i) := by
  simp only [OrderForecaster.forecast, if_neg (not_lt.2 hlong), List.mem_map] at hpoint
  obtain ⟨i, -, rfl⟩ := hpoint
  exact ⟨i, rfl⟩

/-- There is a point for each day. -/
theorem length_forecast : (f.forecast sqrt key today days).length = days.toNat := by
  simp only [OrderForecaster.forecast]
  split_ifs <;> simp

/-- A forecast depends on the history of its key. -/
theorem forecast_congr (halpha : f.alpha = f'.alpha) (hhist : f.hist key = f'.hist key) :
    f.forecast sqrt key today days = f'.forecast sqrt key today days := by
  unfold OrderForecaster.forecast
  rw [halpha, hhist]

end Points

/-! ### When it holds -/

theorem length_kept (windowSize : ℤ) (l : List ℚ) :
    (kept windowSize l).length = min windowSize.toNat l.length := by
  unfold kept List.rtake
  rw [List.length_drop]
  omega

theorem mem_of_mem_kept {windowSize : ℤ} {l : List ℚ} {x : ℚ} (h : x ∈ kept windowSize l) : x ∈ l :=
  List.mem_of_mem_drop h

/-- **The level is an average** exactly for counts that fit. -/
theorem averages_iff {K : Type*} [Field K] [LinearOrder K] [FloorRing K] (sqrt : K → K)
    (windowSize : ℤ) {alpha : ℚ} (hpos : 0 < alpha) (hone : alpha < 1)
    (observations : List (String × ℚ)) (key : String) :
    Averages sqrt windowSize alpha observations key ↔
      Fits windowSize alpha (counts key observations) := by
  have hhist := hist_observe windowSize alpha observations key
  have halpha := alpha_observe (.new windowSize alpha) observations
  have hlength := length_kept windowSize (counts key observations)
  have hlevel (hlong : 2 ≤ (kept windowSize (counts key observations)).length) :
      Between (kept windowSize (counts key observations))
        (level alpha (kept windowSize (counts key observations))) ↔
      LevelFits alpha (kept windowSize (counts key observations)) :=
    between_level_iff hpos hone (List.length_pos_iff.1 (by omega))
  constructor
  · intro h
    refine ⟨fun hlong => (hlevel hlong).1 (hhist ▸ h.level_between hlong), ?_⟩
    intro hwindow hmany c hc
    -- the forecast of a day
    obtain ⟨point, hpoint⟩ : ∃ point, point ∈
        ((OrderForecaster.new windowSize alpha).observe observations).forecast sqrt key 0 1 :=
      List.exists_mem_of_length_pos (by rw [length_forecast]; decide)
    rw [← shown_eq_zero_iff, ← h.constant c hmany hc 0 1 point hpoint]
    exact predictedOrders_of_short (by rw [hhist]; omega) hpoint
  · intro h
    refine ⟨fun hlong => hhist ▸ (hlevel hlong).2 (h.level hlong), ?_, ?_⟩
    · intro c hmany hc today days point hpoint
      by_cases hlong : 2 ≤ (kept windowSize (counts key observations)).length
      · have hkept : ∀ x ∈ kept windowSize (counts key observations), x = c := fun x hx =>
          hc x (mem_of_mem_kept hx)
        obtain ⟨i, hi⟩ := exists_predictedOrders_eq (by rwa [hhist]) hpoint
        rw [hi, hhist, halpha, trend_of_constant hkept, zero_mul, add_zero]
        exact congrArg shown (((hlevel hlong).2 (h.level hlong)).eq_of_forall hkept)
      · rw [predictedOrders_of_short (by rw [hhist]; omega) hpoint]
        exact (shown_eq_zero_iff.2 (h.single (by omega) hmany c hc)).symm
    · intro others hothers today days
      refine forecast_congr ?_ ?_
      · rw [alpha_observe, alpha_observe]
      · rw [hist_observe, hist_observe, hothers]

/-- Counts that fall, in a window of two weeks. -/
def fallingOrders : List (String × ℚ) := [("Shanghai", 10), ("Beijing", 3), ("Shanghai", 2)]

theorem fallingOrders_averages :
    Averages Real.sqrt 14 (3 / 10) fallingOrders "Shanghai" := by
  refine (averages_iff Real.sqrt 14 (by norm_num) (by norm_num) fallingOrders "Shanghai").2 ?_
  refine ⟨fun _ => ⟨fun _ => ⟨10, ?_, ?_⟩, fun hneg => absurd hneg ?_⟩, fun h => absurd h ?_⟩
  all_goals decide +kernel

/-- Ten orders and ten orders are forecast to become thirteen. -/
theorem steadyOrders_not_averages :
    ¬ Averages Real.sqrt 14 (3 / 10) [("Shanghai", 10), ("Shanghai", 10)] "Shanghai" := by
  intro h
  have hlevel := (h.level_between (by decide +kernel)).eq_of_forall (c := 10) (by decide +kernel)
  rw [hist_observe] at hlevel
  exact absurd hlevel (by decide +kernel)

example : ((((OrderForecaster.new 14 (3 / 10)).addObservation "Shanghai" 10).addObservation
    "Shanghai" 10).forecast (id : ℚ → ℚ) "Shanghai" 0 2).map ForecastPoint.predictedOrders =
      [13, 13] := by decide +kernel

/-- **Which constants fit**: none but 0, where a window has room for two counts. -/
theorem fits_replicate_iff {windowSize : ℤ} {alpha c : ℚ} (hpos : 0 < alpha) (hone : alpha < 1)
    {n : ℕ} (hn : 2 ≤ n) :
    Fits windowSize alpha (List.replicate n c) ↔ if windowSize ≤ 1 then c ≤ 1 / 20 else c = 0 := by
  have hlength := length_kept windowSize (List.replicate n c)
  rw [List.length_replicate] at hlength
  have hkept : kept windowSize (List.replicate n c) =
      List.replicate (min windowSize.toNat n) c :=
    List.eq_replicate_iff.2 ⟨hlength, fun x hx => List.eq_of_mem_replicate (mem_of_mem_kept hx)⟩
  split_ifs with hwindow
  · constructor
    · intro h
      exact h.single hwindow (by simpa using hn) c fun x hx => List.eq_of_mem_replicate hx
    · intro hc
      refine ⟨fun hlong => by omega, fun _ _ c' hc' => ?_⟩
      exact hc' c (List.mem_replicate.2 ⟨by omega, rfl⟩) ▸ hc
  · have htwo : 2 ≤ min windowSize.toNat n := by omega
    have hne : List.replicate (min windowSize.toNat n) c ≠ [] := by
      rw [Ne, List.replicate_eq_nil_iff]
      omega
    have hbetween (y : ℚ) : Between (List.replicate (min windowSize.toNat n) c) y ↔ y = c := by
      constructor
      · exact fun h => h.eq_of_forall fun x hx => List.eq_of_mem_replicate hx
      · rintro rfl
        have hmem : y ∈ List.replicate (min windowSize.toNat n) y :=
          List.mem_replicate.2 ⟨by omega, rfl⟩
        exact ⟨⟨y, hmem, le_rfl⟩, ⟨y, hmem, le_rfl⟩⟩
    have hfits : LevelFits alpha (List.replicate (min windowSize.toNat n) c) ↔ c = 0 := by
      rw [← between_level_iff hpos hone hne, between_level_iff_ema hpos hne, hbetween,
        ema_eq_discounted, List.reverse_replicate, Discounted.discounted_replicate,
        Discounted.weight_mul_eq_self_iff hpos htwo]
    constructor
    · intro h
      exact hfits.1 (hkept ▸ h.level (by omega))
    · intro hc
      exact ⟨fun _ => hkept ▸ hfits.2 hc, fun h => absurd h hwindow⟩

end Tms

end OmsWmsTms
