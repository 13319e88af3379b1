import Mathlib.Data.Nat.Digits.Defs
import Mathlib.Data.Int.Notation

/-!
# Times

A time is the number of microseconds since 1970-01-01 00:00 UTC.

* `hour`, `day`, `startOfDay` : `timedelta` and `datetime.replace`.
* `isoformat`, `dateIsoformat` : `datetime.isoformat` of a time in UTC, and `date.isoformat`.
* `shortDate` : `strftime("%y%m%d")`, which tells the dates of one century apart.
-/

namespace OmsWmsTms

/-- `timedelta(seconds=1)`. -/
def second : ℤ := 1000000

/-- `timedelta(hours=1)`. -/
def hour : ℤ := 3600 * second

/-- `timedelta(days=1)`. -/
def day : ℤ := 24 * hour

/-- `now.replace(hour=0, minute=0, second=0, microsecond=0)`. -/
def startOfDay (now : ℤ) : ℤ := now / day * day

/-- A number with at least `width` digits. -/
def padded (width : ℕ) (n : ℤ) : String :=
  String.ofList (List.leftpad width '0' (Nat.toDigits 10 n.toNat))

/-- The date of a number of days since 1970-01-01: year, month and day of the proleptic Gregorian
calendar. -/
def civil (days : ℤ) : ℤ × ℤ × ℤ :=
  -- years start in March, so that a leap day ends one
  let z := days + 719468
  let era := z / 146097
  let dayOfEra := z - era * 146097
  let yearOfEra := (dayOfEra - dayOfEra / 1460 + dayOfEra / 36524 - dayOfEra / 146096) / 365
  let dayOfYear := dayOfEra - (365 * yearOfEra + yearOfEra / 4 - yearOfEra / 100)
  let month := (5 * dayOfYear + 2) / 153
  let dayOfMonth := dayOfYear - (153 * month + 2) / 5 + 1
  let year := yearOfEra + era * 400
  if month < 10 then (year, month + 3, dayOfMonth) else (year + 1, month - 9, dayOfMonth)

/-- `date.isoformat` of a number of days since 1970-01-01. -/
def dateIsoformat (days : ℤ) : String :=
  let (year, month, dayOfMonth) := civil days
  padded 4 year ++ "-" ++ padded 2 month ++ "-" ++ padded 2 dayOfMonth

/-- `datetime.isoformat`. -/
def isoformat (t : ℤ) : String :=
  let (year, month, dayOfMonth) := civil (t / day)
  let rest := t % day
  let micros := rest % second
  let fraction := if micros = 0 then "" else "." ++ padded 6 micros
  padded 4 year ++ "-" ++ padded 2 month ++ "-" ++ padded 2 dayOfMonth ++ "T" ++
    padded 2 (rest / hour) ++ ":" ++ padded 2 (rest % hour / (60 * second)) ++ ":" ++
    padded 2 (rest % (60 * second) / second) ++ fraction ++ "+00:00"

example : isoformat 951782400000000 = "2000-02-29T00:00:00+00:00" := by decide +kernel

theorem le_length_padded (width : ℕ) (n : ℤ) : width ≤ (padded width n).length := by
  rw [padded, String.length_ofList, List.length_leftpad]
  exact Nat.le_max_left _ _

/-- **Only the text of a whole second has at most thirty characters.** -/
theorem wholeSecond_of_length {t : ℤ} (h : (isoformat t).length ≤ 30) : t % second = 0 := by
  by_contra hmicros
  have hrest : ¬ t % day % second = 0 := by
    rwa [Int.emod_emod_of_dvd t (by decide)]
  have htext : isoformat t = padded 4 (civil (t / day)).1 ++ "-" ++
      padded 2 (civil (t / day)).2.1 ++ "-" ++ padded 2 (civil (t / day)).2.2 ++ "T" ++
      padded 2 (t % day / hour) ++ ":" ++
      padded 2 (t % day % hour / (60 * second)) ++ ":" ++
      padded 2 (t % day % (60 * second) / second) ++ ("." ++ padded 6 (t % day % second)) ++
      "+00:00" := by
    have hfraction : (if t % day % second = 0 then ""
        else "." ++ padded 6 (t % day % second)) =
        "." ++ padded 6 (t % day % second) := if_neg hrest
    rw [← hfraction]
    rfl
  simp only [htext, String.length_append] at h
  have hyear := le_length_padded 4 (civil (t / day)).1
  have hmonth := le_length_padded 2 (civil (t / day)).2.1
  have hday := le_length_padded 2 (civil (t / day)).2.2
  have hhour := le_length_padded 2 (t % day / hour)
  have hminute := le_length_padded 2 (t % day % hour / (60 * second))
  have hsecond := le_length_padded 2 (t % day % (60 * second) / second)
  have hfraction := le_length_padded 6 (t % day % second)
  have hone : "-".length = 1 ∧ "T".length = 1 ∧ ":".length = 1 ∧ ".".length = 1 ∧
      "+00:00".length = 6 := by decide
  omega

/-- The year of the century, the month and the day of a time. -/
def dateInCentury (t : ℤ) : ℤ × ℤ × ℤ :=
  let (year, month, dayOfMonth) := civil (t / day)
  (year % 100, month, dayOfMonth)

/-- `strftime("%y%m%d")`. -/
def shortDate (t : ℤ) : String :=
  let (year, month, dayOfMonth) := dateInCentury t
  padded 2 year ++ padded 2 month ++ padded 2 dayOfMonth

/-- The numbers with two digits. -/
def TwoDigits (n : ℤ) : Prop := 0 ≤ n ∧ n < 100

theorem twoDigits_dateInCentury (t : ℤ) : TwoDigits (dateInCentury t).1 ∧
    TwoDigits (dateInCentury t).2.1 ∧ TwoDigits (dateInCentury t).2.2 := by
  simp only [dateInCentury, civil, TwoDigits]
  split_ifs <;> dsimp only <;> omega

theorem padded_two_fin : ∀ n : Fin 100, (padded 2 n.val).toList.length = 2 ∧
    (Nat.ofDigitChars 10 (padded 2 n.val).toList 0 : ℤ) = n.val := by decide +kernel

/-- Two digits are read back. -/
theorem padded_two {n : ℤ} (h : TwoDigits n) : (padded 2 n).toList.length = 2 ∧
    (Nat.ofDigitChars 10 (padded 2 n).toList 0 : ℤ) = n := by
  obtain ⟨k, rfl⟩ := Int.eq_ofNat_of_zero_le h.1
  have hlt : k < 100 := by have := h.2; omega
  exact padded_two_fin ⟨k, hlt⟩

theorem length_shortDate (t : ℤ) : (shortDate t).toList.length = 6 := by
  obtain ⟨hyear, hmonth, hday⟩ := twoDigits_dateInCentury t
  simp only [shortDate, String.toList_append, List.length_append, (padded_two hyear).1,
    (padded_two hmonth).1, (padded_two hday).1]

/-- **The text tells the dates of one century apart.** -/
theorem shortDate_eq_iff {t t' : ℤ} : shortDate t = shortDate t' ↔
    dateInCentury t = dateInCentury t' := by
  refine ⟨fun h => ?_, fun h => by rw [shortDate, shortDate, h]⟩
  obtain ⟨hyear, hmonth, hday⟩ := twoDigits_dateInCentury t
  obtain ⟨hyear', hmonth', hday'⟩ := twoDigits_dateInCentury t'
  have hlist := congrArg String.toList h
  simp only [shortDate, String.toList_append, List.append_assoc] at hlist
  obtain ⟨hy, hlist⟩ := List.append_inj hlist (by rw [(padded_two hyear).1, (padded_two hyear').1])
  obtain ⟨hm, hd⟩ := List.append_inj hlist (by rw [(padded_two hmonth).1, (padded_two hmonth').1])
  refine Prod.ext ?_ (Prod.ext ?_ ?_)
  · rw [← (padded_two hyear).2, ← (padded_two hyear').2, hy]
  · rw [← (padded_two hmonth).2, ← (padded_two hmonth').2, hm]
  · rw [← (padded_two hday).2, ← (padded_two hday').2, hd]

end OmsWmsTms
