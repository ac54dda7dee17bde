/-!
# The calendar

Days are counted from 1 January 1970 and written as year, month and day of the proleptic Gregorian
calendar.  Both directions work on years that start in March, so that the leap day is the last day
of its year, and on eras of 400 years, which all have 146097 days.

## Main Definitions

* `Date` — a year, month and day.
* `Date.ofDays`, `Date.toDays` — between a date and the number of its day.
* `Date.IsValid` — the day exists in its month.

`Date.toDays_ofDays` says that counting undoes writing.
-/

namespace EventSourcing

/-- A year, month and day. -/
structure Date where
  year : Int
  month : Nat
  day : Nat
  deriving Repr, DecidableEq, Inhabited

namespace Date

/-! ### Years of an era, months of a year -/

/-- Days of 400 years. -/
def eraDays : Int := 146097

/-- Days from 1 March of the year 0 to 1 January 1970. -/
def epochDays : Int := 719468

/-- The year, counted from the start of its era, that holds a day counted likewise: whole centuries,
then whole spans of four years, then whole years.  The last century of an era and the last year of
a span are one day longer than the others. -/
def yearOfEra (day : Int) : Int :=
  let century := min (day / 36524) 3
  let span := (day - century * 36524) / 1461
  let year := min ((day - century * 36524 - span * 1461) / 365) 3
  century * 100 + span * 4 + year

/-- The days of an era before a year of it. -/
def yearStart (year : Int) : Int := 365 * year + year / 4 - year / 100

/-- The month, counted from March, that holds a day of a year. -/
def monthOfYear (day : Int) : Int := (5 * day + 2) / 153

/-- The days of a year before a month of it. -/
def monthStart (month : Int) : Int := (153 * month + 2) / 5

/-- The year that is found is one of its era, and the day lies in it. -/
theorem yearOfEra_bounds {day : Int} (h : 0 ≤ day ∧ day < eraDays) :
    0 ≤ yearOfEra day ∧ yearOfEra day < 400 ∧
      0 ≤ day - yearStart (yearOfEra day) ∧ day - yearStart (yearOfEra day) ≤ 365 := by
  simp only [yearOfEra, yearStart, eraDays] at *
  obtain ⟨c, hc⟩ : ∃ c, c = min (day / 36524) 3 := ⟨_, rfl⟩
  simp only [← hc]
  obtain ⟨q, hq⟩ : ∃ q, q = (day - c * 36524) / 1461 := ⟨_, rfl⟩
  simp only [← hq]
  obtain ⟨y, hy⟩ : ∃ y, y = min ((day - c * 36524 - q * 1461) / 365) 3 := ⟨_, rfl⟩
  simp only [← hy]
  have hc' : 0 ≤ c ∧ c ≤ 3 ∧ 0 ≤ day - c * 36524 ∧ day - c * 36524 ≤ 36524 := by omega
  have hq' : 0 ≤ q ∧ q ≤ 24 ∧ 0 ≤ day - c * 36524 - q * 1461 ∧
      day - c * 36524 - q * 1461 ≤ 1460 := by omega
  have hy' : 0 ≤ y ∧ y ≤ 3 ∧ 0 ≤ day - c * 36524 - q * 1461 - y * 365 ∧
      day - c * 36524 - q * 1461 - y * 365 ≤ 365 := by omega
  have h4 : (c * 100 + q * 4 + y) / 4 = c * 25 + q := by omega
  have h100 : (c * 100 + q * 4 + y) / 100 = c := by omega
  rw [h4, h100]
  omega

/-- The month that is found is one of the year, and the day lies in it. -/
theorem monthOfYear_bounds {day : Int} (h : 0 ≤ day ∧ day ≤ 365) :
    0 ≤ monthOfYear day ∧ monthOfYear day < 12 ∧ monthStart (monthOfYear day) ≤ day := by
  simp only [monthOfYear, monthStart]
  omega

/-! ### Dates -/

/-- The date of a day. -/
def ofDays (n : Int) : Date :=
  let dayOfEra := (n + epochDays) % eraDays
  let year := yearOfEra dayOfEra
  let dayOfYear := dayOfEra - yearStart year
  let month := monthOfYear dayOfYear
  let fullYear := (n + epochDays) / eraDays * 400 + year
  { year := if month < 10 then fullYear else fullYear + 1
    month := (if month < 10 then month + 3 else month - 9).toNat
    day := (dayOfYear - monthStart month + 1).toNat }

/-- The number of the day of a date. -/
def toDays (d : Date) : Int :=
  let year := if d.month ≤ 2 then d.year - 1 else d.year
  let month : Int := if d.month ≤ 2 then d.month + 9 else d.month - 3
  year / 400 * eraDays + yearStart (year % 400) + monthStart month + d.day - 1 - epochDays

/-- Whether a year has a leap day. -/
def isLeap (year : Int) : Bool := year % 4 = 0 && (year % 100 ≠ 0 || year % 400 = 0)

/-- The number of days of a month. -/
def monthLength (year : Int) (month : Nat) : Nat :=
  if month = 2 then (if isLeap year then 29 else 28)
  else if month = 4 || month = 6 || month = 9 || month = 11 then 30
  else 31

/-- The month is one of twelve and the day exists in it. -/
def IsValid (d : Date) : Prop :=
  1 ≤ d.month ∧ d.month ≤ 12 ∧ 1 ≤ d.day ∧ d.day ≤ monthLength d.year d.month

instance (d : Date) : Decidable d.IsValid := inferInstanceAs (Decidable (_ ∧ _))

example : ofDays 0 = ⟨1970, 1, 1⟩ ∧ ofDays 19782 = ⟨2024, 2, 29⟩ ∧
    ofDays (-1) = ⟨1969, 12, 31⟩ := by
  decide

/-- Counting the days of a written date gives the number that was written. -/
theorem toDays_ofDays (n : Int) : (ofDays n).toDays = n := by
  have hday : 0 ≤ (n + epochDays) % eraDays ∧ (n + epochDays) % eraDays < eraDays := by
    simp only [eraDays]; omega
  have hsum := Int.mul_ediv_add_emod (n + epochDays) eraDays
  obtain ⟨hy0, hy1, hd0, hd1⟩ := yearOfEra_bounds hday
  obtain ⟨hm0, hm1, hm2⟩ := monthOfYear_bounds ⟨hd0, hd1⟩
  simp only [ofDays, toDays]
  obtain ⟨day, hd⟩ : ∃ day, day = (n + epochDays) % eraDays := ⟨_, rfl⟩
  simp only [← hd] at hday hsum hy0 hy1 hd0 hd1 hm0 hm1 hm2 ⊢
  obtain ⟨year, hy⟩ : ∃ year, year = yearOfEra day := ⟨_, rfl⟩
  simp only [← hy] at hy0 hy1 hd0 hd1 hm0 hm1 hm2 ⊢
  obtain ⟨m, hm⟩ : ∃ m, m = monthOfYear (day - yearStart year) := ⟨_, rfl⟩
  simp only [← hm] at hm0 hm1 hm2 ⊢
  obtain ⟨era, hera⟩ : ∃ era, era = (n + epochDays) / eraDays := ⟨_, rfl⟩
  simp only [← hera] at hsum ⊢
  by_cases h : m < 10
  · have h1 : ¬ (m + 3).toNat ≤ 2 := by omega
    have h2 : (era * 400 + year) % 400 = year := by omega
    have h3 : (era * 400 + year) / 400 = era := by omega
    have h4 : ((m + 3).toNat : Int) - 3 = m := by omega
    simp only [h, if_true, h1, if_false, h2, h3, h4, eraDays] at *
    omega
  · have h1 : (m - 9).toNat ≤ 2 := by omega
    have h2 : (era * 400 + year + 1 - 1) % 400 = year := by omega
    have h3 : (era * 400 + year + 1 - 1) / 400 = era := by omega
    have h4 : ((m - 9).toNat : Int) + 9 = m := by omega
    simp only [h, if_false, h1, if_true, h2, h3, h4, eraDays] at *
    omega

end Date
end EventSourcing
