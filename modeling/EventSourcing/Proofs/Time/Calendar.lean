import EventSourcing.Time.Calendar

/-!
# The dates of days exist

The date that is found for a day names a month of the year and a day of that month.  Only the
length of February depends on the year: a year that starts in March has a last day, its 366th, only
if the calendar year in which it ends is a leap year.

## Main Statements

* `Date.isValid_ofDays` — the date of every day exists.
* `Date.year_ofDays` — the years of the days that instants can lie in.
-/

namespace EventSourcing.Date

/-- A year of an era has a 366th day only if the next year is divisible by 4, and by 400 if by
100. -/
theorem leap_of_last_day {day : Int} (h : 0 ≤ day ∧ day < eraDays)
    (hlast : day - yearStart (yearOfEra day) = 365) :
    (yearOfEra day + 1) % 4 = 0 ∧
      ((yearOfEra day + 1) % 100 ≠ 0 ∨ (yearOfEra day + 1) % 400 = 0) := by
  simp only [yearOfEra, yearStart, eraDays] at *
  obtain ⟨c, hc⟩ : ∃ c, c = min (day / 36524) 3 := ⟨_, rfl⟩
  simp only [← hc] at hlast ⊢
  obtain ⟨q, hq⟩ : ∃ q, q = (day - c * 36524) / 1461 := ⟨_, rfl⟩
  simp only [← hq] at hlast ⊢
  obtain ⟨y, hy⟩ : ∃ y, y = min ((day - c * 36524 - q * 1461) / 365) 3 := ⟨_, rfl⟩
  simp only [← hy] at hlast ⊢
  have hc' : 0 ≤ c ∧ c ≤ 3 ∧ 0 ≤ day - c * 36524 ∧ day - c * 36524 ≤ 36524 ∧
      (c < 3 → day - c * 36524 < 36524) := by omega
  have hq' : 0 ≤ q ∧ q ≤ 24 ∧ 0 ≤ day - c * 36524 - q * 1461 ∧
      day - c * 36524 - q * 1461 ≤ 1460 := by omega
  have hy' : 0 ≤ y ∧ y ≤ 3 ∧ 0 ≤ day - c * 36524 - q * 1461 - y * 365 := by omega
  have h4 : (c * 100 + q * 4 + y) / 4 = c * 25 + q := by omega
  have h100 : (c * 100 + q * 4 + y) / 100 = c := by omega
  rw [h4, h100] at hlast
  -- The 366th day is the last one of a span of four years, and never of the first three centuries.
  have hspan : y = 3 ∧ day - c * 36524 - q * 1461 = 1460 := by omega
  have hcentury : q = 24 → c = 3 := by omega
  omega

/-- What is known of the year, the month and the day of the date of a day, all counted from
March. -/
theorem ofDays_parts (n : Int) : ∃ year month day : Int,
    0 ≤ month ∧ month < 12 ∧ 0 ≤ day - monthStart month ∧ day < monthStart (month + 1) ∧
      day ≤ 365 ∧ (day = 365 → (year + 1) % 4 = 0 ∧
        ((year + 1) % 100 ≠ 0 ∨ (year + 1) % 400 = 0)) ∧
      ofDays n = ⟨if month < 10 then year else year + 1,
        (if month < 10 then month + 3 else month - 9).toNat,
        (day - monthStart month + 1).toNat⟩ := by
  have hday : 0 ≤ (n + epochDays) % eraDays ∧ (n + epochDays) % eraDays < eraDays := by
    simp only [eraDays]
    omega
  obtain ⟨hy0, hy1, hd0, hd1⟩ := yearOfEra_bounds hday
  obtain ⟨hm0, hm1, hm2⟩ := monthOfYear_bounds ⟨hd0, hd1⟩
  refine ⟨(n + epochDays) / eraDays * 400 + yearOfEra ((n + epochDays) % eraDays),
    monthOfYear ((n + epochDays) % eraDays - yearStart (yearOfEra ((n + epochDays) % eraDays))),
    (n + epochDays) % eraDays - yearStart (yearOfEra ((n + epochDays) % eraDays)),
    hm0, hm1, by omega, ?_, hd1, fun hlast => ?_, rfl⟩
  · simp only [monthOfYear, monthStart]
    omega
  · have hleap := leap_of_last_day hday hlast
    omega

/-- **The date of every day exists.** -/
theorem isValid_ofDays (n : Int) : (ofDays n).IsValid := by
  obtain ⟨year, month, day, hm0, hm1, hd0, hd1, hd2, hleap, heq⟩ := ofDays_parts n
  rw [heq]
  simp only [IsValid, monthLength, isLeap]
  -- Twelve months: only January and February belong to the next calendar year.
  have hcases : month = 0 ∨ month = 1 ∨ month = 2 ∨ month = 3 ∨ month = 4 ∨ month = 5 ∨
      month = 6 ∨ month = 7 ∨ month = 8 ∨ month = 9 ∨ month = 10 ∨ month = 11 := by omega
  rcases hcases with h | h | h | h | h | h | h | h | h | h | h | h
  all_goals
    subst h
    simp [monthStart] at hd0 hd1 ⊢
  all_goals try split
  all_goals omega

/-- The first day of the range lies in the last days of a year that starts in March, and the last
day in the first ten months of one. -/
theorem yearOfEra_ends {day : Int} (h : 0 ≤ day ∧ day < eraDays) :
    (93808 ≤ day → 256 < yearOfEra day ∨
      yearOfEra day = 256 ∧ 10 ≤ monthOfYear (day - yearStart (yearOfEra day))) ∧
    (day ≤ 52169 → yearOfEra day < 142 ∨
      yearOfEra day = 142 ∧ monthOfYear (day - yearStart (yearOfEra day)) < 10) := by
  obtain ⟨hy0, hy1, hd0, hd1⟩ := yearOfEra_bounds h
  simp only [yearOfEra, yearStart, eraDays, monthOfYear] at *
  obtain ⟨c, hc⟩ : ∃ c, c = min (day / 36524) 3 := ⟨_, rfl⟩
  simp only [← hc] at hy0 hy1 hd0 hd1 ⊢
  obtain ⟨q, hq⟩ : ∃ q, q = (day - c * 36524) / 1461 := ⟨_, rfl⟩
  simp only [← hq] at hy0 hy1 hd0 hd1 ⊢
  obtain ⟨y, hy⟩ : ∃ y, y = min ((day - c * 36524 - q * 1461) / 365) 3 := ⟨_, rfl⟩
  simp only [← hy] at hy0 hy1 hd0 hd1 ⊢
  have hc' : 0 ≤ c ∧ c ≤ 3 := by omega
  have hq' : 0 ≤ q ∧ q ≤ 24 := by omega
  have hy' : 0 ≤ y ∧ y ≤ 3 := by omega
  constructor
  · intro hlow
    have hcentury : 2 ≤ c := by omega
    omega
  · intro hhigh
    have hcentury : c ≤ 1 := by omega
    omega

/-- **The years of the days that instants can lie in.** -/
theorem year_ofDays {n : Int} (h : -96465292 ≤ n ∧ n ≤ 95026236) :
    -262143 ≤ (ofDays n).year ∧ (ofDays n).year ≤ 262142 := by
  have hday : 0 ≤ (n + epochDays) % eraDays ∧ (n + epochDays) % eraDays < eraDays := by
    simp only [eraDays]
    omega
  have hyear := yearOfEra_bounds hday
  obtain ⟨hlow, hhigh⟩ := yearOfEra_ends hday
  simp only [ofDays]
  generalize hm : monthOfYear _ = month at *
  generalize hy : yearOfEra _ = year at *
  simp only [epochDays, eraDays] at *
  split <;> omega

end EventSourcing.Date
