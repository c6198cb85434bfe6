import ScriptFiles.Calendar

/-!
# The years of days

A day is taken apart by its era of 400 years, the century in it, the four years in that, and the
year among these, all counted from March on, so that a leap day ends the year it belongs to. From
this the year of a day is the one whose first of January is the last not after it, and the days of
years that dates are kept for are those between two fixed ones.
-/

namespace ScriptFiles.Calendar

/-! ## Days of an era -/

/-- A day of an era, taken apart. The last of four years has a leap day, but not at the end of a
century, unless that is the last of the era. -/
structure EraDay where
  century : Int
  fourYears : Int
  year : Int
  day : Int
  century_bounds : 0 ≤ century ∧ century ≤ 3
  fourYears_bounds : 0 ≤ fourYears ∧ fourYears ≤ 24
  year_bounds : 0 ≤ year ∧ year ≤ 3
  day_bounds : 0 ≤ day ∧ day ≤ 365
  leap_day : day = 365 → year = 3
  century_end : day = 365 → fourYears = 24 → century = 3

namespace EraDay

/-- The number of a day in its era. -/
def count (e : EraDay) : Int :=
  36524 * e.century + 1461 * e.fourYears + 365 * e.year + e.day

/-- The number of a year in its era. -/
def yearOfEra (e : EraDay) : Int :=
  100 * e.century + 4 * e.fourYears + e.year

/-- Every day of an era can be taken apart. -/
theorem exists_count_eq (day : Int) (hlow : 0 ≤ day) (hhigh : day ≤ 146096) :
    ∃ e : EraDay, e.count = day := by
  let century := min (day / 36524) 3
  let fourYears := (day - 36524 * century) / 1461
  let year := min ((day - 36524 * century - 1461 * fourYears) / 365) 3
  have hcentury : century = min (day / 36524) 3 := rfl
  have hfourYears : fourYears = (day - 36524 * century) / 1461 := rfl
  have hyear : year = min ((day - 36524 * century - 1461 * fourYears) / 365) 3 := rfl
  clear_value century fourYears year
  let e : EraDay := ⟨century, fourYears, year,
    day - 36524 * century - 1461 * fourYears - 365 * year,
    by omega, by omega, by omega, by omega, by omega, by omega⟩
  refine ⟨e, ?_⟩
  simp only [count, e]
  omega

variable (e : EraDay)

/-- The year of an era is one of its four hundred. -/
theorem yearOfEra_bounds : 0 ≤ e.yearOfEra ∧ e.yearOfEra ≤ 399 := by
  obtain ⟨century, fourYears, year, day, hcentury, hfourYears, hyear, hday, hleap, hend⟩ := e
  simp only [yearOfEra]
  omega

/-- The centuries passed by a day; the last day of an era is not in a fifth one. -/
theorem count_div_century : e.count / 36524 - e.count / 146096 = e.century := by
  obtain ⟨century, fourYears, year, day, hcentury, hfourYears, hyear, hday, hleap, hend⟩ := e
  simp only [count]
  have hlow : 36524 * century ≤ 36524 * century + 1461 * fourYears + 365 * year + day := by omega
  have hlast : 36524 * century + 1461 * fourYears + 365 * year + day ≤
      36524 * century + 36524 := by omega
  have hother : century < 3 → 36524 * century + 1461 * fourYears + 365 * year + day <
      36524 * century + 36524 := by omega
  omega

/-- The year of an era follows from the number of the day. -/
theorem yearOfEra_eq :
    (e.count - e.count / 1460 + e.count / 36524 - e.count / 146096) / 365 = e.yearOfEra := by
  have hcenturies := e.count_div_century
  obtain ⟨century, fourYears, year, day, hcentury, hfourYears, hyear, hday, hleap, hend⟩ := e
  simp only [count, yearOfEra] at hcenturies ⊢
  -- groups of 1460 days: one for every four years, and one more near the end of the last of them
  let extra := (24 * century + fourYears + 365 * year + day) / 1460
  have hextra : extra = (24 * century + fourYears + 365 * year + day) / 1460 := rfl
  clear_value extra
  have hgroups : (36524 * century + 1461 * fourYears + 365 * year + day) / 1460 =
      25 * century + fourYears + extra := by omega
  have hsum : 36524 * century + 1461 * fourYears + 365 * year + day -
      (36524 * century + 1461 * fourYears + 365 * year + day) / 1460 +
      (36524 * century + 1461 * fourYears + 365 * year + day) / 36524 -
      (36524 * century + 1461 * fourYears + 365 * year + day) / 146096 =
        365 * (100 * century + 4 * fourYears + year) + (day - extra) := by omega
  have hrest : 0 ≤ day - extra ∧ day - extra < 365 := by omega
  rw [hsum]
  omega

/-- What is left of the number of a day after its years is the day of the year. -/
theorem day_eq :
    e.count - (365 * e.yearOfEra + e.yearOfEra / 4 - e.yearOfEra / 100) = e.day := by
  obtain ⟨century, fourYears, year, day, hcentury, hfourYears, hyear, hday, hleap, hend⟩ := e
  simp only [count, yearOfEra]
  omega

end EraDay

/-! ## Years -/

/-- The first of January of a year, as a number of days from 1970-01-01 on. -/
def yearStart (year : Int) : Int :=
  daysFromDate year 1 1

/-- The days before a year, counted with one leap day in four years, and so on. -/
theorem yearStart_eq (year : Int) :
    yearStart year = 365 * (year - 1) + (year - 1) / 4 - (year - 1) / 100 + (year - 1) / 400 -
      719162 := by
  simp only [yearStart, daysFromDate, Int.fdiv_eq_ediv_of_nonneg _ (by decide : (0 : Int) ≤ 400)]
  omega

/-- Years have 365 or 366 days. -/
theorem yearStart_succ (year : Int) :
    yearStart year + 365 ≤ yearStart (year + 1) ∧ yearStart (year + 1) ≤ yearStart year + 366 := by
  rw [yearStart_eq, yearStart_eq]
  omega

/-- Later years do not start earlier. -/
theorem yearStart_mono {year year' : Int} (h : year ≤ year') :
    yearStart year ≤ yearStart year' := by
  rw [yearStart_eq, yearStart_eq]
  omega

/-- Every day is in an era. The year of a day counted from March on becomes the next one from
January on, 306 days later. -/
theorem exists_eraDay (days : Int) :
    ∃ (e : EraDay) (era : Int), days + 719468 = era * 146097 + e.count ∧
      (dateFromDays days).1 = e.yearOfEra + era * 400 + if 306 ≤ e.day then 1 else 0 := by
  obtain ⟨e, he⟩ := EraDay.exists_count_eq
    (days + 719468 - (days + 719468) / 146097 * 146097) (by omega) (by omega)
  refine ⟨e, (days + 719468) / 146097, by omega, ?_⟩
  have hday := e.day_bounds
  simp only [dateFromDays, Int.fdiv_eq_ediv_of_nonneg _ (by decide : (0 : Int) ≤ 146097), ← he,
    e.yearOfEra_eq, e.day_eq]
  congr 1
  split <;> split <;> omega

/-- The year of a day is the one in which it falls. -/
theorem yearStart_le_and_lt (days : Int) :
    yearStart (dateFromDays days).1 ≤ days ∧ days < yearStart ((dateFromDays days).1 + 1) := by
  obtain ⟨e, era, hdays, hyear⟩ := exists_eraDay days
  have hcount := e.day_eq
  have hday := e.day_bounds
  have hbounds := e.yearOfEra_bounds
  have hmarch : yearStart (e.yearOfEra + era * 400 + 1) = days - e.day + 306 := by
    rw [yearStart_eq]
    omega
  have hnext := yearStart_succ (e.yearOfEra + era * 400 + 1)
  have hbefore := yearStart_succ (e.yearOfEra + era * 400)
  rw [hyear]
  split
  · omega
  · rw [Int.add_zero]
    omega

/-- A day is in a year or later exactly if it is not before the first of January. -/
theorem le_year_iff (year days : Int) : year ≤ (dateFromDays days).1 ↔ yearStart year ≤ days := by
  obtain ⟨hstart, hend⟩ := yearStart_le_and_lt days
  constructor
  · intro hyear
    exact Int.le_trans (yearStart_mono hyear) hstart
  · intro hdays
    refine Int.not_lt.mp fun hlt => ?_
    have hlater := yearStart_mono (Int.add_one_le_of_lt hlt)
    omega

/-! ## Dates -/

/-- The first second of the years that dates are kept for. -/
def firstSecond : Int := -8334601228800

/-- The last second of the years that dates are kept for. -/
def lastSecond : Int := 8210266876799

/-- Dates are kept for the seconds between two fixed ones. -/
theorem hasDate_iff (seconds : Int) :
    hasDate seconds = true ↔ firstSecond ≤ seconds ∧ seconds ≤ lastSecond := by
  have hfirst : yearStart (-262143) = -96465292 := by decide
  have hlast : yearStart 262143 = 95026237 := by decide
  have hlow := le_year_iff (-262143) (seconds.fdiv secondsPerDay)
  have hhigh := le_year_iff 262143 (seconds.fdiv secondsPerDay)
  rw [hfirst] at hlow
  rw [hlast] at hhigh
  rw [hasDate, yearInRange, Bool.and_eq_true, decide_eq_true_eq, decide_eq_true_eq, hlow]
  rw [Int.fdiv_eq_ediv_of_nonneg _ (by decide : 0 ≤ secondsPerDay)] at hhigh ⊢
  unfold secondsPerDay at hhigh ⊢
  unfold firstSecond lastSecond
  omega

end ScriptFiles.Calendar
