import Mathlib.Data.Rat.Floor
import ScriptFiles.Desktop.Dates
import ScriptFiles.Proofs.Calendar

/-!
# What a library of dates is relied on for

`Dates.Documented` says what the desktop service relies on: a library has dates for a range of
seconds, about 262,000 years around 1970, and none outside it, and a date tells the time that it was
made from. That the milliseconds of a date are those of the time, rounded towards minus infinity,
follows. The dates of the calendar are such a library.
-/

namespace ScriptFiles.Desktop

namespace FileTime

/-- A time as an operating system can give it. -/
structure IsValid (t : FileTime) : Prop where
  low : -2 ^ 63 ≤ t.seconds
  high : t.seconds < 2 ^ 63
  nanoseconds : t.nanoseconds < 1000000000

instance (t : FileTime) : Decidable t.IsValid :=
  decidable_of_iff (-2 ^ 63 ≤ t.seconds ∧ t.seconds < 2 ^ 63 ∧ t.nanoseconds < 1000000000)
    ⟨fun ⟨hlow, hhigh, hnanoseconds⟩ => ⟨hlow, hhigh, hnanoseconds⟩,
      fun h => ⟨h.low, h.high, h.nanoseconds⟩⟩

/-- The time in milliseconds, not rounded. -/
def exactMilliseconds (t : FileTime) : ℚ :=
  t.seconds * 1000 + t.nanoseconds / 1000000

/-- Milliseconds are rounded towards minus infinity. -/
theorem milliseconds_eq_floor (t : FileTime) : t.milliseconds = ⌊t.exactMilliseconds⌋ := by
  have hfraction : ⌊(t.nanoseconds / 1000000 : ℚ)⌋ = t.nanoseconds / 1000000 := by
    exact_mod_cast Rat.floor_natCast_div_natCast t.nanoseconds 1000000
  have hwhole : (t.seconds * 1000 : ℚ) = ((t.seconds * 1000 : ℤ) : ℚ) := by push_cast; rfl
  rw [exactMilliseconds, hwhole, Int.floor_intCast_add, hfraction, milliseconds]

end FileTime

/-- A range of seconds, given by its ends. -/
structure DateRange where
  first : Int
  last : Int

/-- Whether a time is in a range. -/
def DateRange.Contains (range : DateRange) (t : FileTime) : Prop :=
  range.first ≤ t.seconds ∧ t.seconds ≤ range.last

instance (range : DateRange) (t : FileTime) : Decidable (range.Contains t) :=
  inferInstanceAs (Decidable (_ ∧ _))

/-- The seconds of an average year. -/
def secondsPerYear : Int := 31556952

/-- A range that ends about 262,000 years before and after 1970. -/
structure DateRange.IsWide (range : DateRange) : Prop where
  before : -265000 * secondsPerYear ≤ range.first ∧ range.first ≤ -260000 * secondsPerYear
  after : 260000 * secondsPerYear ≤ range.last ∧ range.last ≤ 265000 * secondsPerYear

namespace Dates

variable {δ : Type} {dates : Dates δ} {range : DateRange} {t : FileTime}

/-- What is documented of a library of dates with a range. -/
structure Documented (dates : Dates δ) (range : DateRange) : Prop where
  /-- The range ends about 262,000 years before and after 1970. -/
  wide : range.IsWide
  /-- A time has a date exactly if it is in the range. -/
  isSome_date?_iff : ∀ t : FileTime, t.IsValid →
    ((dates.date? t).isSome = true ↔ range.Contains t)
  /-- The date of a time is in the same second. -/
  seconds_eq : ∀ (t : FileTime) (date : δ), t.IsValid → dates.date? t = some date →
    dates.seconds date = t.seconds
  /-- The date of a time is as far beyond that second. -/
  nanoseconds_eq : ∀ (t : FileTime) (date : δ), t.IsValid → dates.date? t = some date →
    dates.nanoseconds date = t.nanoseconds
  /-- The milliseconds of a date are those of its second and the whole ones beyond it. -/
  milliseconds_eq : ∀ (t : FileTime) (date : δ), t.IsValid → dates.date? t = some date →
    (dates.milliseconds date).toInt =
      dates.seconds date * 1000 + dates.nanoseconds date / 1000000

/-- A time out of range has no date. -/
theorem Documented.date?_eq_none_iff (hdates : dates.Documented range) (hvalid : t.IsValid) :
    dates.date? t = none ↔ ¬ range.Contains t := by
  rw [← hdates.isSome_date?_iff t hvalid, Bool.not_eq_true, Option.isSome_eq_false_iff,
    Option.isNone_iff_eq_none]

/-- A status reports the milliseconds of a time in range, rounded towards minus infinity. -/
theorem Documented.exists_reported (hdates : dates.Documented range) (hvalid : t.IsValid)
    (hrange : range.Contains t) :
    ∃ milliseconds : Int64, dates.reported? t = some milliseconds ∧
      milliseconds.toInt = ⌊t.exactMilliseconds⌋ := by
  obtain ⟨date, hdate⟩ :=
    Option.isSome_iff_exists.mp ((hdates.isSome_date?_iff t hvalid).mpr hrange)
  refine ⟨dates.milliseconds date, by rw [reported?, hdate]; rfl, ?_⟩
  rw [hdates.milliseconds_eq t date hvalid hdate, hdates.seconds_eq t date hvalid hdate,
    hdates.nanoseconds_eq t date hvalid hdate, ← FileTime.milliseconds_eq_floor]
  rfl

/-- The seconds that the calendar keeps dates for. -/
def calendarRange : DateRange :=
  ⟨Calendar.firstSecond, Calendar.lastSecond⟩

/-- The milliseconds of a time with a date fit into the field that reports them. -/
theorem toInt_milliseconds (hvalid : t.IsValid) (hrange : calendarRange.Contains t) :
    (Int64.ofInt t.milliseconds).toInt = t.milliseconds := by
  obtain ⟨hfirst, hlast⟩ := hrange
  have hnanoseconds := hvalid.nanoseconds
  simp only [calendarRange, Calendar.firstSecond] at hfirst
  simp only [calendarRange, Calendar.lastSecond] at hlast
  apply Int64.toInt_ofInt_of_le
  · rw [FileTime.milliseconds]
    omega
  · rw [FileTime.milliseconds]
    omega

/-- The calendar keeps a time itself as its date. -/
theorem calendar_date?_eq_some_iff {date : FileTime} :
    calendar.date? t = some date ↔ Calendar.hasDate t.seconds = true ∧ t = date := by
  simp [calendar]

/-- The dates of the calendar are as documented. -/
theorem documented_calendar : calendar.Documented calendarRange where
  wide := by
    constructor <;> decide
  isSome_date?_iff t _ := by
    rw [DateRange.Contains, calendarRange, ← Calendar.hasDate_iff]
    simp [calendar]
  seconds_eq t date _ hdate := by
    obtain ⟨-, rfl⟩ := calendar_date?_eq_some_iff.mp hdate
    rfl
  nanoseconds_eq t date _ hdate := by
    obtain ⟨-, rfl⟩ := calendar_date?_eq_some_iff.mp hdate
    rfl
  milliseconds_eq t date hvalid hdate := by
    obtain ⟨hyear, rfl⟩ := calendar_date?_eq_some_iff.mp hdate
    exact toInt_milliseconds hvalid ((Calendar.hasDate_iff t.seconds).mp hyear)

end Dates
end ScriptFiles.Desktop
