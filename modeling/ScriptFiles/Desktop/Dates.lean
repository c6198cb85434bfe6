import ScriptFiles.Calendar
import ScriptFiles.Desktop.FileTime

/-!
# Libraries of dates

The desktop service takes the milliseconds of a modification time from a library of dates, which is
left open here: what is said of the service for all `Dates` holds whatever range the dates of a
library have. A time outside that range ends the task that asks for its date. The dates of the
calendar are the library that programs run with.
-/

namespace ScriptFiles.Desktop

/-- A library of dates `δ`. -/
structure Dates (δ : Type) where
  /-- The date of a time; none if the time is out of range, which ends the task that asks. -/
  date? : FileTime → Option δ
  /-- The whole seconds from 1970 on, rounded down. -/
  seconds : δ → Int
  /-- The nanoseconds beyond the whole seconds. -/
  nanoseconds : δ → Nat
  /-- The milliseconds from 1970 on. -/
  milliseconds : δ → Int64

namespace Dates

/-- The milliseconds that a status reports for a time; a time without a date has none. -/
def reported? {δ : Type} (dates : Dates δ) (t : FileTime) : Option Int64 :=
  (dates.date? t).map dates.milliseconds

/-- The library that keeps dates for the years of the calendar. -/
def calendar : Dates FileTime where
  date? t := if Calendar.hasDate t.seconds then some t else none
  seconds := FileTime.seconds
  nanoseconds := FileTime.nanoseconds
  milliseconds t := Int64.ofInt t.milliseconds

end Dates
end ScriptFiles.Desktop
