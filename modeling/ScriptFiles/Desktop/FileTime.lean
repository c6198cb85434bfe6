/-!
# Times of files

Modification times as file systems keep them, and their milliseconds. Times before 1970 are
negative; milliseconds are rounded down, there too.
-/

namespace ScriptFiles.Desktop

/-- Seconds from 1970 on and nanoseconds within the second. -/
structure FileTime where
  seconds : Int
  nanoseconds : Nat
deriving DecidableEq, Repr, Inhabited

namespace FileTime

/-- The time a number of nanoseconds from 1970. -/
def ofNanoseconds (n : Int) : FileTime :=
  ⟨n.fdiv 1000000000, (n.fmod 1000000000).toNat⟩

/-- The milliseconds from 1970, rounded down. -/
def milliseconds (t : FileTime) : Int :=
  t.seconds * 1000 + t.nanoseconds / 1000000

end FileTime
end ScriptFiles.Desktop
