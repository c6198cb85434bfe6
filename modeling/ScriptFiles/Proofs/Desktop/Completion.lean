import ScriptFiles.Proofs.Desktop.Answers
import ScriptFiles.Proofs.Desktop.Dates

/-!
# Which requests are answered

Every way through the service ends with an answer, whatever the calls of the operating system give,
but for one: a modification time that the library of dates has no date for ends the task of a status
request early. A request has at most one answer, for answering uses its completion up.
-/

namespace ScriptFiles

/-- Whether a result may answer a request: a success has to be of the kind that was asked for. -/
def Request.Expects (request : Request) (result : NativeResult) : Prop :=
  ∀ answer, result = .ok answer → request.accepts answer = true

namespace Desktop

/-! ## Answers -/

/-- A request is answered with an answer of its own kind or with a failure. -/
theorem expects_resultOf {α : Type} {request : Request} {path : String} {answer : α → Answer}
    (haccepts : ∀ a, request.accepts (answer a) = true) (outcome : Except IoCause α) :
    request.Expects (resultOf path answer outcome) := by
  rintro _ hanswer
  cases outcome with
  | ok a =>
    rw [← NativeResult.ok.inj hanswer]
    exact haccepts a
  | error cause => contradiction

namespace System

variable {σ δ : Type} (system : System σ) (dates : Dates δ) (base : Path) (s : σ)

/-- A request for the status of a path whose modification time has no date. -/
def Undated (request : Request) : Prop :=
  ∃ path metadata time, request = .stat path ∧
    (system.metadata (base.resolve path) s).1 = .ok metadata ∧
    metadata.modified = some time ∧ dates.date? time = none

/-- The event of a status request, if the request is answered. -/
def statEvents (path : String) (answer : Except IoCause Metadata) : List Log.Event :=
  (statResult? dates path answer).toList.map fun result =>
    Log.Event.say .debug logTarget "Stat file"
      [("path", .other path), ("ok", boolField result.error?.isNone)]

/-- What a status request comes to is decided by what its one call told. -/
theorem serveStat_eq (path : String) :
    (system.serveStat dates base path s).1 =
      ⟨statEvents dates path (system.metadata (base.resolve path) s).1,
        statResult? dates path (system.metadata (base.resolve path) s).1⟩ := by
  rw [serveStat]
  rcases system.metadata (base.resolve path) s with ⟨answer, after⟩
  cases hresult : statResult? dates path answer with
  | none => simp only [hresult, statEvents, Option.toList_none, List.map_nil]
  | some result => simp only [hresult, statEvents, Option.toList_some, List.map_cons, List.map_nil]

/-- Only a call that tells a modification time without a date leaves nothing to answer. -/
theorem statResult?_eq_none_iff (path : String) (answer : Except IoCause Metadata) :
    statResult? dates path answer = none ↔
      ∃ metadata time, answer = .ok metadata ∧ metadata.modified = some time ∧
        dates.date? time = none := by
  cases answer with
  | error cause =>
    simp only [statResult?, reduceCtorEq, false_and, exists_false, iff_false]
    split <;> simp
  | ok metadata =>
    rw [statResult?, Option.map_eq_none_iff, ← Option.not_isSome_iff_eq_none, isSome_statusOf?]
    simp

/-- The result of a status request is a status or a failure. -/
theorem expects_of_statResult? {path : String} {answer : Except IoCause Metadata}
    {result : NativeResult} (hresult : statResult? dates path answer = some result) :
    Request.Expects (.stat path) result := by
  rintro _ rfl
  cases answer with
  | error cause =>
    rw [statResult?] at hresult
    split at hresult
    · rw [← NativeResult.ok.inj (Option.some.inj hresult)]
      rfl
    · exact absurd (Option.some.inj hresult) (by simp)
  | ok metadata =>
    obtain ⟨status, -, hstatus⟩ := Option.map_eq_some_iff.mp hresult
    rw [← NativeResult.ok.inj hstatus]
    rfl

/-- Requests that change or read files are always answered. -/
theorem exists_answer_of_ne_stat {request : Request} (hstat : ∀ path, request ≠ .stat path) :
    ∃ result, (system.serve dates base request s).1.result = some result ∧
      request.Expects result := by
  cases request with
  | read path => exact ⟨_, rfl, expects_resultOf (fun _ => rfl) _⟩
  | write path data => exact ⟨_, rfl, expects_resultOf (fun _ => rfl) _⟩
  | move source target => exact ⟨_, rfl, expects_resultOf (fun _ => rfl) _⟩
  | remove path => exact ⟨_, rfl, expects_resultOf (fun _ => rfl) _⟩
  | stat path => exact absurd rfl (hstat path)

/-- A status request is undated exactly if it has no result. -/
theorem undated_stat_iff (path : String) :
    system.Undated dates base s (.stat path) ↔
      statResult? dates path (system.metadata (base.resolve path) s).1 = none := by
  rw [statResult?_eq_none_iff]
  constructor
  · rintro ⟨_, metadata, time, hpath, hanswer, hmodified, hdate⟩
    obtain rfl := Request.stat.inj hpath
    exact ⟨metadata, time, hanswer, hmodified, hdate⟩
  · rintro ⟨metadata, time, hanswer, hmodified, hdate⟩
    exact ⟨path, metadata, time, rfl, hanswer, hmodified, hdate⟩

/-- A request is undated or not by the modification time that its one call told. -/
theorem undated_iff_of_answer {path : String} {metadata : Metadata} {time : FileTime}
    (hanswer : (system.metadata (base.resolve path) s).1 = .ok metadata)
    (hmodified : metadata.modified = some time) :
    system.Undated dates base s (.stat path) ↔ dates.date? time = none := by
  rw [undated_stat_iff, hanswer, statResult?_eq_none_iff]
  constructor
  · rintro ⟨_, time', hmetadata, htime, hdate⟩
    obtain rfl := Except.ok.inj hmetadata
    obtain rfl := Option.some.inj (hmodified.symm.trans htime)
    exact hdate
  · exact fun hdate => ⟨metadata, time, rfl, hmodified, hdate⟩

/-- Every request is answered, exactly once and in its own kind, whatever the calls of the operating
system give, unless it asks for the status of a path whose modification time has no date; that one
is never answered and leaves no trace in the log. With a library of dates as documented these are
the times out of its range. The status of a path that is there tells a modification time in range in
milliseconds, rounded towards minus infinity, or zero if there is none. -/
theorem answered_unless_undated {range : DateRange} (hdates : dates.Documented range)
    (request : Request) :
    (¬ system.Undated dates base s request →
      ∃ result, (system.serve dates base request s).1.result = some result ∧
        request.Expects result) ∧
    (system.Undated dates base s request → (system.serve dates base request s).1 = ⟨[], none⟩) ∧
    ∀ path metadata, request = .stat path →
      (system.metadata (base.resolve path) s).1 = .ok metadata →
      (metadata.modified = none → (system.serve dates base request s).1.result =
        some (.ok (.status ⟨true, metadata.isDirectory, metadata.isFile, 0⟩))) ∧
      ∀ time, metadata.modified = some time → time.IsValid →
        (system.Undated dates base s request ↔ ¬ range.Contains time) ∧
        (range.Contains time →
          ∃ milliseconds : Int64, (system.serve dates base request s).1.result =
              some (.ok (.status ⟨true, metadata.isDirectory, metadata.isFile, milliseconds⟩)) ∧
            milliseconds.toInt = ⌊time.exactMilliseconds⌋) := by
  refine ⟨fun hdated => ?_, ?_, ?_⟩
  · by_cases hstat : ∃ path, request = .stat path
    · obtain ⟨path, rfl⟩ := hstat
      rw [undated_stat_iff] at hdated
      obtain ⟨result, hresult⟩ := Option.ne_none_iff_exists'.mp hdated
      refine ⟨result, ?_, expects_of_statResult? dates hresult⟩
      rw [serve, serveStat_eq]
      exact hresult
    · exact system.exists_answer_of_ne_stat dates base s (not_exists.mp hstat)
  · intro hundated
    obtain ⟨path, -, -, rfl, -⟩ := id hundated
    have hnone := (undated_stat_iff system dates base s path).mp hundated
    rw [serve, serveStat_eq, statEvents, hnone]
    rfl
  · rintro path metadata rfl hanswer
    refine ⟨fun hmodified => ?_, fun time hmodified hvalid => ⟨?_, fun hrange => ?_⟩⟩
    · rw [serve, serveStat_eq, hanswer]
      simp [statResult?, statusOf?, hmodified]
    · rw [undated_iff_of_answer system dates base s hanswer hmodified]
      exact hdates.date?_eq_none_iff hvalid
    · obtain ⟨milliseconds, hreported, hfloor⟩ := hdates.exists_reported hvalid hrange
      refine ⟨milliseconds, ?_, hfloor⟩
      rw [serve, serveStat_eq, hanswer]
      simp [statResult?, statusOf?, hmodified, hreported]

/-- A file changed a nanosecond before 1970, and one changed too long ago, with the dates of the
calendar. -/
theorem answered_unless_undated_before_1970 :
    let disk (time : FileTime) := sampleDisk.setTime ["root", "a.txt"] time
    let tell (time : FileTime) :=
      (Disk.system.metadata (Path.resolve ⟨["root"]⟩ "a.txt") (disk time)).1
    let serve (time : FileTime) :=
      (Disk.system.serve Dates.calendar ⟨["root"]⟩ (.stat "a.txt") (disk time)).1
    let late : FileTime := ⟨-1, 999999999⟩
    let early : FileTime := ⟨-9000000000000, 0⟩
    Dates.calendar.Documented Dates.calendarRange ∧
    tell late = .ok ⟨false, true, some late⟩ ∧ late.IsValid ∧
    Dates.calendarRange.Contains late ∧
    (∃ milliseconds : Int64,
      (serve late).result = some (.ok (.status ⟨true, false, true, milliseconds⟩)) ∧
        milliseconds.toInt = ⌊late.exactMilliseconds⌋) ∧
    ⌊late.exactMilliseconds⌋ = -1 ∧
    tell early = .ok ⟨false, true, some early⟩ ∧ early.IsValid ∧
    ¬ Dates.calendarRange.Contains early ∧ serve early = ⟨[], none⟩ := by
  intro disk tell serve late early
  have hlate : tell late = .ok ⟨false, true, some late⟩ := by decide
  have hearly : tell early = .ok ⟨false, true, some early⟩ := by decide
  have hvalidLate : late.IsValid := by decide
  have hvalidEarly : early.IsValid := by decide
  have hin : Dates.calendarRange.Contains late := by decide
  have hout : ¬ Dates.calendarRange.Contains early := by decide
  have htheorem (time : FileTime) := answered_unless_undated Disk.system .calendar ⟨["root"]⟩
    (disk time) Dates.documented_calendar (.stat "a.txt")
  obtain ⟨-, -, htold⟩ := htheorem late
  obtain ⟨-, hunanswered, hdecided⟩ := htheorem early
  obtain ⟨-, hanswered⟩ := (htold "a.txt" _ rfl hlate).2 late rfl hvalidLate
  obtain ⟨hundated, -⟩ := (hdecided "a.txt" _ rfl hearly).2 early rfl hvalidEarly
  refine ⟨Dates.documented_calendar, hlate, hvalidLate, hin, hanswered hin, ?_, hearly, hvalidEarly,
    hout, hunanswered (hundated.mpr hout)⟩
  rw [← FileTime.milliseconds_eq_floor]
  decide

/-- With no library of dates that is as documented is every status request answered: a file that was
changed too long ago has no status, not even a failure. -/
theorem undated_unanswered :
    ¬ ∃ (δ : Type) (dates : Dates δ) (range : DateRange), dates.Documented range ∧
      ∀ (d : Disk) (base : Path) (request : Request),
        (∀ entry ∈ d.entries, ∀ time ∈ entry.2.modified, time.IsValid) →
          (Disk.system.serve dates base request d).1.result.isSome = true := by
  rintro ⟨δ, dates, range, hdates, hall⟩
  let early : FileTime := ⟨-9000000000000, 0⟩
  let d := sampleDisk.setTime ["root", "a.txt"] early
  have hanswer : (Disk.system.metadata (Path.resolve ⟨["root"]⟩ "a.txt") d).1 =
      .ok ⟨false, true, some early⟩ := by decide
  have hrange : ¬ range.Contains early := by
    rintro ⟨hfirst, -⟩
    have hwide := hdates.wide.before.1
    simp only [secondsPerYear, early] at hwide hfirst
    omega
  have hnone : dates.date? early = none :=
    (hdates.date?_eq_none_iff (by decide)).mpr hrange
  have hundated := (undated_iff_of_answer Disk.system dates ⟨["root"]⟩ d hanswer rfl).mpr hnone
  have hanswered := hall d ⟨["root"]⟩ (.stat "a.txt") (by decide)
  rw [serve, serveStat_eq, (undated_stat_iff _ _ _ _ _).mp hundated] at hanswered
  contradiction

end System
end Desktop
end ScriptFiles
