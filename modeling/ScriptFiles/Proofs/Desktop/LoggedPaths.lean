import ScriptFiles.Proofs.Bridge.Directories
import ScriptFiles.Proofs.Desktop.Completion

/-!
# The desktop service logs paths in full

What the service logs is decided by the request and by what the calls made for it gave (`logged`),
so neither contents nor anything else that an operating system knows gets into the log. But the
paths do, as they were given: apart from the fields that show them, requests for files of the same
names leave the same log, and with these fields the log tells such requests apart.
-/

namespace ScriptFiles.Desktop

/-! ## Outcomes -/

/-- What the calls made for a request gave. -/
inductive CallOutcome
  | content (answer : Except IoCause Bytes)
  /-- Making the directory above a file, if there is one above it, and writing the file; a failure
  to make the directory is that of writing as well. -/
  | written (room : Option (Except IoCause Unit)) (answer : Except IoCause Unit)
  /-- Moving or removing. -/
  | changed (answer : Except IoCause Unit)
  | told (answer : Except IoCause Metadata)
deriving DecidableEq

/-- The outcome of a request. -/
def System.callOutcome {σ : Type} (system : System σ) (base : Path) (s : σ) : Request → CallOutcome
  | .read path => .content (system.readFile (base.resolve path) s).1
  | .write path data =>
    match (base.resolve path).parent? with
    | none => .written none (system.writeFile (base.resolve path) data s).1
    | some parent =>
      match system.makeDirectories parent s with
      | (.error cause, _) => .written (some (.error cause)) (.error cause)
      | (.ok (), s) => .written (some (.ok ())) (system.writeFile (base.resolve path) data s).1
  | .move source target => .changed (system.rename (base.resolve source) (base.resolve target) s).1
  | .remove path => .changed (system.unlink (base.resolve path) s).1
  | .stat path => .told (system.metadata (base.resolve path) s).1

/-! ## Logs -/

/-- The event of a file that was read or not. -/
def readEvent (path : String) : Except IoCause Bytes → Log.Event
  | .ok bytes => Log.Event.say .debug logTarget "Read file"
      [("path", .other path), ("size", .other (natText bytes.length))]
  | .error cause => Log.Event.say .debug logTarget "Read failed"
      [("path", .other path), ("error", .other (NativeError.io path cause).text)]

/-- The events of directories that were made above a path. -/
def roomEvents (path : Path) : Option (Except IoCause Unit) → List Log.Event
  | some (.ok ()) => [Log.Event.say .trace logTarget "Ensured parent directory"
      [("path", .other (Quoted.text ((path.parent?.map Path.text).getD "")))]]
  | _ => []

/-- What is logged for a request with an outcome, with some library of dates. -/
def logged {δ : Type} (dates : Dates δ) (base : Path) : Request → CallOutcome → List Log.Event
  | .read path, .content answer => [readEvent path answer]
  | .write path data, .written room answer => roomEvents (base.resolve path) room ++
      [Log.Event.say .debug logTarget "Wrote file"
        [("path", .other path), ("size", .other (natText data.length)), okField answer]]
  | .move source target, .changed answer =>
      [Log.Event.say .debug logTarget "Moved file"
        [("from", .other source), ("to", .other target), okField answer]]
  | .remove path, .changed answer =>
      [Log.Event.say .debug logTarget "Removed file" [("path", .other path), okField answer]]
  | .stat path, .told answer => System.statEvents dates path answer
  | _, _ => []

namespace System

variable {σ δ : Type} (system : System σ) (dates : Dates δ) (base : Path) (s : σ)

/-- A read logs one event, after the file was read. -/
theorem events_serveRead (path : String) :
    (system.serveRead base path s).1.events =
      [readEvent path (system.readFile (base.resolve path) s).1] := by
  rw [serveRead]
  rcases system.readFile (base.resolve path) s with ⟨answer | answer, after⟩ <;> rfl

/-- A write logs about the directories it makes and then about the file. -/
theorem events_serveWrite (path : String) (data : Bytes) :
    (system.serveWrite base path data s).1.events =
      logged dates base (.write path data) (system.callOutcome base s (.write path data)) := by
  rw [serveWrite, callOutcome, makeRoom]
  cases hparent : (base.resolve path).parent? with
  | none => rfl
  | some parent =>
    rcases hroom : system.makeDirectories parent s with ⟨cause | made, after⟩
    · simp only [hroom]
      rfl
    · simp only [hroom, logged, roomEvents, hparent]
      rfl

/-- The log of a request is decided by the request and its outcome. -/
theorem events_serve (request : Request) :
    (system.serve dates base request s).1.events =
      logged dates base request (system.callOutcome base s request) := by
  cases request with
  | read path => exact system.events_serveRead base s path
  | write path data => exact system.events_serveWrite dates base s path data
  | move source target => rfl
  | remove path => rfl
  | stat path =>
    rw [serve, serveStat_eq]
    rfl

end System

/-! ## What logs tell -/

variable {δ : Type} (dates : Dates δ)

/-- Requests for the same operation that differ at most in their paths. -/
inductive DifferInPaths : Request → Request → Prop
  | read (path path' : String) : DifferInPaths (.read path) (.read path')
  | write (path path' : String) (data : Bytes) :
      DifferInPaths (.write path data) (.write path' data)
  | move (source target source' target' : String) :
      DifferInPaths (.move source target) (.move source' target')
  | remove (path path' : String) : DifferInPaths (.remove path) (.remove path')
  | stat (path path' : String) : DifferInPaths (.stat path) (.stat path')

/-- Requests for the same file names differ in their paths only. -/
theorem differInPaths_of_files {request request' : Request}
    (hfiles : request.files = request'.files) : DifferInPaths request request' := by
  cases request <;> cases request' <;> simp only [Request.files, reduceCtorEq] at hfiles
  case read.read path path' => exact .read path path'
  case write.write path data path' data' =>
    obtain ⟨-, rfl⟩ := Request.write.inj hfiles
    exact .write path path' data
  case move.move source target source' target' => exact .move source target source' target'
  case remove.remove path path' => exact .remove path path'
  case stat.stat path path' => exact .stat path path'

/-- The fields that show a path, be it in the text of a failure. -/
def pathFields : List String :=
  ["path", "from", "to", "error"]

/-- An event without the fields that show a path. -/
def withoutPaths (event : Log.Event) : Log.Event :=
  { event with fields := event.fields.filter fun field => !pathFields.contains field.1 }

/-- The event of a read depends on its answer, apart from the path. -/
theorem withoutPaths_readEvent (path path' : String) (answer : Except IoCause Bytes) :
    withoutPaths (readEvent path answer) = withoutPaths (readEvent path' answer) := by
  cases answer <;> rfl

/-- The events about directories depend on how making them went, apart from the path. -/
theorem withoutPaths_roomEvents (path path' : Path) (room : Option (Except IoCause Unit)) :
    (roomEvents path room).map withoutPaths = (roomEvents path' room).map withoutPaths := by
  rcases room with - | (cause | made) <;> rfl

/-- The events of a status depend on its answer, apart from the path. -/
theorem withoutPaths_statEvents (path path' : String) (answer : Except IoCause Metadata) :
    (System.statEvents dates path answer).map withoutPaths =
      (System.statEvents dates path' answer).map withoutPaths := by
  cases answer with
  | error cause =>
    simp only [System.statEvents, System.statResult?]
    split <;> rfl
  | ok metadata =>
    simp only [System.statEvents, System.statResult?]
    cases System.statusOf? dates metadata <;> rfl

/-- Without the fields that show paths, requests that differ in paths alone leave the same log. -/
theorem withoutPaths_logged (base : Path) {request request' : Request}
    (hdiffer : DifferInPaths request request') (outcome : CallOutcome) :
    (logged dates base request outcome).map withoutPaths =
      (logged dates base request' outcome).map withoutPaths := by
  cases hdiffer with
  | read path path' =>
    cases outcome with
    | content answer =>
      simp only [logged, List.map_cons, List.map_nil, withoutPaths_readEvent path path']
    | _ => rfl
  | write path path' data =>
    cases outcome with
    | written room answer =>
      simp only [logged, List.map_append, withoutPaths_roomEvents _ (base.resolve path')]
      rfl
    | _ => rfl
  | move source target source' target' => cases outcome <;> rfl
  | remove path path' => cases outcome <;> rfl
  | stat path path' =>
    cases outcome with
    | told answer => exact withoutPaths_statEvents dates path path' answer
    | _ => rfl

/-- The paths of a request, as they were given. -/
def requestPaths : Request → List String
  | .read path | .write path _ | .remove path | .stat path => [path]
  | .move source target => [source, target]

/-- The paths that an event shows. -/
def shownPaths (event : Log.Event) : List String :=
  event.fields.filterMap fun field =>
    if ["path", "from", "to"].contains field.1 then some field.2.shown else none

/-- Requests that differ in their paths only are one request when the paths are the same. -/
theorem DifferInPaths.eq_of_paths {request request' : Request}
    (hdiffer : DifferInPaths request request')
    (hpaths : requestPaths request = requestPaths request') : request = request' := by
  cases hdiffer <;> simp_all [requestPaths]

/-- The last event of a request shows its paths in full. -/
theorem shownPaths_logged {base : Path} {request : Request} {outcome : CallOutcome}
    {event : Log.Event} (hlast : (logged dates base request outcome).getLast? = some event) :
    shownPaths event = requestPaths request := by
  cases request <;> cases outcome <;> try contradiction
  case read.content path answer =>
    obtain rfl := Option.some.inj hlast
    cases answer <;> rfl
  case write.written path data room answer =>
    rw [logged, List.getLast?_concat] at hlast
    obtain rfl := Option.some.inj hlast
    rfl
  case move.changed source target answer =>
    obtain rfl := Option.some.inj hlast
    rfl
  case remove.changed path answer =>
    obtain rfl := Option.some.inj hlast
    rfl
  case stat.told path answer =>
    rw [logged, System.statEvents] at hlast
    cases hresult : System.statResult? dates path answer with
    | none =>
      rw [hresult] at hlast
      contradiction
    | some result =>
      rw [hresult] at hlast
      obtain rfl := Option.some.inj hlast
      rfl

/-- The desktop service logs paths in full. Requests for files of the same names that come to the
same leave logs that agree but for the fields that show paths: in the number of events, their levels
and messages and their other fields. The last event, if anything is logged, shows the paths as they
were given, so such requests leave the same log only if they are the same. -/
theorem paths_logged_in_full {σ σ' : Type} (system : System σ) (system' : System σ') (base : Path)
    {request request' : Request} {s : σ} {s' : σ'} (hfiles : request.files = request'.files)
    (houtcome : system.callOutcome base s request = system'.callOutcome base s' request') :
    (system.serve dates base request s).1.events.map withoutPaths =
      (system'.serve dates base request' s').1.events.map withoutPaths ∧
    (∀ event, (system.serve dates base request s).1.events.getLast? = some event →
      shownPaths event = requestPaths request) ∧
    ((system.serve dates base request s).1.events ≠ [] →
      ((system.serve dates base request s).1.events =
          (system'.serve dates base request' s').1.events ↔
        request = request')) := by
  have hdiffer := differInPaths_of_files hfiles
  rw [System.events_serve, System.events_serve, ← houtcome]
  refine ⟨withoutPaths_logged dates base hdiffer _, fun event => shownPaths_logged dates,
    fun hany => ?_⟩
  constructor
  · intro hsame
    obtain ⟨event, hlast⟩ := Option.ne_none_iff_exists'.mp (mt List.getLast?_eq_none_iff.mp hany)
    refine hdiffer.eq_of_paths ?_
    rw [← shownPaths_logged dates hlast, ← shownPaths_logged dates (hsame ▸ hlast)]
  · rintro rfl
    rfl

/-- A disk with two directories, `a` and `b`, that hold the same file. -/
def twinDisk : Disk :=
  (["a", "b"].foldl fun d name =>
    (d.put [name] ⟨.directory, some ⟨0, 0⟩⟩).put [name, "x.txt"] ⟨.file [120], some ⟨0, 0⟩⟩)
    (Disk.empty ⟨0, 0⟩)

/-- The log tells in which directory a file was read. -/
theorem paths_logged_in_full_twins :
    (Request.read "a/x.txt").files = (Request.read "b/x.txt").files ∧
    Disk.system.callOutcome ⟨[]⟩ twinDisk (.read "a/x.txt") =
      Disk.system.callOutcome ⟨[]⟩ twinDisk (.read "b/x.txt") ∧
    (Disk.system.serve .calendar ⟨[]⟩ (.read "a/x.txt") twinDisk).1.events.map withoutPaths =
      (Disk.system.serve .calendar ⟨[]⟩ (.read "b/x.txt") twinDisk).1.events.map withoutPaths ∧
    (Disk.system.serve .calendar ⟨[]⟩ (.read "a/x.txt") twinDisk).1.events ≠
      (Disk.system.serve .calendar ⟨[]⟩ (.read "b/x.txt") twinDisk).1.events := by
  have hfiles : (Request.read "a/x.txt").files = (Request.read "b/x.txt").files := by
    decide +kernel
  have houtcome : Disk.system.callOutcome ⟨[]⟩ twinDisk (.read "a/x.txt") =
      Disk.system.callOutcome ⟨[]⟩ twinDisk (.read "b/x.txt") := by decide +kernel
  have hany : (Disk.system.serve .calendar ⟨[]⟩ (.read "a/x.txt") twinDisk).1.events ≠ [] := by
    decide +kernel
  obtain ⟨hrest, -, hiff⟩ :=
    paths_logged_in_full .calendar Disk.system Disk.system ⟨[]⟩ hfiles houtcome
  exact ⟨hfiles, houtcome, hrest, mt (hiff hany).mp (by decide)⟩

/-- Logs do not keep directories private. -/
theorem directories_logged :
    ¬ ∀ (d : Disk) (base : Path) (request request' : Request), request.files = request'.files →
      Disk.system.callOutcome base d request = Disk.system.callOutcome base d request' →
        (Disk.system.serve .calendar base request d).1.events =
          (Disk.system.serve .calendar base request' d).1.events := by
  intro hall
  have hsame := hall twinDisk ⟨[]⟩ (.read "a/x.txt") (.read "b/x.txt") (by decide +kernel)
    (by decide +kernel)
  have hdiffer : (Disk.system.serve .calendar ⟨[]⟩ (.read "a/x.txt") twinDisk).1.events ≠
      (Disk.system.serve .calendar ⟨[]⟩ (.read "b/x.txt") twinDisk).1.events := by decide +kernel
  exact hdiffer hsame

end ScriptFiles.Desktop
