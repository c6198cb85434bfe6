import ScriptFiles.Desktop.Dates
import ScriptFiles.Desktop.System
import ScriptFiles.Log.Event
import ScriptFiles.Native.Service
import ScriptFiles.Text.Quoted

/-!
# The desktop file service

How the native service answers a request with the calls of an operating system and a library of
dates: which calls it makes, what it makes of their answers and what it records. A failure carries
the path as it was given. A request whose task ends early is never answered.
-/

namespace ScriptFiles.Desktop

/-- The module name of events of the service. -/
def logTarget : String := "bridge_desktop::filesystem"

/-- What a request came to: its events, and its answer unless the task ended early. -/
structure Service where
  events : List Log.Event
  result : Option NativeResult
deriving DecidableEq, Repr

/-- A truth value in a log entry. -/
def boolField (b : Bool) : Log.FieldValue :=
  .other (if b then "true" else "false")

/-- Whether a call succeeded, in a log entry. -/
def okField {α : Type} (result : Except IoCause α) : String × Log.FieldValue :=
  ("ok", boolField result.toBool)

/-- The result of a request for the answer of a call; a failure names the path as given. -/
def resultOf {α : Type} (path : String) (answer : α → Answer) : Except IoCause α → NativeResult
  | .ok a => .ok (answer a)
  | .error cause => .failed (.io path cause)

namespace System

variable {σ δ : Type} (system : System σ) (dates : Dates δ)

/-- Reads a whole file. -/
def serveRead (base : Path) (path : String) (s : σ) : Service × σ :=
  let (answer, s) := system.readFile (base.resolve path) s
  let result := resultOf path .content answer
  let event :=
    match result with
    | .ok content =>
      Log.Event.say .debug logTarget "Read file"
        [("path", .other path), ("size", .other (natText content.bytes.length))]
    | .failed error =>
      Log.Event.say .debug logTarget "Read failed"
        [("path", .other path), ("error", .other error.text)]
  (⟨[event], some result⟩, s)

/-- Makes the directories that a file needs, and the events of that. The parent of an absolute path
is never empty, so the case of an empty one, for which nothing is made, does not come up here. -/
def makeRoom (path : Path) (s : σ) : Except IoCause (List Log.Event) × σ :=
  match path.parent? with
  | none => (.ok [], s)
  | some parent =>
    match system.makeDirectories parent s with
    | (.error cause, s) => (.error cause, s)
    | (.ok (), s) =>
      (.ok [Log.Event.say .trace logTarget "Ensured parent directory"
        [("path", .other (Quoted.text parent.text))]], s)

/-- Writes a file after making the directories above it. -/
def serveWrite (base : Path) (path : String) (data : Bytes) (s : σ) : Service × σ :=
  let full := base.resolve path
  let (events, answer, s) : List Log.Event × Except IoCause Unit × σ :=
    match system.makeRoom full s with
    | (.error cause, s) => ([], .error cause, s)
    | (.ok events, s) =>
      let (answer, s) := system.writeFile full data s
      (events, answer, s)
  let event := Log.Event.say .debug logTarget "Wrote file"
    [("path", .other path), ("size", .other (natText data.length)), okField answer]
  (⟨events ++ [event], some (resultOf path (fun _ => .done) answer)⟩, s)

/-- Moves an entry; a failure names the path it had. -/
def serveMove (base : Path) (source target : String) (s : σ) : Service × σ :=
  let (answer, s) := system.rename (base.resolve source) (base.resolve target) s
  let event := Log.Event.say .debug logTarget "Moved file"
    [("from", .other source), ("to", .other target), okField answer]
  (⟨[event], some (resultOf source (fun _ => .done) answer)⟩, s)

/-- Removes a file. -/
def serveRemove (base : Path) (path : String) (s : σ) : Service × σ :=
  let (answer, s) := system.unlink (base.resolve path) s
  let event := Log.Event.say .debug logTarget "Removed file" [("path", .other path), okField answer]
  (⟨[event], some (resultOf path (fun _ => .done) answer)⟩, s)

/-- The status for what an operating system knows; there is none for a modification time
without a date. -/
def statusOf? (metadata : Metadata) : Option FileStatus :=
  let status := FileStatus.mk true metadata.isDirectory metadata.isFile
  match metadata.modified with
  | none => some (status 0)
  | some time => (dates.reported? time).map status

/-- The result of asking about a path: a path that names nothing has a status too. -/
def statResult? (path : String) : Except IoCause Metadata → Option NativeResult
  | .ok metadata => (statusOf? dates metadata).map fun status => .ok (.status status)
  | .error cause =>
    if isNotFound cause then some (.ok (.status .missing)) else some (.failed (.io path cause))

/-- Tells about a path. -/
def serveStat (base : Path) (path : String) (s : σ) : Service × σ :=
  let (answer, s) := system.metadata (base.resolve path) s
  match statResult? dates path answer with
  | none => (⟨[], none⟩, s)
  | some result =>
    let event := Log.Event.say .debug logTarget "Stat file"
      [("path", .other path), ("ok", boolField result.error?.isNone)]
    (⟨[event], some result⟩, s)

/-- Answers a request. -/
def serve (base : Path) (request : Request) (s : σ) : Service × σ :=
  match request with
  | .read path => system.serveRead base path s
  | .write path data => system.serveWrite base path data s
  | .move source target => system.serveMove base source target s
  | .remove path => system.serveRemove base path s
  | .stat path => system.serveStat dates base path s

end System
end ScriptFiles.Desktop
