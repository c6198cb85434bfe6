import ScriptFiles.Log.Forwarding
import ScriptFiles.Scenario.Run

/-!
# Sessions

A session makes an engine as its setup says and takes the steps of a program one after another.
A host with a desk waits at the end of each step until nothing is left to be served. Each step is
reported with what happened and with the log entries that a sink of some least level received. A
session in which a task of the desktop service ends early comes to nothing, as its request is never
answered.
-/

namespace ScriptFiles.Scenario

namespace Host

/-- How many turns a step may take. -/
def turnLimit : Nat := 100000

/-- The log event of an engine made from a configuration. -/
def readyEvent (namespaceName : String) : Log.Event :=
  Log.Event.say .debug Bridge.engineTarget "Script engine ready"
    [("namespace", .other namespaceName)]

/-- Makes the engine and holds it. -/
def createEngine : HostM Bridge.EngineId := do
  match ← move .createEngine with
  | .engine e =>
    modify fun h => { h with engine := some e }
    return e
  | _ => return default

/-- Makes the engine of a session. -/
def setUp (setup : Setup) : ExceptT SetupError HostM Unit := do
  match setup with
  | .engine names =>
    let e ← createEngine
    for name in names do
      let _ ← move (.install e name)
  | .config builder dataDir =>
    match builder.build dataDir with
    | .error error => throw error
    | .ok (settings, events) =>
      record events
      let e ← createEngine
      let _ ← move (.install e settings.namespaceName)
      record [readyEvent settings.namespaceName]

/-- Takes a step and reports it. -/
def reportStep (least : Log.Level) (step : Step) : HostM Report := do
  let answer ← takeStep turnLimit step
  drain turnLimit
  let h ← get
  set { h with notes := [], logs := [], exhausted := false }
  let sink : Log.Sink := { minLevel := least }
  return {
    answer := if h.exhausted then .refused .outOfTurns else answer
    notes := h.notes
    pending := h.engine.map h.bridge.pending
    parked := h.parked.length
    logs := Log.forward (.standard .trace) sink (h.logs.map fun event => ⟨event, []⟩) }

end Host

/-- Puts a file or a directory on a disk, with the directories above it. -/
def Desk.plant (desk : Desk) (path : String) (content : Desktop.Content) : Desk :=
  let full := desk.scratch.resolve path
  let system := Desktop.Disk.system
  let disk :=
    match content with
    | .directory => (system.makeDirectories full desk.disk).2
    | .file bytes =>
      let disk := (full.parent?.map fun parent =>
        (system.makeDirectories parent desk.disk).2).getD desk.disk
      (system.writeFile full bytes disk).2
  { desk with disk := disk }

/-- A desk with an empty scratch directory; the service starts from a directory in it. -/
def Desk.new (scratch base : Desktop.Path) (clock : Desktop.FileTime) : Desk :=
  { disk := (Desktop.Disk.system.makeDirectories scratch (.empty clock)).2, base, scratch }

/-- Why a session has no reports. -/
inductive SessionFailure
  /-- Its engine could not be made. -/
  | setUp (error : SetupError)
  /-- A task of the desktop service ended before it answered its request. -/
  | taskEnded
deriving DecidableEq, Repr

/-- The reports of a session, or why there are none. -/
def run (setup : Setup) (desk : Option Desk) (least : Log.Level) (steps : List Step) :
    Except SessionFailure (List Report) :=
  let (made, h) := (Host.setUp setup).run { desk := desk }
  match made with
  | .error error => .error (.setUp error)
  | .ok () =>
    let (reports, h) := (steps.mapM (Host.reportStep least)).run h
    if h.taskEnded then .error .taskEnded else .ok reports

end ScriptFiles.Scenario
