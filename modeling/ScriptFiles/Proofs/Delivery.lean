import ScriptFiles.Bridge.Entry
import ScriptFiles.Delivery

/-!
# What callbacks can tell

`Tells` lists the arguments that the last callback of an operation may receive for each native
result, and `readsAsFailure` is how script code reads them without knowing the result. The two agree:
a failure is never read as success, nor the other way round, whatever its text. The arguments that
the bridge makes are of the listed form.
-/

namespace ScriptFiles

/-- A text for script code about a failure: that of the failure, unless it is empty. -/
structure NativeError.Says (error : NativeError) (text : String) : Prop where
  nonempty : text ≠ ""
  same : error.text ≠ "" → text = error.text
  unknown : error.text = "" → text = "Unknown error"

/-- The arguments of the last callback that go with a native result, all properties of a result
object included. -/
inductive Tells (heap : Heap) : Operation → NativeResult → List Value → Prop
  | content {object : ObjectRef} {bytes : Bytes}
      (hobject : heap.properties object = [("content", .buffer bytes)]) :
      Tells heap .read (.ok (.content bytes)) [.object object]
  | noContent {object : ObjectRef} {error : NativeError} {text : String} (htext : error.Says text)
      (hobject : heap.properties object = [("content", .buffer []), ("error", .string text)]) :
      Tells heap .read (.failed error) [.object object]
  | status {object : ObjectRef} {status : FileStatus}
      (hobject : heap.properties object =
        [("exists", .bool status.present), ("lastModified", .ofInt64 status.lastModified)]) :
      Tells heap .stat (.ok (.status status)) [.object object]
  | noStatus {object : ObjectRef} {error : NativeError} {text : String} (htext : error.Says text)
      (hobject : heap.properties object =
        [("error", .string text), ("exists", .bool false), ("lastModified", .number ⟨0⟩)]) :
      Tells heap .stat (.failed error) [.object object]
  | nothing {operation : Operation} {answer : Answer} (hread : operation ≠ .read)
      (hstat : operation ≠ .stat) : Tells heap operation (.ok answer) []
  | failure {operation : Operation} {error : NativeError} {text : String} (hread : operation ≠ .read)
      (hstat : operation ≠ .stat) (htext : error.Says text) :
      Tells heap operation (.failed error) [.string text]

/-- How script code tells failure from success: by an `error` among the properties of the result
object of `read` and `stat`, by an argument that is there everywhere else. -/
def readsAsFailure (heap : Heap) : Operation → List Value → Bool
  | .read, [.object object] | .stat, [.object object] => (heap.properties object).contains "error"
  | .read, _ | .stat, _ => false
  | _, arguments => !arguments.isEmpty

variable {heap : Heap} {operation : Operation} {result : NativeResult} {arguments : List Value}

/-- What is told is read as a failure exactly when it is one. -/
theorem Tells.readsAsFailure (htells : Tells heap operation result arguments) :
    readsAsFailure heap operation arguments = result.error?.isSome := by
  cases htells with
  | content hobject | noContent _ hobject | status hobject | noStatus _ hobject =>
    simp [ScriptFiles.readsAsFailure, hobject, Properties.contains, Properties.get?,
      List.lookup_cons, NativeResult.error?]
  | nothing hread hstat => cases operation <;> first | contradiction | rfl
  | failure hread hstat _ => cases operation <;> first | contradiction | rfl

/-- The text of a failure is one for script code. -/
theorem NativeError.says_scriptText (error : NativeError) : error.Says error.scriptText := by
  by_cases hempty : error.text = ""
  · have htext : error.scriptText = "Unknown error" := by simp [scriptText, hempty]
    rw [htext]
    exact ⟨by decide, fun h => absurd hempty h, fun _ => rfl⟩
  · have htext : error.scriptText = error.text := by simp [scriptText, hempty]
    rw [htext]
    exact ⟨hempty, fun _ => rfl, fun h => absurd h hempty⟩

/-- A new object has the properties it was made with. -/
theorem Heap.properties_newObject (heap : Heap) (properties : Properties) :
    (heap.newObject properties).2.properties (heap.newObject properties).1 = properties := by
  simp [newObject, Heap.properties]

/-- The result object of `read` has the content and after a failure the error. -/
theorem readProperties_eq (result : NativeResult) :
    readProperties result =
      match result with
      | .ok answer => [("content", .buffer answer.bytes)]
      | .failed error => [("content", .buffer []), ("error", error.value)] := by
  have horder : ¬"error" < "content" := by decide
  cases result <;> simp [readProperties, Properties.setAll, Properties.set, horder]

/-- The result object of `stat` has the status and after a failure the error. -/
theorem statProperties_eq (result : NativeResult) :
    statProperties result =
      match result with
      | .ok answer =>
        [("exists", .bool answer.fileStatus.present),
          ("lastModified", .ofInt64 answer.fileStatus.lastModified)]
      | .failed error =>
        [("error", error.value), ("exists", .bool false), ("lastModified", .number ⟨0⟩)] := by
  have horder : ¬"lastModified" < "exists" := by decide
  have herror : "error" < "exists" := by decide
  have hzero : Value.ofInt64 0 = .number ⟨0⟩ := by decide
  cases result <;>
    simp [statProperties, statusProperties, FileStatus.missing, Properties.setAll, Properties.set,
      horder, herror, hzero]

/-- The arguments made for the last callback tell the result. -/
theorem tells_lastArguments (heap : Heap) (haccepts : operation.accepts result = true) :
    Tells (lastArguments operation result heap).2 operation result
      (lastArguments operation result heap).1 := by
  cases operation with
  | read =>
    have hobject := (heap.properties_newObject (readProperties result)).trans
      (readProperties_eq result)
    cases result with
    | ok answer =>
      cases answer with
      | content bytes => exact .content hobject
      | done | status _ => contradiction
    | failed error => exact .noContent error.says_scriptText hobject
  | stat =>
    have hobject := (heap.properties_newObject (statProperties result)).trans
      (statProperties_eq result)
    cases result with
    | ok answer =>
      cases answer with
      | status status => exact .status hobject
      | content _ | done => contradiction
    | failed error => exact .noStatus error.says_scriptText hobject
  | readFromFile | write | move | remove =>
    cases result with
    | ok answer => exact .nothing nofun nofun
    | failed error => exact .failure nofun nofun error.says_scriptText

end ScriptFiles
