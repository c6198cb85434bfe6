import ScriptFiles.Native.Service
import ScriptFiles.Value.Exception
import ScriptFiles.Value.Heap

/-!
# What callbacks receive

The script values made of native results. A failure is always a non-empty text: as an `error`
property of the result object of `read` and `stat`, as the only argument everywhere else.
-/

namespace ScriptFiles

/-- The text of a failure for script code, which would read an empty text as success. -/
def NativeError.scriptText (e : NativeError) : String :=
  if e.text.isEmpty then "Unknown error" else e.text

/-- The text of a failure as a value. -/
def NativeError.value (e : NativeError) : Value :=
  .string e.scriptText

/-- The text of an exception as a value. -/
def ScriptException.value (e : ScriptException) : Value :=
  .string e.text

/-- A line as a value; bytes that are no text are replaced. -/
def lineValue (line : Bytes) : Value :=
  .string (Utf8.decodeLossy line)

/-- The properties of the result object of `read`: the content, empty after a failure. -/
def readProperties : NativeResult → Properties
  | .ok answer => Properties.setAll [] [("content", .buffer answer.bytes)]
  | .failed e => Properties.setAll [] [("content", .buffer []), ("error", e.value)]

/-- The properties that `stat` reports of a status. -/
def statusProperties (status : FileStatus) : Properties :=
  Properties.setAll []
    [("exists", .bool status.present), ("lastModified", Value.ofInt64 status.lastModified)]

/-- The properties of the result object of `stat`: those of a missing path after a failure. -/
def statProperties : NativeResult → Properties
  | .ok answer => statusProperties answer.fileStatus
  | .failed e => (statusProperties .missing).set "error" e.value

/-- The arguments of a callback that is only told about failure. -/
def completionArguments : NativeResult → List Value
  | .ok _ => []
  | .failed e => [e.value]

/-- The arguments of the last callback of an operation and the heap with the object made for
them; reading by lines is not told its content this way. -/
def lastArguments (operation : Operation) (result : NativeResult) (heap : Heap) :
    List Value × Heap :=
  match operation with
  | .read =>
    let made := heap.newObject (readProperties result)
    ([.object made.1], made.2)
  | .stat =>
    let made := heap.newObject (statProperties result)
    ([.object made.1], made.2)
  | .readFromFile | .write | .move | .remove => (completionArguments result, heap)

end ScriptFiles
