import ScriptFiles.Native.Error
import ScriptFiles.Text.Utf8

/-!
# What the native service is asked and what it answers

Every accepted call of script code turns into one request; the answer to it arrives later, or
never. Reading a whole file and reading it line by line are the same request.
-/

namespace ScriptFiles

/-- What is known about a path. Times are milliseconds since 1970. -/
structure FileStatus where
  present : Bool
  isDirectory : Bool
  isFile : Bool
  lastModified : Int64
deriving DecidableEq, Repr

/-- What is said about a path that names nothing. -/
def FileStatus.missing : FileStatus :=
  ⟨false, false, false, 0⟩

/-- A request to the native service. -/
inductive Request
  | read (path : String)
  | write (path : String) (data : Bytes)
  | move (source target : String)
  | remove (path : String)
  | stat (path : String)
deriving DecidableEq, Repr

/-- What a successful request gives. -/
inductive Answer
  | content (bytes : Bytes)
  | done
  | status (status : FileStatus)
deriving DecidableEq, Repr

namespace Answer

/-- The bytes of an answer. -/
def bytes : Answer → Bytes
  | content bytes => bytes
  | _ => []

/-- The status of an answer. -/
def fileStatus : Answer → FileStatus
  | status s => s
  | _ => .missing

end Answer

/-- What a request gives. -/
inductive NativeResult
  | ok (answer : Answer)
  | failed (error : NativeError)
deriving DecidableEq, Repr

/-- The failure of a result. -/
def NativeResult.error? : NativeResult → Option NativeError
  | ok _ => none
  | failed error => some error

/-- Whether an answer is of the kind that a request asks for. -/
def Request.accepts : Request → Answer → Bool
  | read _, .content _ => true
  | write .., .done => true
  | move .., .done => true
  | remove _, .done => true
  | stat _, .status _ => true
  | _, _ => false

end ScriptFiles
