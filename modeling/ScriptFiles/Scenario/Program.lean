import ScriptFiles.Config
import ScriptFiles.Native.Service
import ScriptFiles.Value.Basic
import ScriptFiles.Value.Exception

/-!
# Programs of a host

An embedding program written as data: expressions for values, what its functions do when they
are called, and the steps it takes. A function's behaviour may take steps too, so the three are
defined together.
-/

namespace ScriptFiles.Scenario

/-- The result of a native request before it is known which request it answers: of a success the
part that the request asks for is used. -/
inductive Reply
  | ok (content : Bytes) (status : FileStatus)
  | failed (error : NativeError)
deriving DecidableEq, Repr

/-- The native result that a reply is for a request. -/
def Reply.result (reply : Reply) (request : Request) : NativeResult :=
  match reply with
  | failed error => .failed error
  | ok content status =>
    match request with
    | .read _ => .ok (.content content)
    | .stat _ => .ok (.status status)
    | .write .. | .move .. | .remove _ => .ok .done

mutual

/-- An expression for a value. -/
inductive Expr
  | undefined
  | null
  | bool (value : Bool)
  | number (value : Double)
  /-- A signed word as a number. -/
  | integer (value : Int64)
  | string (value : String)
  | buffer (value : Bytes)
  /-- A new object; the properties are set one after another. -/
  | object (properties : List (String × Expr))
  /-- A new function. -/
  | function (name : String) (acts : List Act)
  | variable (name : String)
  /-- What a list of property names leads to from the global. -/
  | global (path : List String)

/-- Something a function does, at every call or at one of them only. -/
inductive Act
  | mk (on : Option Nat) (doing : Doing)

/-- What an act does. All but a step end the call. -/
inductive Doing
  | throw (exception : ScriptException)
  | give (value : Expr)
  | giveArgument (index : Nat)
  | giveThis
  | giveArgumentCount
  /-- Returns whether there are no arguments. -/
  | giveIsEmpty
  | perform (step : Step)

/-- A change or a question about an object. -/
inductive ObjectAction
  | set (key : String) (value : Expr)
  | get (key : String)
  | has (key : String)
  | remove (key : String)
  | keys
  | size

/-- Which function to call: any value, or a property of a namespace object of the global. -/
inductive Callee
  | value (callee : Expr)
  | entry (namespaceName function : String)

/-- A step of the host. -/
inductive Step
  | bind (name : String) (value : Expr)
  | same (left right : Expr)
  | debugValue (value : Expr)
  | object (target : Expr) (action : ObjectAction)
  /-- Completes the next native requests while they are being made. -/
  | answerInline (replies : List Reply)
  /-- Completes a parked request, the oldest one if none is named. -/
  | complete (index : Option Nat) (reply : Reply)
  | dropParked (index : Option Nat)
  | resume (index : Nat) (error : Option ScriptError) (steps : List Step)
  | dropPending (index : Nat)
  | debugPending (index : Nat)
  | call (callee : Callee) (this : Option Expr) (arguments : List Expr)
  | dropEngine
  | setGlobal (value : Expr)
  | global
  | install (name : String)
  | bindOperations (label : String) (target : Expr)
  | store (values : List Expr)
  | onFatal (name : String) (steps : List Step)
  | debugEngine
  /-- Asks the desktop service without an engine. -/
  | native (request : Request)
  | listing
  | touch (path : String) (nanoseconds : Int)

end

instance : Inhabited Expr := ⟨.undefined⟩
instance : Inhabited Step := ⟨.global⟩

/-- How the engine of a session is made. -/
inductive Setup
  /-- An engine with the operations installed under names. -/
  | engine (namespaceNames : List String)
  /-- An engine made from a configuration. -/
  | config (builder : Config.Builder) (dataDir : String)

end ScriptFiles.Scenario
