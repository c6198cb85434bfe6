import ScriptFiles.Error
import ScriptFiles.Native.Service
import ScriptFiles.Value.Basic
import ScriptFiles.Value.Exception

/-!
# Calling an operation

The checks that the arguments of a call have to pass, and the native request that an accepted
call turns into. The number of arguments is checked first, then the callbacks in order.
-/

namespace ScriptFiles

/-- What a call comes to. -/
inductive Outcome
  | value (value : Value)
  | thrown (exception : ScriptException)
deriving DecidableEq, Repr

namespace Operation

/-- The positions that have to hold functions, with the role shown in messages. -/
def callbackPositions : Operation → List (Nat × Option String)
  | read | remove | stat => [(1, none)]
  | readFromFile => [(1, some "listener callback"), (2, some "done callback")]
  | write | move => [(2, none)]

/-- The word for a position in messages. -/
def ordinal : Nat → String
  | 0 => "First"
  | 1 => "Second"
  | 2 => "Third"
  | _ => "Trailing"

/-- The full name of an operation in messages. -/
def label (operation : Operation) (namespaceName : String) : String :=
  namespaceName ++ "." ++ operation.name

/-- The exception for a wrong number of arguments. -/
def countException (operation : Operation) (namespaceName : String) : ScriptException :=
  ⟨.typeError, operation.label namespaceName ++ " requires " ++ natText operation.argumentCount ++
    " parameters", none⟩

/-- The exception for a callback that is no function. -/
def callbackException (operation : Operation) (namespaceName : String)
    (position : Nat × Option String) : ScriptException :=
  ⟨.typeError, ordinal position.1 ++ " argument to " ++ operation.label namespaceName ++
    " must be a function" ++
    match position.2 with
    | some role => " (" ++ role ++ ")"
    | none => "", none⟩

/-- The exception that a call with these arguments throws, if any. -/
def rejection (operation : Operation) (namespaceName : String) (arguments : List Value) :
    Option ScriptException :=
  if arguments.length ≠ operation.argumentCount then some (operation.countException namespaceName)
  else
    (operation.callbackPositions.find? fun position =>
      !(Value.argument arguments position.1).isFunction).map
        (operation.callbackException namespaceName)

/-- The callbacks among the arguments of an accepted call. -/
def callbacks (operation : Operation) (arguments : List Value) : List Value :=
  operation.callbackPositions.map fun position => Value.argument arguments position.1

/-- The native request of an accepted call. Paths are string forms, content is a byte view. -/
def request (operation : Operation) (arguments : List Value) : Request :=
  let path := (Value.argument arguments 0).text
  match operation with
  | read | readFromFile => .read path
  | write => .write path (Value.argument arguments 1).bytes
  | move => .move path (Value.argument arguments 1).text
  | remove => .remove path
  | stat => .stat path

/-- Whether a native result can answer an operation. -/
def accepts (operation : Operation) : NativeResult → Bool
  | .failed _ => true
  | .ok answer => (operation.request []).accepts answer

end Operation

/-- The callbacks of an operation: the listener of a delivery of lines, and the last callback. -/
structure Callbacks where
  listener : Option FunctionRef
  last : FunctionRef
deriving DecidableEq, Repr

/-- Checks the values stored for an operation: all of them functions, and as many as the
operation has callbacks. -/
def Operation.callbacks? (operation : Operation) (handle : Handle) (values : List Value) :
    Except ScriptError Callbacks :=
  match values.findIdx? (!·.isFunction) with
  | some index => .error (.notCallable handle index)
  | none =>
    match operation.callbackCount, values.filterMap Value.function? with
    | 1, [last] => .ok ⟨none, last⟩
    | 2, [listener, last] => .ok ⟨some listener, last⟩
    | expected, _ => .error (.storedValueMismatch handle expected values.length)

end ScriptFiles
