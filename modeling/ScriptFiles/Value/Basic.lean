import ScriptFiles.Number.Text
import ScriptFiles.Operation
import ScriptFiles.Text.Utf8

/-!
# Script values

The dynamic values that cross between script code and the host. Objects and functions are
references: two of them are the same only if they are one. `Value.text` is the string form that
script code sees and `Value.bytes` the byte view handed to the native service.
-/

namespace ScriptFiles

/-- A reference to an object of a `Heap`. -/
structure ObjectRef where
  index : Nat
deriving DecidableEq, Repr, Inhabited

/-- What runs when a function is called: one of the six operations, whose messages name the
namespace object by `label`, or code of the host. -/
inductive Callable
  | entry (label : String) (operation : Operation)
  | host
deriving DecidableEq, Repr, Inhabited

/-- A reference to a function. -/
structure FunctionRef where
  id : Nat
  name : String
  body : Callable
deriving DecidableEq, Repr, Inhabited

/-- A script value. -/
inductive Value
  | undefined
  | null
  | bool (value : Bool)
  | number (value : Double)
  | string (value : String)
  | buffer (value : Bytes)
  | object (ref : ObjectRef)
  | function (ref : FunctionRef)
deriving DecidableEq, Repr, Inhabited

namespace Value

/-- No value at all. -/
def isUndefined : Value → Bool
  | undefined => true
  | _ => false

/-- A reference to an object. -/
def isObject : Value → Bool
  | object _ => true
  | _ => false

/-- A reference to a function. -/
def isFunction : Value → Bool
  | function _ => true
  | _ => false

/-- The flag that a value is. -/
def bool? : Value → Option Bool
  | bool b => some b
  | _ => none

/-- The number that a value is. -/
def number? : Value → Option Double
  | number n => some n
  | _ => none

/-- The text that a value is. -/
def string? : Value → Option String
  | string s => some s
  | _ => none

/-- The object that a value refers to. -/
def object? : Value → Option ObjectRef
  | object o => some o
  | _ => none

/-- The function that a value refers to. -/
def function? : Value → Option FunctionRef
  | function f => some f
  | _ => none

/-- The number for a signed word. -/
def ofInt64 (i : Int64) : Value :=
  number (Double.ofInt i.toInt)

/-- The number for a count. -/
def ofNat (n : Nat) : Value :=
  number (Double.ofInt n)

/-- The string form. -/
def text : Value → String
  | undefined => "undefined"
  | null => "null"
  | bool b => if b then "true" else "false"
  | number n => n.text .script
  | string s => s
  | buffer bs => Utf8.decodeLossy bs
  | object _ => "[object Object]"
  | function f => "function " ++ f.name ++ "() \x7b [native code] \x7d"

/-- The byte view: a buffer as it is, anything else as the bytes of its string form. -/
def bytes : Value → Bytes
  | buffer bs => bs
  | v => Utf8.encode v.text

/-- Equality as script code sees it: by identity for objects and functions, and a NaN is not even
equal to itself. -/
def same : Value → Value → Bool
  | undefined, undefined => true
  | null, null => true
  | bool a, bool b => a == b
  | number a, number b => a.numericEq b
  | string a, string b => a == b
  | buffer a, buffer b => a == b
  | object a, object b => a == b
  | function a, function b => a.id == b.id
  | _, _ => false

/-- The value at a position of an argument list, `undefined` beyond its end. -/
def argument (arguments : List Value) (index : Nat) : Value :=
  arguments[index]?.getD undefined

end Value
end ScriptFiles
