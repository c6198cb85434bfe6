/-!
# The six operations

What script code can ask for: its name on the namespace object, how many arguments it takes and
how many of them are callbacks. The callbacks are always the last arguments.
-/

namespace ScriptFiles

/-- An operation of the namespace object. -/
inductive Operation
  | read | readFromFile | write | move | remove | stat
deriving DecidableEq, Repr

namespace Operation

/-- All operations, in the order in which they are bound. -/
def all : List Operation :=
  [read, readFromFile, write, move, remove, stat]

/-- The property name of the operation. -/
def name : Operation → String
  | read => "read"
  | readFromFile => "readFromFile"
  | write => "write"
  | move => "move"
  | remove => "remove"
  | stat => "stat"

/-- The number of arguments a call has to have. -/
def argumentCount : Operation → Nat
  | read | remove | stat => 2
  | readFromFile | write | move => 3

/-- The number of trailing arguments that are callbacks. -/
def callbackCount : Operation → Nat
  | readFromFile => 2
  | _ => 1

end Operation
end ScriptFiles
