import ScriptFiles.Error
import ScriptFiles.Log.Entry
import ScriptFiles.Native.Service
import ScriptFiles.Value.Exception
import ScriptFiles.Value.Snapshot
import ScriptFiles.Desktop.Disk

/-!
# What a host sees

The answers to the steps of a program and what happened during them.
-/

namespace ScriptFiles.Scenario

/-- Why a step was not taken. -/
inductive Refusal
  | noEngine
  | noParked
  | noPending
  | notAnObject
  | notAFunction
  /-- The program was not over after as many turns as it may take. -/
  | outOfTurns
deriving DecidableEq, Repr

/-- The answer to a step. -/
inductive Answer
  | nothing
  | truth (value : Bool)
  | text (value : String)
  | value (seen : Snapshot)
  | names (names : List String)
  | size (count : Nat)
  | returned (seen : Snapshot)
  | threw (exception : ScriptException)
  | refused (reason : Refusal)
  | failed (error : ScriptError)
  | installed (names : List String)
  | stored (handle : Handle) (index : Nat)
  | alive (value : Bool)
  | pending (debugText handleText : String)
  | native (result : NativeResult)
  | listing (entries : List (String × Desktop.Content))

/-- Something that happened during a step. -/
inductive Note
  /-- The native service was asked. -/
  | native (request : Request)
  /-- A function of the host was called for the n-th time; no `this` stands for the global. -/
  | call (name : String) (count : Nat) (this : Option Snapshot) (arguments : List Snapshot)
  /-- A step taken during another one. -/
  | nested (answer : Answer)
  | deliver (values : List Snapshot) (pending : Nat)
  | fatal (hook : String) (error : ScriptError)

/-- What a step came to. The number of pending operations is known while the host holds the
engine. -/
structure Report where
  answer : Answer
  notes : List Note
  pending : Option Nat
  parked : Nat
  logs : List Log.Entry

end ScriptFiles.Scenario
