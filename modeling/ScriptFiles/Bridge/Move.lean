import ScriptFiles.Bridge.State
import ScriptFiles.Log.Event

/-!
# Moves, prompts and events

The bridge and the host take turns. The host moves: it acts on an engine, answers a native
request, or ends the activity it was asked for. The bridge answers every move with a prompt that
says whose turn it is and why. On the way it records events: log entries, functions applied,
requests made, values delivered and fatal errors.

The host stands for everything that is not the bridge: the embedding program, the bodies of its
functions, the native service and the fatal hooks. So every behaviour of those is a list of
moves.

The host holds an engine or not; how many references it has, and through which of them it acts, is
not kept. It may also gain a reference again from a weak one, but only while the engine lives, and
then the engine lives until that reference is gone: such a run is one in which the engine is let go
of later, when the last of all references is. So letting go is one move, made at most once, and
there is no move that gains a reference.
-/

namespace ScriptFiles.Bridge

/-- Why a function is applied. -/
inductive Role
  | host
  | listener (handle : Handle)
  | last (operation : Operation) (handle : Handle)
deriving DecidableEq, Repr

/-- A function applied to arguments. -/
structure Invocation where
  engine : EngineId
  function : FunctionRef
  this : Value
  arguments : List Value
  role : Role
deriving DecidableEq, Repr

/-- Something that happened during a move. -/
inductive Event
  | logged (event : Log.Event)
  | applied (invocation : Invocation)
  | requested (engine : EngineId) (ticket : Nat) (handle : Handle) (request : Request)
  | delivered (engine : EngineId) (handle : Handle) (values : List Value)
  | fatal (engine : EngineId) (hook : Option HookId) (error : ScriptError)
deriving DecidableEq, Repr

/-- What the host can do. -/
inductive Move
  /-- Makes an engine whose global is a new object, and holds it. -/
  | createEngine
  /-- Lets go of an engine. -/
  | dropEngine (engine : EngineId)
  /-- Makes a new object. -/
  | createObject
  /-- Makes a new function of the host. -/
  | createFunction (name : String)
  | setProperty (object : ObjectRef) (key : String) (value : Value)
  | removeProperty (object : ObjectRef) (key : String)
  | setGlobal (engine : EngineId) (value : Value)
  | setHook (engine : EngineId) (hook : HookId)
  /-- Binds the operations on a new object and publishes it on the global. -/
  | install (engine : EngineId) (name : String)
  /-- Binds the operations on an object. -/
  | bind (label : String) (object : ObjectRef)
  /-- Calls a function. -/
  | call (engine : EngineId) (function : FunctionRef) (this : Value) (arguments : List Value)
  /-- Registers values to be resumed by the host. -/
  | store (engine : EngineId) (values : List Value)
  /-- Completes a native request. -/
  | fire (ticket : Nat) (result : NativeResult)
  /-- Resumes a registration of the host. -/
  | resume (ticket : Nat)
  /-- Gives a ticket up unused. -/
  | abandon (ticket : Nat)
  /-- Ends the function that runs innermost. -/
  | return_ (outcome : Outcome)
  /-- Ends the asking of the native service. -/
  | acknowledge
  /-- Ends the delivery of a resumed registration, perhaps with an error. -/
  | delivered (error : Option ScriptError)
  /-- Ends a fatal hook. -/
  | reported
deriving DecidableEq, Repr

/-- Whose turn it is after a move, and why. -/
inductive Prompt
  /-- The move was not possible and nothing changed. -/
  | refused
  /-- The move is over. -/
  | done
  | engine (engine : EngineId)
  | object (object : ObjectRef)
  | function (function : FunctionRef)
  | stored (ticket : Nat) (handle : Handle)
  | failed (error : ScriptError)
  /-- The call made by the host is over. -/
  | returned (outcome : Outcome)
  /-- The completion or resumption is over. -/
  | finished
  /-- The host has to run a function and return from it. -/
  | run (invocation : Invocation)
  /-- The host has to serve a request, now or later, and acknowledge it. -/
  | serve (ticket : Nat) (request : Request)
  /-- The host has to take delivered values. -/
  | deliver (engine : EngineId) (handle : Handle) (values : List Value)
  /-- The host has to run a fatal hook. -/
  | report (engine : EngineId) (hook : HookId) (error : ScriptError)
deriving DecidableEq, Repr

/-- What a move led to. -/
structure Turn where
  state : State
  events : List Event
  prompt : Prompt
deriving DecidableEq, Repr

/-- Puts events before those of a turn. -/
def Turn.after (turn : Turn) (events : List Event) : Turn :=
  { turn with events := events ++ turn.events }

end ScriptFiles.Bridge
