import ScriptFiles.Proofs.Bridge.Validation
import Mathlib.Data.List.Forall2

/-!
# Directories stay out of the log

Two lists of moves are alike if they differ at most in the path arguments of calls of operations,
and there in nothing that `basename` keeps; anything that has a string form may be a path. Paths are
in no state of the bridge: all that a call does with them is to name them in the request and, by
their basenames, in its log entry. So alike moves lead through the same states and leave the same
log, and the host sees the same except for the directories in requests.
-/

namespace ScriptFiles

/-! ## Arguments -/

namespace Operation

/-- The positions of the arguments that are paths. -/
def pathPositions : Operation → List Nat
  | .move => [0, 1]
  | _ => [0]

/-- Arguments that differ at most in the directories of paths. -/
structure SameFiles (operation : Operation) (arguments arguments' : List Value) : Prop where
  length : arguments.length = arguments'.length
  path : ∀ i ∈ operation.pathPositions, basename (Value.argument arguments i).text =
    basename (Value.argument arguments' i).text
  other : ∀ i ∉ operation.pathPositions,
    Value.argument arguments i = Value.argument arguments' i

variable {operation : Operation} {arguments arguments' : List Value}

/-- No callback is a path. -/
theorem callbackPosition_not_path (operation : Operation) :
    ∀ position ∈ operation.callbackPositions, position.1 ∉ operation.pathPositions := by
  cases operation <;> decide

/-- The callbacks among the arguments are the same. -/
theorem SameFiles.argument_callback (h : operation.SameFiles arguments arguments')
    {position : Nat × Option String} (hposition : position ∈ operation.callbackPositions) :
    Value.argument arguments position.1 = Value.argument arguments' position.1 :=
  h.other _ (operation.callbackPosition_not_path position hposition)

/-- The checks of a call look at no path. -/
theorem SameFiles.rejection_eq (h : operation.SameFiles arguments arguments') (label : String) :
    operation.rejection label arguments = operation.rejection label arguments' := by
  have hfind : (operation.callbackPositions.find? fun position =>
        !(Value.argument arguments position.1).isFunction) =
      operation.callbackPositions.find? fun position =>
        !(Value.argument arguments' position.1).isFunction := by
    rw [← List.head?_filter, ← List.head?_filter,
      List.filter_congr fun position hposition => by rw [h.argument_callback hposition]]
  rw [rejection, rejection, h.length, hfind]

/-- The callbacks that are registered are the same. -/
theorem SameFiles.callbacks_eq (h : operation.SameFiles arguments arguments') :
    operation.callbacks arguments = operation.callbacks arguments' :=
  List.map_congr_left fun _ hposition => h.argument_callback hposition

end Operation

/-- A request that names its files without their directories. -/
def Request.files : Request → Request
  | .read path => .read (basename path)
  | .write path data => .write (basename path) data
  | .move source target => .move (basename source) (basename target)
  | .remove path => .remove (basename path)
  | .stat path => .stat (basename path)

/-- The requests are for the same file names. -/
theorem Operation.SameFiles.files_request {operation : Operation}
    {arguments arguments' : List Value} (h : operation.SameFiles arguments arguments') :
    (operation.request arguments).files = (operation.request arguments').files := by
  cases operation with
  | read | readFromFile | remove | stat =>
    simp only [request, Request.files, h.path 0 (by decide)]
  | write => simp only [request, Request.files, h.path 0 (by decide), h.other 1 (by decide)]
  | move => simp only [request, Request.files, h.path 0 (by decide), h.path 1 (by decide)]

namespace Bridge

/-! ## Turns -/

/-- The log entry among what happens, if it is one. -/
def Event.log? : Event → Option Log.Event
  | .logged event => some event
  | _ => none

/-- A prompt that names the files of requests without their directories. -/
def Prompt.files : Prompt → Prompt
  | .serve ticket request => .serve ticket request.files
  | prompt => prompt

/-- Turns that lead to the same state, leave the same log entries and tell the host the same except
for the directories of requests. -/
structure Turn.Alike (turn turn' : Turn) : Prop where
  state : turn.state = turn'.state
  log : turn.events.filterMap Event.log? = turn'.events.filterMap Event.log?
  prompt : turn.prompt.files = turn'.prompt.files

/-- A turn is like itself. -/
theorem Turn.Alike.refl (turn : Turn) : turn.Alike turn := ⟨rfl, rfl, rfl⟩

/-- The log shows requests by what `Request.files` keeps. -/
theorem requestFields_eq_of_files {request request' : Request}
    (h : request.files = request'.files) : requestFields request = requestFields request' := by
  cases request <;> cases request' <;> simp_all [Request.files, requestFields, pathField]

/-- Moves that differ at most in the directories of path arguments. -/
inductive Move.Alike : Move → Move → Prop
  | same (m : Move) : Alike m m
  | call {e : EngineId} {function : FunctionRef} {this : Value} {arguments arguments' : List Value}
      {label : String} {operation : Operation} (hbody : function.body = .entry label operation)
      (hfiles : operation.SameFiles arguments arguments') :
      Alike (.call e function this arguments) (.call e function this arguments')

/-- Alike moves are answered alike. -/
theorem Move.Alike.step {m m' : Move} (h : m.Alike m') (s : State) :
    (Bridge.step s m).Alike (Bridge.step s m') := by
  cases h with
  | same => exact .refl _
  | @call e function this arguments arguments' label operation hbody hfiles =>
    cases halive : s.isAlive e with
    | false =>
      simp only [Bridge.step, guarded, halive, Bool.false_eq_true, if_false]
      exact .refl _
    | true =>
      cases hrejection : operation.rejection label arguments with
      | some exception =>
        have hrejection' := (hfiles.rejection_eq label).symm.trans hrejection
        rw [step_call_of_rejected halive hbody hrejection,
          step_call_of_rejected halive hbody hrejection']
        exact ⟨rfl, rfl, rfl⟩
      | none =>
        have hrejection' := (hfiles.rejection_eq label).symm.trans hrejection
        rw [step_call_of_accepted halive hbody hrejection,
          step_call_of_accepted halive hbody hrejection']
        have hrequest := hfiles.files_request
        refine ⟨?_, ?_, ?_⟩
        · simp only [issuing, hfiles.callbacks_eq]
        · simp only [issuing, issuedEvent, requestFields_eq_of_files hrequest]
          rfl
        · simp only [issuing, Prompt.files, hrequest]

/-! ## Runs -/

/-- Alike moves make alike turns, all the way. -/
theorem run_alike {moves moves' : List Move} (h : List.Forall₂ Move.Alike moves moves')
    (s : State) : List.Forall₂ Turn.Alike (run s moves) (run s moves') := by
  induction h generalizing s with
  | nil => exact .nil
  | @cons m m' rest rest' hmove _ ih =>
    have hturn := hmove.step s
    refine .cons hturn ?_
    rw [hturn.state]
    exact ih _

/-- Runs of moves that are alike lead to one state. -/
theorem after_eq_of_alike {moves moves' : List Move} (h : List.Forall₂ Move.Alike moves moves')
    (s : State) : Bridge.after s moves = Bridge.after s moves' := by
  induction h generalizing s with
  | nil => rfl
  | @cons m m' rest rest' hmove _ ih =>
    change Bridge.after (Bridge.step s m).state rest = Bridge.after (Bridge.step s m').state rest'
    rw [(hmove.step s).state]
    exact ih _

variable {turns turns' : List Turn}

/-- Turns that are alike log the same. -/
theorem log_eq_of_alike (h : List.Forall₂ Turn.Alike turns turns') :
    (turns.flatMap Turn.events).filterMap Event.log? =
      (turns'.flatMap Turn.events).filterMap Event.log? := by
  induction h with
  | nil => rfl
  | cons hturn _ ih =>
    simp only [List.flatMap_cons, List.filterMap_append, hturn.log, ih]

/-- Turns that are alike ask the host for the same, up to directories. -/
theorem prompts_eq_of_alike (h : List.Forall₂ Turn.Alike turns turns') :
    turns.map (·.prompt.files) = turns'.map (·.prompt.files) := by
  induction h with
  | nil => rfl
  | cons hturn _ ih => simp only [List.map_cons, hturn.prompt, ih]

/-- Nothing in the log tells the directory of a path that a script handed to an operation: sessions
that differ only there, with the same host otherwise, leave the same log entries in the same
order. They also end in the same state, and the host was told the same except for the directories of
requests. -/
theorem directories_unlogged (s : State) {moves moves' : List Move}
    (h : List.Forall₂ Move.Alike moves moves') :
    (trace s moves).filterMap Event.log? = (trace s moves').filterMap Event.log? ∧
      Bridge.after s moves = Bridge.after s moves' ∧
      (run s moves).map (·.prompt.files) = (run s moves').map (·.prompt.files) :=
  ⟨log_eq_of_alike (run_alike h s), after_eq_of_alike h s, prompts_eq_of_alike (run_alike h s)⟩

/-- A file moved between other directories, one of the paths being a buffer, by an engine that is
gone when the request fails. -/
theorem directories_unlogged_moved :
    let fileMove : FunctionRef := ⟨0, "move", .entry "fs" .move⟩
    let session (source target : Value) : List Move :=
      [.createEngine, .call 0 fileMove .undefined [source, target, .function ⟨1, "done", .host⟩],
        .acknowledge, .dropEngine 0, .fire 0 (.failed (.failed "no space"))]
    let first := session (.string "/home/jane/a.txt") (.string "/tmp/b.txt")
    let second := session (.buffer [97, 46, 116, 120, 116]) (.string "C:\\Users\\b.txt")
    List.Forall₂ Move.Alike first second ∧
      (trace {} first).filterMap Event.log? = (trace {} second).filterMap Event.log? ∧
      ((trace {} first).filterMap Event.log?).length = 2 := by
  intro fileMove session first second
  have hfiles : Operation.SameFiles .move
      [.string "/home/jane/a.txt", .string "/tmp/b.txt", .function ⟨1, "done", .host⟩]
      [.buffer [97, 46, 116, 120, 116], .string "C:\\Users\\b.txt",
        .function ⟨1, "done", .host⟩] := by
    refine ⟨rfl, by decide +kernel, fun i hi => ?_⟩
    match i with
    | 0 | 1 => exact absurd (by decide) hi
    | 2 => rfl
    | _ + 3 => rfl
  have halike : List.Forall₂ Move.Alike first second :=
    .cons (.same _) (.cons (.call rfl hfiles) (.cons (.same _) (.cons (.same _)
      (.cons (.same _) .nil))))
  exact ⟨halike, (directories_unlogged {} halike).1, by decide +kernel⟩

end Bridge
end ScriptFiles
