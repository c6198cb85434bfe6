import ScriptFiles.Bridge.Entry

/-!
# Accepted arguments and stored callbacks

The check of the arguments, the list of values that is stored for a call and the check of the
values that are taken out again are three separate pieces of code. Here they are shown to agree
for all six operations: what an accepted call stores passes the check after it is taken out, and
its last entry is the last argument of the call.
-/

namespace ScriptFiles

namespace Operation

/-- The callbacks of an operation are as many as the positions checked for functions. -/
theorem length_callbackPositions (operation : Operation) :
    operation.callbackPositions.length = operation.callbackCount := by
  cases operation <;> rfl

/-- Accepted arguments have the right number and functions in all callback positions. -/
theorem rejection_eq_none_iff {operation : Operation} {label : String} {arguments : List Value} :
    operation.rejection label arguments = none ↔
      arguments.length = operation.argumentCount ∧
        ∀ value ∈ operation.callbacks arguments, value.isFunction = true := by
  unfold rejection callbacks
  split
  · next hcount => simp [hcount]
  · next hcount =>
    simp only [ne_eq, Decidable.not_not] at hcount
    simp only [Option.map_eq_none_iff, List.find?_eq_none, hcount, true_and, List.forall_mem_map]
    simp

/-- Every operation takes its callbacks from the end of the arguments. -/
theorem getLast?_callbacks {operation : Operation} {arguments : List Value}
    (hcount : arguments.length = operation.argumentCount) :
    (operation.callbacks arguments).getLast? = arguments.getLast? := by
  cases operation <;> simp only [argumentCount] at hcount <;>
    simp [callbacks, callbackPositions, Value.argument, List.getLast?_eq_getElem?, hcount]

end Operation

/-- A list of function values is the image of a list of functions. -/
theorem exists_functions {values : List Value}
    (hfunctions : ∀ value ∈ values, value.isFunction = true) :
    ∃ functions : List FunctionRef, values = functions.map Value.function := by
  induction values with
  | nil => exact ⟨[], rfl⟩
  | cons value rest ih =>
    obtain ⟨functions, hrest⟩ := ih fun v hv => hfunctions v (List.mem_cons_of_mem _ hv)
    have hvalue := hfunctions value List.mem_cons_self
    cases value with
    | function f => exact ⟨f :: functions, by rw [hrest, List.map_cons]⟩
    | _ => contradiction

/-- All callbacks of an operation in the order in which they are stored. -/
def Callbacks.functions (callbacks : Callbacks) : List FunctionRef :=
  callbacks.listener.toList ++ [callbacks.last]

/-- As many functions as an operation has callbacks are its callbacks. -/
theorem exists_callbacks {operation : Operation} {functions : List FunctionRef}
    (hlength : functions.length = operation.callbackCount) :
    ∃ callbacks : Callbacks, functions = callbacks.functions := by
  match functions, operation, hlength with
  | [last], _, _ => exact ⟨⟨none, last⟩, rfl⟩
  | [listener, last], _, _ => exact ⟨⟨some listener, last⟩, rfl⟩
  | [], operation, hlength => cases operation <;> contradiction
  | _ :: _ :: _ :: _, operation, hlength =>
    cases operation <;> simp [Operation.callbackCount] at hlength

/-- Only reading by lines has a listener. -/
theorem Callbacks.isSome_listener_iff {callbacks : Callbacks} {operation : Operation}
    (hlength : callbacks.functions.length = operation.callbackCount) :
    callbacks.listener.isSome ↔ operation = .readFromFile := by
  obtain ⟨listener, last⟩ := callbacks
  cases listener <;> cases operation <;> simp_all [Callbacks.functions, Operation.callbackCount]

/-- The check of stored values passes for exactly the right number of functions. -/
theorem Operation.callbacks?_eq_ok_iff {operation : Operation} {h : Handle} {values : List Value}
    {callbacks : Callbacks} :
    operation.callbacks? h values = .ok callbacks ↔
      values = callbacks.functions.map Value.function ∧
        callbacks.functions.length = operation.callbackCount := by
  obtain ⟨listener, last⟩ := callbacks
  constructor
  · intro hok
    unfold Operation.callbacks? at hok
    split at hok
    · contradiction
    · next hnone =>
      have hfunctions : ∀ value ∈ values, value.isFunction = true := by
        simpa [List.findIdx?_eq_none_iff] using hnone
      obtain ⟨functions, rfl⟩ := exists_functions hfunctions
      have hback : (functions.map Value.function).filterMap Value.function? = functions := by
        simp [List.filterMap_map, Function.comp_def, Value.function?]
      rw [hback] at hok
      split at hok
      · next f hcount =>
        cases hok
        exact ⟨rfl, hcount.symm⟩
      · next f g hcount =>
        cases hok
        exact ⟨rfl, hcount.symm⟩
      · contradiction
  · rintro ⟨rfl, hcount⟩
    cases listener <;> cases operation <;>
      simp_all [Callbacks.functions, Operation.callbackCount, Operation.callbacks?,
        Value.isFunction, Value.function?, List.findIdx?_cons]

/-- What an accepted call stores are its callbacks, the last of them its last argument. -/
theorem Operation.callbacks_of_accepted {operation : Operation} {label : String}
    {arguments : List Value} (haccepted : operation.rejection label arguments = none) :
    ∃ callbacks : Callbacks,
      operation.callbacks arguments = callbacks.functions.map Value.function ∧
        callbacks.functions.length = operation.callbackCount ∧
          arguments.getLast? = some (.function callbacks.last) := by
  obtain ⟨hcount, hfunctions⟩ := rejection_eq_none_iff.mp haccepted
  obtain ⟨functions, hvalues⟩ := exists_functions hfunctions
  have hlength : functions.length = operation.callbackCount := by
    rw [← operation.length_callbackPositions, ← List.length_map (f := Value.function), ← hvalues,
      callbacks, List.length_map]
  obtain ⟨callbacks, rfl⟩ := exists_callbacks hlength
  refine ⟨callbacks, hvalues, hlength, ?_⟩
  rw [← getLast?_callbacks hcount, hvalues]
  simp [Callbacks.functions]

/-- An accepted call to read by lines has a path and its two callbacks as arguments. -/
theorem Operation.arguments_of_accepted {label : String} {arguments : List Value}
    (haccepted : Operation.rejection .readFromFile label arguments = none) :
    ∃ path, arguments = path :: Operation.callbacks .readFromFile arguments := by
  obtain ⟨hcount, -⟩ := rejection_eq_none_iff.mp haccepted
  match arguments, hcount with
  | [path, listener, done], _ => exact ⟨path, rfl⟩

end ScriptFiles
