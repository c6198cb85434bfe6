import ScriptFiles.Proofs.Bridge.Acceptance

/-!
# What the operations take

The arguments of the six operations in a form that does not follow the checks. A `Signature` is an
argument list that an operation takes, with the native request that it stands for and the callbacks
in it. A `Fault` is the first thing wrong with an argument list, with the message about it: the
number of arguments comes first, then the callbacks from left to right. Every argument list has a
signature or a fault, and the check of the arguments tells which.
-/

namespace ScriptFiles.Operation

/-- The operations that take a path and a callback. -/
def pathOnly : List Operation := [.read, .remove, .stat]

/-- The operations that take a path, something else and a callback. -/
def pathAndOperand : List Operation := [.write, .move]

/-- The argument lists that operations take. Paths are string forms, content is a byte view. -/
inductive Signature : Operation → List Value → Request → List FunctionRef → Prop
  | read (path : Value) (callback : FunctionRef) :
      Signature .read [path, .function callback] (.read path.text) [callback]
  | readFromFile (path : Value) (listener done : FunctionRef) :
      Signature .readFromFile [path, .function listener, .function done] (.read path.text)
        [listener, done]
  | write (path content : Value) (callback : FunctionRef) :
      Signature .write [path, content, .function callback] (.write path.text content.bytes)
        [callback]
  | move (source target : Value) (callback : FunctionRef) :
      Signature .move [source, target, .function callback] (.move source.text target.text)
        [callback]
  | remove (path : Value) (callback : FunctionRef) :
      Signature .remove [path, .function callback] (.remove path.text) [callback]
  | stat (path : Value) (callback : FunctionRef) :
      Signature .stat [path, .function callback] (.stat path.text) [callback]

/-- The first fault of an argument list and the message about it. -/
inductive Fault (label : String) : Operation → List Value → String → Prop
  | notTwo {operation : Operation} {arguments : List Value} (hpath : operation ∈ pathOnly)
      (hlength : arguments.length ≠ 2) :
      Fault label operation arguments (label ++ "." ++ operation.name ++ " requires 2 parameters")
  | notThree {operation : Operation} {arguments : List Value} (hpath : operation ∉ pathOnly)
      (hlength : arguments.length ≠ 3) :
      Fault label operation arguments (label ++ "." ++ operation.name ++ " requires 3 parameters")
  | second {operation : Operation} {path callback : Value} (hpath : operation ∈ pathOnly)
      (hcallback : callback.isFunction = false) :
      Fault label operation [path, callback]
        ("Second argument to " ++ label ++ "." ++ operation.name ++ " must be a function")
  | third {operation : Operation} {path operand callback : Value}
      (hoperand : operation ∈ pathAndOperand) (hcallback : callback.isFunction = false) :
      Fault label operation [path, operand, callback]
        ("Third argument to " ++ label ++ "." ++ operation.name ++ " must be a function")
  | listener {path listener done : Value} (hlistener : listener.isFunction = false) :
      Fault label .readFromFile [path, listener, done]
        ("Second argument to " ++ label ++ ".readFromFile must be a function (listener callback)")
  | done {path done : Value} {listener : FunctionRef} (hdone : done.isFunction = false) :
      Fault label .readFromFile [path, .function listener, done]
        ("Third argument to " ++ label ++ ".readFromFile must be a function (done callback)")

/-- Not as many arguments as the operation takes, or something else than a function in the place of
a callback: the last argument, and the second one of reading by lines. -/
def Malformed (operation : Operation) (arguments : List Value) : Prop :=
  arguments.length ≠ (if operation ∈ pathOnly then 2 else 3) ∨
    (∀ f, arguments.getLast? ≠ some (.function f)) ∨
    (operation = .readFromFile ∧ ∀ f, arguments[1]? ≠ some (.function f))

/-- The exception about a fault. -/
def typeError (message : String) : ScriptException := ⟨.typeError, message, none⟩

variable {operation : Operation} {label message : String} {arguments : List Value}
  {request : Request} {callbacks : List FunctionRef}

/-! ## The shapes of the six operations -/

/-- Every operation takes a path alone, a path and an operand, or is reading by lines. -/
theorem shape_cases (operation : Operation) :
    operation ∈ pathOnly ∨ operation ∈ pathAndOperand ∨ operation = .readFromFile := by
  cases operation <;> decide

/-- A path and a callback are two arguments. -/
theorem argumentCount_of_pathOnly (hpath : operation ∈ pathOnly) :
    operation.argumentCount = 2 := by
  cases operation <;> first | rfl | exact absurd hpath (by decide)

/-- Every operation on more than a path takes three arguments. -/
theorem argumentCount_of_not_pathOnly (hpath : operation ∉ pathOnly) :
    operation.argumentCount = 3 := by
  cases operation <;> first | rfl | exact absurd (by decide) hpath

/-- After a path alone the second argument is the only callback. -/
theorem callbackPositions_of_pathOnly (hpath : operation ∈ pathOnly) :
    operation.callbackPositions = [(1, none)] := by
  cases operation <;> first | rfl | exact absurd hpath (by decide)

/-- After a path and an operand the third argument is the only callback. -/
theorem callbackPositions_of_pathAndOperand (hoperand : operation ∈ pathAndOperand) :
    operation.callbackPositions = [(2, none)] := by
  cases operation <;> first | rfl | exact absurd hoperand (by decide)

/-- An operation with an operand takes more than a path. -/
theorem not_mem_pathOnly (hoperand : operation ∈ pathAndOperand) : operation ∉ pathOnly := by
  cases operation <;> first | decide | exact absurd hoperand (by decide)

/-- A path alone with a function is a signature. -/
theorem exists_signature_of_pathOnly (hpath : operation ∈ pathOnly) (path : Value)
    (callback : FunctionRef) :
    ∃ request callbacks, Signature operation [path, .function callback] request callbacks := by
  cases operation with
  | read => exact ⟨_, _, .read path callback⟩
  | remove => exact ⟨_, _, .remove path callback⟩
  | stat => exact ⟨_, _, .stat path callback⟩
  | readFromFile | write | move => exact absurd hpath (by decide)

/-- A path and an operand with a function are a signature. -/
theorem exists_signature_of_pathAndOperand (hoperand : operation ∈ pathAndOperand)
    (path operand : Value) (callback : FunctionRef) :
    ∃ request callbacks,
      Signature operation [path, operand, .function callback] request callbacks := by
  cases operation with
  | write => exact ⟨_, _, .write path operand callback⟩
  | move => exact ⟨_, _, .move path operand callback⟩
  | read | readFromFile | remove | stat => exact absurd hoperand (by decide)

/-- A value that passes for a callback is a function. -/
theorem exists_function {value : Value} (hvalue : value.isFunction = true) :
    ∃ f, value = .function f := by
  cases value with
  | function f => exact ⟨f, rfl⟩
  | _ => contradiction

/-- Every argument list has a fault or a signature. -/
theorem fault_or_signature (label : String) (operation : Operation) (arguments : List Value) :
    (∃ message, Fault label operation arguments message) ∨
      ∃ request callbacks, Signature operation arguments request callbacks := by
  rcases shape_cases operation with hpath | hoperand | rfl
  · by_cases hlength : arguments.length = 2
    · match arguments, hlength with
      | [path, callback], _ =>
        cases hcallback : callback.isFunction with
        | false => exact Or.inl ⟨_, .second hpath hcallback⟩
        | true =>
          obtain ⟨f, rfl⟩ := exists_function hcallback
          exact Or.inr (exists_signature_of_pathOnly hpath path f)
    · exact Or.inl ⟨_, .notTwo hpath hlength⟩
  · by_cases hlength : arguments.length = 3
    · match arguments, hlength with
      | [path, operand, callback], _ =>
        cases hcallback : callback.isFunction with
        | false => exact Or.inl ⟨_, .third hoperand hcallback⟩
        | true =>
          obtain ⟨f, rfl⟩ := exists_function hcallback
          exact Or.inr (exists_signature_of_pathAndOperand hoperand path operand f)
    · exact Or.inl ⟨_, .notThree (not_mem_pathOnly hoperand) hlength⟩
  · by_cases hlength : arguments.length = 3
    · match arguments, hlength with
      | [path, listener, done], _ =>
        cases hlistener : listener.isFunction with
        | false => exact Or.inl ⟨_, .listener hlistener⟩
        | true =>
          obtain ⟨f, rfl⟩ := exists_function hlistener
          cases hdone : done.isFunction with
          | false => exact Or.inl ⟨_, .done hdone⟩
          | true =>
            obtain ⟨g, rfl⟩ := exists_function hdone
            exact Or.inr ⟨_, _, .readFromFile path f g⟩
    · exact Or.inl ⟨_, .notThree (by decide) hlength⟩

/-- A value that is no function fills no callback position. -/
theorem ne_function {value : Value} (hvalue : value.isFunction = false) (f : FunctionRef) :
    value ≠ .function f := by
  rintro rfl
  contradiction

/-- The argument lists with a fault are the malformed ones. -/
theorem malformed_iff_exists_fault :
    Malformed operation arguments ↔ ∃ message, Fault label operation arguments message := by
  constructor
  · intro hmalformed
    rcases fault_or_signature label operation arguments with hfault | ⟨_, _, hsignature⟩
    · exact hfault
    · cases hsignature <;> simp [Malformed, pathOnly] at hmalformed
  · rintro ⟨message, hfault⟩
    cases hfault with
    | notTwo hpath hlength => exact Or.inl (by rwa [if_pos hpath])
    | notThree hpath hlength => exact Or.inl (by rwa [if_neg hpath])
    | second _ hcallback => exact Or.inr (Or.inl (by simpa using ne_function hcallback))
    | third _ hcallback => exact Or.inr (Or.inl (by simpa using ne_function hcallback))
    | listener hlistener => exact Or.inr (Or.inr ⟨rfl, by simpa using ne_function hlistener⟩)
    | done hdone => exact Or.inr (Or.inl (by simpa using ne_function hdone))

/-! ## The check of the arguments -/

/-- A wrong number of arguments is found first. -/
theorem rejection_of_length {demand : String}
    (hdemand : " requires " ++ natText operation.argumentCount ++ " parameters" = demand)
    (hlength : arguments.length ≠ operation.argumentCount) :
    operation.rejection label arguments =
      some (typeError (label ++ "." ++ operation.name ++ demand)) := by
  rw [rejection, if_pos hlength, countException, Operation.label, ← hdemand]
  simp only [typeError, String.append_assoc]

/-- With the right number of arguments the first callback position without a function counts. -/
theorem rejection_of_count (hcount : arguments.length = operation.argumentCount) :
    operation.rejection label arguments =
      (operation.callbackPositions.find? fun position =>
        !(Value.argument arguments position.1).isFunction).map
          (operation.callbackException label) :=
  if_neg (not_not_intro hcount)

/-- The exception about a callback without a role. -/
theorem callbackException_none (operation : Operation) (label : String) (index : Nat) :
    operation.callbackException label (index, none) =
      typeError (ordinal index ++ " argument to " ++ label ++ "." ++ operation.name ++
        " must be a function") := by
  simp [callbackException, Operation.label, typeError, String.append_assoc]

/-- The exception about a callback of reading by lines. -/
theorem callbackException_some (label : String) (index : Nat) (role : String) :
    Operation.callbackException .readFromFile label (index, some role) =
      typeError (ordinal index ++ " argument to " ++ label ++
        (".readFromFile must be a function" ++ (" (" ++ role ++ ")"))) := by
  simp [callbackException, Operation.label, Operation.name, typeError, String.append_assoc]

/-- The text of a number with one digit. -/
theorem natText_of_lt {n : Nat} (hpos : n ≠ 0) (hten : n < 10) :
    natText n = String.singleton n.digitChar := by
  have hnone : n / 10 = 0 := by omega
  simp [natText, natChars, digitChars, Decimal.digits, hpos, hnone, Nat.mod_eq_of_lt hten]

/-- The check finds the first fault and throws its message. -/
theorem Fault.rejection (hfault : Fault label operation arguments message) :
    operation.rejection label arguments = some (typeError message) := by
  cases hfault with
  | notTwo hpath hlength =>
    have hcount := argumentCount_of_pathOnly hpath
    have htwo : natText 2 = "2" := natText_of_lt (by decide) (by decide)
    rw [rejection_of_length rfl (by rwa [hcount]), hcount, htwo]
    simp
  | notThree hpath hlength =>
    have hcount := argumentCount_of_not_pathOnly hpath
    have hthree : natText 3 = "3" := natText_of_lt (by decide) (by decide)
    rw [rejection_of_length rfl (by rwa [hcount]), hcount, hthree]
    simp
  | second hpath hcallback =>
    have hcount := argumentCount_of_pathOnly hpath
    rw [rejection_of_count (by rw [hcount]; rfl), callbackPositions_of_pathOnly hpath]
    simp [Value.argument, hcallback, callbackException_none, ordinal]
  | third hoperand hcallback =>
    have hcount := argumentCount_of_not_pathOnly (not_mem_pathOnly hoperand)
    rw [rejection_of_count (by rw [hcount]; rfl), callbackPositions_of_pathAndOperand hoperand]
    simp [Value.argument, hcallback, callbackException_none, ordinal]
  | listener hlistener =>
    rw [rejection_of_count rfl]
    simp [callbackPositions, Value.argument, hlistener, callbackException_some, ordinal]
  | @done path done listener hdone =>
    rw [rejection_of_count rfl]
    have hfunction : (Value.function listener).isFunction = true := rfl
    simp [callbackPositions, Value.argument, hdone, hfunction, callbackException_some, ordinal]

/-- The check lets a signature pass. -/
theorem Signature.rejection (hsignature : Signature operation arguments request callbacks) :
    operation.rejection label arguments = none := by
  cases hsignature <;> rfl

/-- A signature makes its own request and has its own callbacks stored. -/
theorem Signature.eq_request (hsignature : Signature operation arguments request callbacks) :
    operation.request arguments = request ∧
      operation.callbacks arguments = callbacks.map Value.function := by
  cases hsignature <;> exact ⟨rfl, rfl⟩

end ScriptFiles.Operation
