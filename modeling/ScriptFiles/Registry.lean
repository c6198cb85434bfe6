import ScriptFiles.Value.Basic

/-!
# The handle registry

Values wait here under a fresh handle until the operation they belong to completes. A handle is
nothing but its number: numbers are drawn from a counter and start at one. Storing takes two
atomic steps, drawing the number and putting the values in; taking is one step.
-/

namespace ScriptFiles

/-- The number of a registration. -/
structure Handle where
  id : UInt64
deriving DecidableEq, Repr, Inhabited

/-- The text of a handle. -/
def Handle.text (h : Handle) : String :=
  "op#" ++ natText h.id.toNat

/-- The debug text of a handle. -/
def Handle.debugText (h : Handle) : String :=
  "OperationHandle(" ++ natText h.id.toNat ++ ")"

/-- The last number drawn and the values waiting. -/
structure Registry where
  lastId : UInt64 := 0
  entries : List (Handle × List Value) := []
deriving DecidableEq, Repr, Inhabited

namespace Registry

/-- Draws the next number. -/
def draw (r : Registry) : Handle × Registry :=
  (⟨r.lastId + 1⟩, { r with lastId := r.lastId + 1 })

/-- Puts values in under a handle. -/
def insert (r : Registry) (h : Handle) (values : List Value) : Registry :=
  { r with entries := (h, values) :: r.entries.filter (·.1 != h) }

/-- Puts values in under a fresh handle. -/
def store (r : Registry) (values : List Value) : Handle × Registry :=
  let drawn := r.draw
  (drawn.1, drawn.2.insert drawn.1 values)

/-- The values waiting under a handle. -/
def get? (r : Registry) (h : Handle) : Option (List Value) :=
  r.entries.lookup h

/-- Takes the values of a handle out; nothing changes when there are none. -/
def take (r : Registry) (h : Handle) : Option (List Value × Registry) :=
  match r.get? h with
  | some values => some (values, { r with entries := r.entries.filter (·.1 != h) })
  | none => none

/-- The number of registrations waiting. -/
def size (r : Registry) : Nat :=
  r.entries.length

/-- Nothing is stored. -/
def isEmpty (r : Registry) : Bool :=
  r.entries.isEmpty

end Registry
end ScriptFiles
