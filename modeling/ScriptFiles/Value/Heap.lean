import ScriptFiles.Value.Basic

/-!
# Objects

A heap holds the objects that values refer to, each a list of properties in the order of their
names, and counts the functions made so far. Objects are never taken back: a reference stays
good for as long as the heap is used.
-/

namespace ScriptFiles

/-- The properties of an object, by increasing name. -/
abbrev Properties := List (String × Value)

namespace Properties

/-- The value of a name. -/
def get? (properties : Properties) (key : String) : Option Value :=
  properties.lookup key

/-- Whether a name has a value. -/
def contains (properties : Properties) (key : String) : Bool :=
  (properties.get? key).isSome

/-- Sets a property, in place or where its name belongs. -/
def set (properties : Properties) (key : String) (value : Value) : Properties :=
  match properties with
  | [] => [(key, value)]
  | (k, v) :: rest =>
    if key = k then (key, value) :: rest
    else if key < k then (key, value) :: (k, v) :: rest
    else (k, v) :: set rest key value

/-- Takes a property away. -/
def remove (properties : Properties) (key : String) : Properties :=
  properties.filter (·.1 != key)

/-- The names in order. -/
def keys (properties : Properties) : List String :=
  properties.map Prod.fst

/-- A property that is set has its value. -/
@[simp] theorem get?_set_self (properties : Properties) (key : String) (value : Value) :
    (properties.set key value).get? key = some value := by
  induction properties with
  | nil => simp [set, get?]
  | cons p rest ih =>
    obtain ⟨k, v⟩ := p
    unfold set
    split
    · simp [get?]
    · next other =>
      split
      · simp [get?]
      · have different : (key == k) = false := by simpa using other
        simpa [get?, List.lookup_cons, different] using ih

/-- Setting a property leaves every other one alone. -/
theorem get?_set_of_ne (properties : Properties) {key other : String} (value : Value)
    (h : other ≠ key) : (properties.set key value).get? other = properties.get? other := by
  have different : (other == key) = false := by simpa using h
  induction properties with
  | nil => simp [set, get?, List.lookup_cons, different]
  | cons p rest ih =>
    obtain ⟨k, v⟩ := p
    unfold set
    split
    · next same => subst same; simp [get?, List.lookup_cons, different]
    · split
      · simp only [get?, List.lookup_cons, different]
      · simp only [get?, List.lookup_cons] at ih ⊢
        rw [ih]

/-- Sets a list of properties one after another. -/
def setAll (properties : Properties) (news : List (String × Value)) : Properties :=
  news.foldl (fun sofar new => sofar.set new.1 new.2) properties

end Properties

/-- The objects made so far and the number of functions made so far. -/
structure Heap where
  objects : List Properties := []
  functionCount : Nat := 0
deriving DecidableEq, Repr, Inhabited

namespace Heap

/-- The properties of an object. -/
def properties (heap : Heap) (object : ObjectRef) : Properties :=
  (heap.objects[object.index]?).getD []

/-- A new object. -/
def newObject (heap : Heap) (properties : Properties) : ObjectRef × Heap :=
  (⟨heap.objects.length⟩, { heap with objects := heap.objects ++ [properties] })

/-- A new function. -/
def newFunction (heap : Heap) (name : String) (body : Callable) : FunctionRef × Heap :=
  (⟨heap.functionCount, name, body⟩, { heap with functionCount := heap.functionCount + 1 })

/-- The value of a property, `undefined` when there is none. -/
def get (heap : Heap) (object : ObjectRef) (key : String) : Value :=
  ((heap.properties object).get? key).getD .undefined

/-- Sets a property of an object. -/
def set (heap : Heap) (object : ObjectRef) (key : String) (value : Value) : Heap :=
  { heap with objects := heap.objects.set object.index ((heap.properties object).set key value) }

/-- Takes a property of an object away. -/
def remove (heap : Heap) (object : ObjectRef) (key : String) : Heap :=
  { heap with objects := heap.objects.set object.index ((heap.properties object).remove key) }

/-- The value reached from another one by a list of property names, `undefined` as soon as a
value on the way is no object. -/
def follow (heap : Heap) : Value → List String → Value
  | value, [] => value
  | .object o, key :: rest => follow heap (heap.get o key) rest
  | _, _ :: _ => .undefined

/-- A new object is one more object. -/
@[simp] theorem length_objects_newObject (heap : Heap) (properties : Properties) :
    (heap.newObject properties).2.objects.length = heap.objects.length + 1 := by
  simp [newObject]

/-- Setting a property makes no object. -/
@[simp] theorem length_objects_set (heap : Heap) (object : ObjectRef) (key : String) (value : Value) :
    (heap.set object key value).objects.length = heap.objects.length := by
  simp [set]

end Heap
end ScriptFiles
