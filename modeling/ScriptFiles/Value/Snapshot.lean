import ScriptFiles.Text.Quoted
import ScriptFiles.Value.Heap

/-!
# Values as finite trees

A `Snapshot` is what can be seen of a value by following properties: a finite tree, because an
object is not entered again below itself. `Heap.snapshot` takes one; the list it carries holds
the objects that are not on the way from the root, so the recursion ends. An object that is
merely shared appears in full each time.
-/

namespace ScriptFiles

/-- What can be seen of a value; `again` stands for an object that is one of its own ancestors. -/
inductive Snapshot
  | undefined
  | null
  | bool (value : Bool)
  | number (value : Double)
  | string (value : String)
  | buffer (value : Bytes)
  | function (name : String)
  | object (properties : List (String × Snapshot))
  | again
deriving Repr, Inhabited

namespace Heap

/-- The tree below a value, entering only objects of the list `free`. -/
def snapshotWithin (heap : Heap) (free : List ObjectRef) : Value → Snapshot
  | .undefined => .undefined
  | .null => .null
  | .bool b => .bool b
  | .number n => .number n
  | .string s => .string s
  | .buffer bs => .buffer bs
  | .function f => .function f.name
  | .object o =>
    if o ∈ free then
      .object ((heap.properties o).map fun property =>
        (property.1, heap.snapshotWithin (free.erase o) property.2))
    else .again
termination_by free.length
decreasing_by
  rw [List.length_erase_of_mem (by assumption)]
  exact Nat.sub_lt (List.length_pos_of_mem (by assumption)) Nat.one_pos

/-- References to all objects. -/
def refs (heap : Heap) : List ObjectRef :=
  (List.range heap.objects.length).map ObjectRef.mk

/-- The tree below a value. -/
def snapshot (heap : Heap) (value : Value) : Snapshot :=
  heap.snapshotWithin heap.refs value

end Heap

namespace Snapshot

/-- Texts joined by a comma and a blank. -/
def commaJoined (parts : List String) : String :=
  String.intercalate ", " parts

/-- The debug text of a tree. -/
def debugText : Snapshot → String
  | .undefined => "Undefined"
  | .null => "Null"
  | .bool b => "Bool(" ++ (if b then "true" else "false") ++ ")"
  | .number n => "Number(" ++ n.text .debug ++ ")"
  | .string s => "String(" ++ Quoted.text s ++ ")"
  | .buffer bs => "Buffer(" ++ Quoted.bytes bs ++ ")"
  | .function name => "ScriptFunction \x7b name: " ++ Quoted.text name ++ ", .. \x7d"
  | .object properties =>
    "\x7b" ++ commaJoined (properties.attach.map fun property =>
      Quoted.text property.1.1 ++ ": " ++ property.1.2.debugText) ++ "\x7d"
  | .again => "\x7b <locked> \x7d"
termination_by snapshot => sizeOf snapshot
decreasing_by
  have inside := List.sizeOf_lt_of_mem property.2
  have pair : sizeOf property.1 = 1 + sizeOf property.1.1 + sizeOf property.1.2 := by
    rcases property with ⟨⟨key, tree⟩, mem⟩; rfl
  simp only [Snapshot.object.sizeOf_spec]
  omega

end Snapshot
end ScriptFiles
