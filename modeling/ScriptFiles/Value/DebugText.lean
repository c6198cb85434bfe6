import ScriptFiles.Value.Snapshot

/-!
# Printing values with locked objects

Debug text is printed while the object being printed is locked, so that an object met again
below itself shows as locked instead of being entered. `LockedHeap.print` threads the locks
through the walk: an object is locked, its properties are printed in order, and it is unlocked
again.
-/

namespace ScriptFiles

/-- A heap and the objects of it that are locked. -/
structure LockedHeap where
  heap : Heap
  locked : List ObjectRef := []
deriving DecidableEq, Repr, Inhabited

namespace LockedHeap

/-- Locks an object, which gives access to its properties, unless it is locked already. -/
def tryLock (s : LockedHeap) (object : ObjectRef) : Option (Properties × LockedHeap) :=
  if object ∈ s.locked then none
  else some (s.heap.properties object, { s with locked := object :: s.locked })

/-- Unlocks an object. -/
def unlock (s : LockedHeap) (object : ObjectRef) : LockedHeap :=
  { s with locked := s.locked.erase object }

/-- Prints properties one after another. -/
def printAll (print : LockedHeap → Value → Option (String × LockedHeap)) (s : LockedHeap) :
    Properties → Option (List String × LockedHeap)
  | [] => some ([], s)
  | (key, value) :: rest => do
    let first ← print s value
    let others ← printAll print first.2 rest
    return ((Quoted.text key ++ ": " ++ first.1) :: others.1, others.2)

/-- Prints a value. The walk may enter `depth` objects inside each other; if it has to enter more
then it gives nothing. -/
def print : Nat → LockedHeap → Value → Option (String × LockedHeap)
  | depth, s, .object o =>
    match s.tryLock o, depth with
    | none, _ => some ("\x7b <locked> \x7d", s)
    | some _, 0 => none
    | some (properties, inside), depth + 1 => do
      let printed ← printAll (print depth) inside properties
      return ("\x7b" ++ Snapshot.commaJoined printed.1 ++ "\x7d", printed.2.unlock o)
  | _, s, .undefined => some (Snapshot.undefined.debugText, s)
  | _, s, .null => some (Snapshot.null.debugText, s)
  | _, s, .bool b => some ((Snapshot.bool b).debugText, s)
  | _, s, .number n => some ((Snapshot.number n).debugText, s)
  | _, s, .string text => some ((Snapshot.string text).debugText, s)
  | _, s, .buffer bytes => some ((Snapshot.buffer bytes).debugText, s)
  | _, s, .function f => some ((Snapshot.function f.name).debugText, s)

end LockedHeap

/-- The debug text of a value of a heap without locked objects. No object is entered below
itself, so the number of objects bounds how deep the walk goes. -/
def Heap.debugText (heap : Heap) (value : Value) : String :=
  ((LockedHeap.print (heap.objects.length + 1) ⟨heap, []⟩ value).map Prod.fst).getD ""

end ScriptFiles
