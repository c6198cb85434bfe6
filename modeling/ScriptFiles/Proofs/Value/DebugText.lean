import ScriptFiles.Proofs.Value.Ordered
import ScriptFiles.Value.DebugText

/-!
# Debug text of cyclic objects

A graph of objects is unfolded into a tree along its paths, `Heap.unfolding`: an object that is on
the path already is cut off, any other one is entered, however often it appears elsewhere. A path
never meets an object twice, so the objects that are not on it get fewer with every object entered,
and unfolding ends. Printing with locks gives the text of that tree: while it is below a path,
exactly the objects of the path are locked.
-/

namespace ScriptFiles

/-! ## Unfolding -/

namespace Heap

variable {heap : Heap} {path : List ObjectRef} {o : ObjectRef}

/-- The names of the properties of an object, in increasing order. -/
def names (heap : Heap) (o : ObjectRef) : List String :=
  (heap.properties o).keys.mergeSort (· ≤ ·)

/-- The objects that are not on a path. -/
def off (heap : Heap) (path : List ObjectRef) : List ObjectRef :=
  heap.refs.filter (· ∉ path)

/-- The references of a heap are those of its objects. -/
theorem mem_refs : o ∈ heap.refs ↔ o.index < heap.objects.length := by
  obtain ⟨index⟩ := o
  simp [refs]

/-- A name belongs to an object that exists. -/
theorem mem_refs_of_mem_keys {name : String} (hname : name ∈ (heap.properties o).keys) :
    o ∈ heap.refs := by
  rw [mem_refs]
  by_contra hbeyond
  rw [properties, List.getElem?_eq_none (Nat.not_lt.mp hbeyond)] at hname
  exact List.not_mem_nil hname

/-- With every object on the path fewer objects are off it. -/
theorem length_off_cons_lt (hnew : o ∉ path) (hexists : o ∈ heap.refs) :
    (heap.off (o :: path)).length < (heap.off path).length := by
  have hfilter : heap.off (o :: path) = (heap.off path).filter (· ≠ o) := by
    rw [off, off, List.filter_filter]
    exact List.filter_congr fun r _ => by simp
  rw [hfilter, List.length_filter_lt_length_iff_exists]
  exact ⟨o, List.mem_filter.mpr ⟨hexists, by simpa using hnew⟩, by simp⟩

/-- What can be seen of a value below the objects of a path, names in increasing order. -/
def unfolding (heap : Heap) (path : List ObjectRef) : Value → Snapshot
  | .object o =>
    if o ∈ path then .again
    else .object ((heap.names o).attach.map fun ⟨name, _⟩ =>
      (name, heap.unfolding (o :: path) (heap.get o name)))
  | .undefined => .undefined
  | .null => .null
  | .bool b => .bool b
  | .number n => .number n
  | .string s => .string s
  | .buffer bs => .buffer bs
  | .function f => .function f.name
termination_by (heap.off path).length
decreasing_by
  exact length_off_cons_lt (by assumption) (mem_refs_of_mem_keys (List.mem_mergeSort.mp ‹_›))

/-- An object on the path is not unfolded again. -/
theorem unfolding_of_mem (hagain : o ∈ path) : heap.unfolding path (.object o) = .again := by
  rw [unfolding, if_pos hagain]

/-- An object off the path is unfolded with its properties, and is on the path for them. -/
theorem unfolding_of_notMem (hnew : o ∉ path) :
    heap.unfolding path (.object o) = .object ((heap.names o).map fun name =>
      (name, heap.unfolding (o :: path) (heap.get o name))) := by
  rw [unfolding, if_neg hnew]
  congr 1
  exact List.attach_map_val (f := fun name => (name, heap.unfolding (o :: path) (heap.get o name)))

/-- The names of an object and what they stand for are its properties. -/
theorem Ordered.map_names (h : heap.Ordered) (o : ObjectRef) :
    (heap.names o).map (fun name => (name, heap.get o name)) = heap.properties o := by
  have hordered := h.properties o
  have hnames : heap.names o = (heap.properties o).keys :=
    List.mergeSort_of_pairwise
      (List.pairwise_map.mpr (hordered.imp fun hless => by simpa using le_of_lt hless))
  have hget (entry : String × Value) (hentry : entry ∈ heap.properties o) :
      (entry.1, heap.get o entry.1) = entry := by
    rw [get, Properties.get?, (Entries.lookup_eq_some_iff_mem hordered.nodup_keys).mpr hentry]
    rfl
  rw [hnames, Properties.keys, List.map_map]
  exact (List.map_congr_left hget).trans (List.map_id _)

end Heap

/-! ## Printing -/

/-- The text of an object lists its properties. -/
theorem Snapshot.debugText_object (properties : List (String × Snapshot)) :
    (Snapshot.object properties).debugText =
      "\x7b" ++ commaJoined (properties.map fun property =>
        Quoted.text property.1 ++ ": " ++ property.2.debugText) ++ "\x7d" := by
  rw [debugText]
  congr 3
  exact List.attach_map_val (f := fun property : String × Snapshot =>
    Quoted.text property.1 ++ ": " ++ property.2.debugText)

namespace LockedHeap

/-- Properties are printed one after another if printing each of them leaves the heap as it was. -/
theorem printAll_eq {print : LockedHeap → Value → Option (String × LockedHeap)} {s : LockedHeap}
    (text : Value → String) (properties : Properties)
    (hprint : ∀ property ∈ properties, print s property.2 = some (text property.2, s)) :
    printAll print s properties =
      some (properties.map fun property => Quoted.text property.1 ++ ": " ++ text property.2,
        s) := by
  induction properties with
  | nil => rfl
  | cons first rest ih =>
    obtain ⟨key, value⟩ := first
    have hfirst := hprint (key, value) List.mem_cons_self
    have hrest := ih fun property hproperty => hprint property (List.mem_cons_of_mem _ hproperty)
    rw [printAll, hfirst, Option.bind_eq_bind, Option.bind_some, hrest]
    rfl

/-- A locked object is printed as such. -/
theorem print_of_locked {s : LockedHeap} {o : ObjectRef} (h : s.tryLock o = none) (depth : ℕ) :
    print depth s (.object o) = some ("\x7b <locked> \x7d", s) := by
  rw [print]
  exact h

/-- An object that is not locked is printed with its properties while it is locked. -/
theorem print_of_unlocked {s inside : LockedHeap} {o : ObjectRef} {properties : Properties}
    (h : s.tryLock o = some (properties, inside)) (depth : ℕ) :
    print (depth + 1) s (.object o) = (printAll (print depth) inside properties).bind fun printed =>
      some ("\x7b" ++ Snapshot.commaJoined printed.1 ++ "\x7d", printed.2.unlock o) := by
  unfold print
  simp only [h]
  rfl

variable {heap : Heap} {path : List ObjectRef} {o : ObjectRef}

/-- An object on the path is locked. -/
theorem tryLock_of_mem (hlocked : o ∈ path) : tryLock ⟨heap, path⟩ o = none := if_pos hlocked

/-- An object off the path can be locked. -/
theorem tryLock_of_notMem (hfree : o ∉ path) :
    tryLock ⟨heap, path⟩ o = some (heap.properties o, ⟨heap, o :: path⟩) := if_neg hfree

/-- Unlocking takes the object off the path. -/
theorem unlock_cons : unlock ⟨heap, o :: path⟩ o = ⟨heap, path⟩ := by
  rw [unlock, List.erase_cons_head]

/-- Below a path, with its objects locked, printing gives the text of the unfolding and leaves the
same objects locked, if it may enter more objects than there are off the path. -/
theorem print_eq (hordered : heap.Ordered) {depth : ℕ}
    (hdepth : (heap.off path).length < depth) (value : Value) :
    print depth ⟨heap, path⟩ value =
      some ((heap.unfolding path value).debugText, ⟨heap, path⟩) := by
  induction depth generalizing path value with
  | zero => omega
  | succ depth ih =>
    cases value with
    | undefined | null | bool | number | string | buffer | function =>
      rw [print, Heap.unfolding]
    | object o =>
      by_cases hmem : o ∈ path
      · rw [print_of_locked (tryLock_of_mem hmem), Heap.unfolding_of_mem hmem, Snapshot.debugText]
      · have hproperty : ∀ property ∈ heap.properties o,
            print depth ⟨heap, o :: path⟩ property.2 =
              some ((heap.unfolding (o :: path) property.2).debugText, ⟨heap, o :: path⟩) := by
          intro property hproperty
          -- an object with a property exists, so that one object fewer is off the longer path
          have hexists : o ∈ heap.refs :=
            Heap.mem_refs_of_mem_keys (List.mem_map.mpr ⟨property, hproperty, rfl⟩)
          have hfewer := Heap.length_off_cons_lt hmem hexists
          exact ih (by omega) property.2
        have htexts : (heap.properties o).map (fun property => Quoted.text property.1 ++ ": " ++
              (heap.unfolding (o :: path) property.2).debugText) =
            ((heap.names o).map fun name =>
                (name, heap.unfolding (o :: path) (heap.get o name))).map
              fun property => Quoted.text property.1 ++ ": " ++ property.2.debugText := by
          rw [← hordered.map_names o, List.map_map, List.map_map]
          rfl
        have hall := printAll_eq (fun v => (heap.unfolding (o :: path) v).debugText)
          (heap.properties o) hproperty
        rw [htexts] at hall
        rw [print_of_unlocked (tryLock_of_notMem hmem), hall, Option.bind_some, unlock_cons,
          Heap.unfolding_of_notMem hmem, Snapshot.debugText_object]

/-- The number of objects is deep enough. -/
theorem print_of_length_lt (hordered : heap.Ordered) {depth : ℕ}
    (hdepth : heap.objects.length < depth) (value : Value) :
    print depth ⟨heap, []⟩ value = some ((heap.unfolding [] value).debugText, ⟨heap, []⟩) := by
  refine print_eq hordered ?_ value
  simpa [Heap.off, Heap.refs] using hdepth

end LockedHeap

namespace Heap

variable {heap : Heap}

/-- The debug text is that of the unfolding. -/
theorem debugText_eq (hordered : heap.Ordered) (value : Value) :
    heap.debugText value = (heap.unfolding [] value).debugText := by
  rw [debugText, LockedHeap.print_of_length_lt hordered (Nat.lt_succ_self _)]
  rfl

end Heap

/-- Whatever a session of the bridge makes of its objects can be printed. -/
theorem Bridge.debugText_after (moves : List Move) (value : Value) :
    (Bridge.after {} moves).heap.debugText value =
      ((Bridge.after {} moves).heap.unfolding [] value).debugText :=
  Heap.debugText_eq (ordered_after .empty moves) value

end ScriptFiles
