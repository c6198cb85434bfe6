import ScriptFiles.Entries
import ScriptFiles.Proofs.Bridge.Changes
import Mathlib.Data.String.Basic

/-!
# Properties in the order of their names

An object keeps its properties by increasing name, each name once. Everything that makes or changes
an object keeps to that, so it holds of all objects of every heap that the bridge can reach from one
of which it holds, such as the empty one.
-/

namespace ScriptFiles

/-! ## Objects -/

namespace Properties

/-- The properties are in increasing order of their names, each name once. -/
def Ordered (properties : Properties) : Prop := properties.Pairwise (·.1 < ·.1)

instance (properties : Properties) : Decidable properties.Ordered :=
  inferInstanceAs (Decidable (List.Pairwise _ _))

variable {properties : Properties}

/-- No properties are in order. -/
theorem Ordered.nil : Ordered [] := List.Pairwise.nil

/-- Properties in order have each name once. -/
theorem Ordered.nodup_keys (h : properties.Ordered) : properties.keys.Nodup :=
  List.pairwise_map.mpr (h.imp ne_of_lt)

/-- A property after setting one is that one or was there before. -/
theorem mem_set {key : String} {value : Value} {entry : String × Value}
    (h : entry ∈ properties.set key value) : entry.1 = key ∨ entry ∈ properties := by
  induction properties with
  | nil =>
    rw [set, List.mem_singleton] at h
    exact .inl (congrArg Prod.fst h)
  | cons first rest ih =>
    obtain ⟨k, v⟩ := first
    rw [set] at h
    split_ifs at h
    · rcases List.mem_cons.mp h with rfl | hrest
      · exact .inl rfl
      · exact .inr (List.mem_cons_of_mem _ hrest)
    · rcases List.mem_cons.mp h with rfl | hmem
      · exact .inl rfl
      · exact .inr hmem
    · rcases List.mem_cons.mp h with rfl | hlater
      · exact .inr List.mem_cons_self
      · exact (ih hlater).imp_right (List.mem_cons_of_mem _)

/-- Setting a property keeps the order. -/
theorem Ordered.set (h : properties.Ordered) (key : String) (value : Value) :
    (properties.set key value).Ordered := by
  induction properties with
  | nil => exact List.pairwise_singleton _ _
  | cons first rest ih =>
    obtain ⟨k, v⟩ := first
    obtain ⟨hfirst, hrest⟩ := List.pairwise_cons.mp h
    rw [Properties.set]
    split_ifs with hsame hless
    · subst hsame
      exact List.pairwise_cons.mpr ⟨hfirst, hrest⟩
    · refine List.pairwise_cons.mpr ⟨fun entry hentry => ?_, h⟩
      rcases List.mem_cons.mp hentry with rfl | hlater
      · exact hless
      · exact hless.trans (hfirst entry hlater)
    · refine List.pairwise_cons.mpr ⟨fun entry hentry => ?_, ih hrest⟩
      rcases mem_set hentry with hkey | hlater
      · exact hkey ▸ lt_of_le_of_ne (not_lt.mp hless) (Ne.symm hsame)
      · exact hfirst entry hlater

/-- Setting several properties keeps the order. -/
theorem Ordered.setAll (h : properties.Ordered) (news : List (String × Value)) :
    (properties.setAll news).Ordered := by
  induction news generalizing properties with
  | nil => exact h
  | cons new rest ih => exact ih (h.set new.1 new.2)

/-- Removing a property keeps the order. -/
theorem Ordered.remove (h : properties.Ordered) (key : String) :
    (properties.remove key).Ordered :=
  h.filter _

end Properties

/-! ## Heaps -/

namespace Heap

/-- All objects have their properties in order. -/
def Ordered (heap : Heap) : Prop := ∀ properties ∈ heap.objects, properties.Ordered

instance (heap : Heap) : Decidable heap.Ordered :=
  inferInstanceAs (Decidable (∀ properties ∈ heap.objects, properties.Ordered))

variable {heap : Heap}

/-- A heap without objects is in order. -/
theorem Ordered.empty : Ordered {} := fun _ hmem => absurd hmem List.not_mem_nil

/-- The properties of any object of a heap in order are in order. -/
theorem Ordered.properties (h : heap.Ordered) (o : ObjectRef) : (heap.properties o).Ordered := by
  unfold Heap.properties
  cases hget : heap.objects[o.index]? with
  | none => exact .nil
  | some properties => exact h properties (List.mem_of_getElem? hget)

/-- A new object with properties in order keeps a heap in order. -/
theorem Ordered.newObject (h : heap.Ordered) {properties : Properties}
    (hproperties : properties.Ordered) : (heap.newObject properties).2.Ordered := by
  intro object hobject
  rcases List.mem_append.mp hobject with hold | hnew
  · exact h object hold
  · rw [List.mem_singleton.mp hnew]
    exact hproperties

/-- Setting a property keeps the order. -/
theorem Ordered.set (h : heap.Ordered) (o : ObjectRef) (key : String) (value : Value) :
    (heap.set o key value).Ordered := by
  intro object hobject
  rcases List.mem_or_eq_of_mem_set hobject with hold | rfl
  · exact h object hold
  · exact (h.properties o).set key value

/-- Removing a property keeps the order. -/
theorem Ordered.remove (h : heap.Ordered) (o : ObjectRef) (key : String) :
    (heap.remove o key).Ordered := by
  intro object hobject
  rcases List.mem_or_eq_of_mem_set hobject with hold | rfl
  · exact h object hold
  · exact (h.properties o).remove key

/-- The arguments of a last callback are made with properties in order. -/
theorem Ordered.lastArguments (h : heap.Ordered) (operation : Operation) (result : NativeResult) :
    (lastArguments operation result heap).2.Ordered := by
  cases operation with
  | read => cases result <;> exact h.newObject (Properties.Ordered.nil.setAll _)
  | stat =>
    cases result with
    | ok answer => exact h.newObject (Properties.Ordered.nil.setAll _)
    | failed error => exact h.newObject ((Properties.Ordered.nil.setAll _).set _ _)
  | readFromFile | write | move | remove => exact h

end Heap

/-! ## Runs -/

namespace Bridge

variable {s : State}

/-- Binding the operations keeps a heap in order. -/
theorem ordered_bindOperations {heap : Heap} (h : heap.Ordered) (label : String) (o : ObjectRef) :
    (State.bindOperations heap label o).Ordered := by
  unfold State.bindOperations
  generalize Operation.all = operations
  induction operations generalizing heap with
  | nil => exact h
  | cons operation rest ih =>
    have hmade : (heap.newFunction operation.name (.entry label operation)).2.Ordered := h
    exact ih (hmade.set _ _ _)

/-- A turn under a condition keeps the heap in order if the turn does. -/
theorem ordered_guarded (h : s.heap.Ordered) (condition : Bool) {turn : Turn}
    (hturn : turn.state.heap.Ordered) : (guarded s condition turn).state.heap.Ordered := by
  unfold guarded
  split
  · exact hturn
  · exact h

/-- Handing over a result keeps the heap in order. -/
theorem ordered_complete (h : s.heap.Ordered) (e : EngineId) (handle : Handle)
    (operation : Operation) (callbacks : Callbacks) (result : NativeResult) :
    (s.complete e handle operation callbacks result).state.heap.Ordered := by
  unfold State.complete
  split
  · split
    · rwa [State.heap_nextLine]
    · rwa [State.heap_reportFatal]
  · dsimp only
    rw [State.heap_applyLast]
    exact h.lastArguments operation _

/-- A completion keeps the heap in order. -/
theorem ordered_fire (h : s.heap.Ordered) (ticket : Ticket) (operation : Operation)
    (result : NativeResult) : (s.fire ticket operation result).state.heap.Ordered := by
  have hspend : (s.spend ticket).heap.Ordered := h
  unfold State.fire
  dsimp only
  split
  · cases htaken : (s.spend ticket).takeStored ticket.engine ticket.handle with
    | none => exact h
    | some taken =>
      have htakenHeap : taken.2.heap.Ordered := by
        obtain ⟨stored, -, rfl⟩ := Option.map_eq_some_iff.mp htaken
        exact hspend
      dsimp only
      split
      · rwa [State.heap_reportFatal]
      · exact ordered_complete htakenHeap _ _ _ _ _
  · exact h

/-- A resumption keeps the heap in order. -/
theorem ordered_resume (h : s.heap.Ordered) (ticket : Ticket) :
    (s.resume ticket).state.heap.Ordered := by
  have hspend : (s.spend ticket).heap.Ordered := h
  unfold State.resume
  dsimp only
  split
  · cases htaken : (s.spend ticket).takeStored ticket.engine ticket.handle with
    | none => exact h
    | some taken =>
      obtain ⟨stored, -, rfl⟩ := Option.map_eq_some_iff.mp htaken
      exact hspend
  · exact h

/-- A call keeps the heap in order. -/
theorem ordered_call (h : s.heap.Ordered) (invocation : Invocation) :
    (s.call invocation).state.heap.Ordered := by
  unfold State.call
  split
  · exact h
  · next happly =>
    have hheap := State.heap_apply happly
    exact hheap ▸ h

/-- Installing a namespace keeps the heap in order. -/
theorem ordered_install (h : s.heap.Ordered) (e : EngineId) (name : String) :
    (s.install e name).state.heap.Ordered := by
  unfold State.install
  split
  · exact (ordered_bindOperations (h.newObject .nil) _ _).set _ _ _
  · exact h

/-- Every move keeps the properties of all objects in order. -/
theorem ordered_step (h : s.heap.Ordered) (m : Move) : (step s m).state.heap.Ordered := by
  cases m with
  | createEngine | createObject => exact h.newObject .nil
  | createFunction => exact h
  | setProperty object key value => exact h.set object key value
  | removeProperty object key => exact h.remove object key
  | dropEngine | setGlobal | setHook => exact ordered_guarded h _ h
  | install e name => exact ordered_guarded h _ (ordered_install h e name)
  | bind label object => exact ordered_bindOperations h label object
  | call => exact ordered_guarded h _ (ordered_call h _)
  | store => exact ordered_guarded h _ h
  | fire id result =>
    dsimp only [step]
    split
    · split
      · exact ordered_guarded h _ (ordered_fire h _ _ _)
      · exact h
    · exact h
  | resume id =>
    dsimp only [step]
    split
    · exact ordered_guarded h _ (ordered_resume h _)
    · exact h
  | abandon id =>
    dsimp only [step]
    split <;> exact h
  | return_ outcome =>
    dsimp only [step]
    cases hreturn : s.return_ outcome with
    | none => exact h
    | some turn => exact State.heap_return_ hreturn ▸ h
  | acknowledge =>
    dsimp only [step]
    split
    · next outer _ =>
      cases hreturn : State.return_ { s with frames := outer } (.value .undefined) with
      | none => exact h
      | some turn =>
        have hheap := State.heap_return_ hreturn
        exact hheap ▸ h
    · exact h
  | delivered error =>
    dsimp only [step]
    split
    · split
      · exact h
      · rwa [State.heap_reportFatal]
    · exact h
  | reported =>
    dsimp only [step]
    split <;> exact h

/-- Runs keep the properties of all objects in order. -/
theorem ordered_after (h : s.heap.Ordered) (moves : List Move) :
    (Bridge.after s moves).heap.Ordered := by
  induction moves generalizing s with
  | nil => exact h
  | cons m rest ih => exact ih (ordered_step h m)

end Bridge
end ScriptFiles
