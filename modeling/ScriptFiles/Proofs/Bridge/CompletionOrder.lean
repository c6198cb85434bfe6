import ScriptFiles.Proofs.Bridge.Conducts

/-!
# Completions in any order

A completion reads and removes its own registration only, and what it tells its callbacks depends
on nothing that another completion changes. So two completions of different tickets can change
places (`Ready.swap`): the state is the same up to new objects, and every function heard the same,
because no function is a callback of both. By induction on the permutation, so can any number of
them.
-/

namespace ScriptFiles.Bridge

/-! ## What functions hear -/

section Hearing

variable {f : FunctionRef} {conduct : Conduct}

/-- What a function heard in two runs is what it heard in the first and then in the second. -/
@[simp] theorem heardBy_append (f : FunctionRef) (first second : Hearings) :
    heardBy f (first ++ second) = heardBy f first ++ heardBy f second := by
  simp [heardBy]

/-- A function that is not called hears nothing. -/
theorem heardBy_of_notMem {hearings : Hearings} (hnone : ∀ call ∈ hearings, call.1 ≠ f) :
    heardBy f hearings = [] := by
  have hfilter : hearings.filter (·.1 == f) = [] := by
    rw [List.filter_eq_nil_iff]
    intro call hcall
    simpa using hnone call hcall
  rw [heardBy, hfilter]
  rfl

/-- How a listener ends depends on what it heard itself. -/
theorem outcomeOf_congr {hearings hearings' : Hearings} (arguments : List Value)
    (hsame : heardBy f hearings = heardBy f hearings') :
    outcomeOf conduct f arguments hearings = outcomeOf conduct f arguments hearings' := by
  rw [outcomeOf, outcomeOf, hsame]

/-- The delivery of lines depends on what the listener heard. -/
theorem lineCalls_congr (this : Value) (done : FunctionRef) (lines : List Bytes)
    {hearings hearings' : Hearings} (hsame : heardBy f hearings = heardBy f hearings') :
    lineCalls conduct this f done lines hearings =
      lineCalls conduct this f done lines hearings' := by
  induction lines generalizing hearings hearings' with
  | nil => rfl
  | cons line rest ih =>
    have hcall : heardBy f (hearings ++ [(f, ⟨this, [.value (lineValue line)]⟩)]) =
        heardBy f (hearings' ++ [(f, ⟨this, [.value (lineValue line)]⟩)]) := by
      rw [heardBy_append, heardBy_append, hsame]
    simp only [lineCalls, outcomeOf_congr [lineValue line] hcall, ih hcall]

/-- The delivery of lines calls the listener and the last callback. -/
theorem mem_lineCalls {this : Value} {listener done : FunctionRef} {lines : List Bytes}
    {hearings : Hearings} {call : FunctionRef × Heard}
    (hcall : call ∈ lineCalls conduct this listener done lines hearings) :
    call.1 = listener ∨ call.1 = done := by
  induction lines generalizing hearings with
  | nil =>
    rw [List.mem_singleton.mp hcall]
    exact Or.inr rfl
  | cons line rest ih =>
    rw [lineCalls] at hcall
    rcases List.mem_cons.mp hcall with rfl | hrest
    · exact Or.inl rfl
    · split at hrest
      · rw [List.mem_singleton.mp hrest]
        exact Or.inr rfl
      · exact ih hrest

variable {global : Value} {operation : Operation} {callbacks : Callbacks} {result : NativeResult}

/-- Handing over a result depends on what the callbacks heard. -/
theorem deliveryCalls_congr {hearings hearings' : Hearings}
    (hsame : ∀ f ∈ callbacks.functions, heardBy f hearings = heardBy f hearings') :
    deliveryCalls conduct global operation callbacks result hearings =
      deliveryCalls conduct global operation callbacks result hearings' := by
  obtain ⟨listener, last⟩ := callbacks
  unfold deliveryCalls
  split
  · next listener answer hlistener =>
    obtain rfl : _ = some listener := hlistener
    split
    · exact lineCalls_congr _ _ _ (hsame listener (List.mem_cons_self ..))
    · rfl
  · rfl

/-- Handing over a result calls the callbacks. -/
theorem mem_deliveryCalls {hearings : Hearings} {call : FunctionRef × Heard}
    (hcall : call ∈ deliveryCalls conduct global operation callbacks result hearings) :
    call.1 ∈ callbacks.functions := by
  obtain ⟨listener, last⟩ := callbacks
  unfold deliveryCalls at hcall
  split at hcall
  · next listener answer hlistener =>
    obtain rfl : _ = some listener := hlistener
    split at hcall
    · rcases mem_lineCalls hcall with heq | heq <;> simp [Callbacks.functions, heq]
    · contradiction
  · rw [List.mem_singleton.mp hcall]
    simp [Callbacks.functions]

end Hearing

variable {conduct : Conduct} {s : State} {c : Ticket × NativeResult}

/-- A completion calls functions stored for its ticket. -/
theorem mem_completionCalls {hearings : Hearings} {call : FunctionRef × Heard}
    (hcall : call ∈ completionCalls conduct s c hearings) :
    .function call.1 ∈ s.storedFor c.1 := by
  unfold completionCalls at hcall
  split at hcall
  · contradiction
  · split at hcall
    · split at hcall
      · contradiction
      · next callbacks hcallbacks =>
        rw [(Operation.callbacks?_eq_ok_iff.mp hcallbacks).1]
        exact List.mem_map_of_mem (mem_deliveryCalls hcall)
    · contradiction

/-- The calls of a completion depend on whether its engine lives, the global of the engine, what is
stored for its ticket, and what the functions stored there heard. -/
theorem completionCalls_congr {s' : State} {hearings hearings' : Hearings}
    (halive : s'.isAlive c.1.engine = s.isAlive c.1.engine)
    (hglobal : s'.global c.1.engine = s.global c.1.engine)
    (hstored : s'.storedFor c.1 = s.storedFor c.1)
    (hsame : ∀ f, .function f ∈ s.storedFor c.1 → heardBy f hearings' = heardBy f hearings) :
    completionCalls conduct s' c hearings' = completionCalls conduct s c hearings := by
  unfold completionCalls
  rw [halive, hglobal, hstored]
  split
  · rfl
  · split
    · split
      · rfl
      · next callbacks hcallbacks =>
        refine deliveryCalls_congr fun f hf => hsame f ?_
        rw [(Operation.callbacks?_eq_ok_iff.mp hcallbacks).1]
        exact List.mem_map_of_mem hf
    · rfl

/-! ## What a completion leaves -/

/-- The engine without the registration of a handle. -/
def Engine.drop (h : Handle) (engine : Engine) : Engine :=
  { engine with registry := engine.registry.without h }

namespace State

variable (s : State) (t : Ticket)

/-- A registration is taken out by a change of its engine alone. -/
theorem settle_eq : s.settle t = (s.spend t).modifyEngine t.engine (Engine.drop t.handle) := by
  have hengines : s.engines.modify t.engine (fun engine =>
      { engine with registry := (s.registry t.engine).without t.handle }) =
      s.engines.modify t.engine (Engine.drop t.handle) := by
    refine List.ext_getElem? fun e => ?_
    simp only [List.getElem?_modify]
    by_cases heq : t.engine = e
    · subst heq
      cases hengine : s.engines[t.engine]? with
      | none => rfl
      | some engine => simp [registry, engine?, hengine, Engine.drop]
    · simp [heq]
  exact congrArg (fun engines => { s.spend t with engines := engines }) hengines

/-- Tickets are given up in either order. -/
theorem spend_comm (u : Ticket) : (s.spend t).spend u = (s.spend u).spend t := by
  simp only [spend, List.filter_filter, Bool.and_comm]

/-- A ticket is given up before or after a registration is taken out. -/
theorem spend_settle (u : Ticket) : (s.settle t).spend u = (s.spend u).settle t := by
  have hspend := congrArg
    (State.modifyEngine · t.engine fun engine =>
      { engine with registry := (s.registry t.engine).without t.handle })
    (s.spend_comm t u)
  exact hspend

/-- Registrations are taken out in either order. -/
theorem settle_comm (u : Ticket) : (s.settle t).settle u = (s.settle u).settle t := by
  have hdrop (engine : Engine) : Engine.drop t.handle (Engine.drop u.handle engine) =
      Engine.drop u.handle (Engine.drop t.handle engine) := by
    simp only [Engine.drop, Registry.without_comm]
  calc (s.settle t).settle u
      = (((s.spend t).spend u).modifyEngine t.engine (Engine.drop t.handle)).modifyEngine u.engine
          (Engine.drop u.handle) := by rw [settle_eq (s.settle t) u, settle_eq s t]; rfl
    _ = (((s.spend u).spend t).modifyEngine u.engine (Engine.drop u.handle)).modifyEngine t.engine
          (Engine.drop t.handle) := by rw [spend_comm, modifyEngine_comm _ _ _ hdrop]
    _ = (s.settle u).settle t := by rw [settle_eq (s.settle u) t, settle_eq s u]; rfl

/-- Finishing a completion leaves alone the activities. -/
@[simp] theorem frames_finish : (s.finish t).frames = s.frames := by
  unfold finish
  split <;> rfl

/-- Finishing a completion leaves alone which engines live. -/
@[simp] theorem isAlive_finish (e : EngineId) : (s.finish t).isAlive e = s.isAlive e := by
  unfold finish
  split
  · rw [isAlive, isAlive, isHeld_settle]
    rfl
  · rfl

/-- Finishing a completion leaves alone the globals. -/
@[simp] theorem global_finish (e : EngineId) : (s.finish t).global e = s.global e := by
  unfold finish
  split
  · exact s.global_settle t e
  · rfl

/-- Finishing a completion makes no engine. -/
@[simp] theorem length_engines_finish : (s.finish t).engines.length = s.engines.length := by
  unfold finish
  split
  · exact s.length_engines_settle t
  · rfl

/-- Finishing a completion makes no ticket. -/
@[simp] theorem ticketCount_finish : (s.finish t).ticketCount = s.ticketCount := by
  unfold finish
  split <;> rfl

/-- Finishing a completion uses up its own ticket only. -/
theorem tickets_finish : (s.finish t).tickets = s.tickets.filter (·.id != t.id) := by
  unfold finish
  split <;> rfl

/-- What a completion leaves does not depend on the objects. -/
theorem finish_setHeap (heap : Heap) :
    finish { s with heap := heap } t = { s.finish t with heap := heap } := by
  have halive : isAlive { s with heap := heap } t.engine = s.isAlive t.engine := rfl
  rw [finish, finish, halive]
  split <;> rfl

/-- Completions leave the same in either order. -/
theorem finish_comm (u : Ticket) : (s.finish t).finish u = (s.finish u).finish t := by
  have hlast (t u : Ticket) : (s.finish t).finish u =
      if s.isAlive u.engine = true then (s.finish t).settle u else (s.finish t).spend u := by
    rw [← s.isAlive_finish t u.engine]
    rfl
  rw [hlast, hlast, finish, finish]
  by_cases ht : s.isAlive t.engine = true <;> by_cases hu : s.isAlive u.engine = true
  · rw [if_pos hu, if_pos ht, if_pos ht, if_pos hu, settle_comm]
  · rw [if_neg hu, if_pos ht, if_pos ht, if_neg hu, spend_settle]
  · rw [if_pos hu, if_neg ht, if_neg ht, if_pos hu, spend_settle]
  · rw [if_neg hu, if_neg ht, if_neg ht, if_neg hu, spend_comm]

end State

/-! ## Completions that are ready -/

/-- Tickets with results that can be fired one after another: each redeems its ticket, no two are
the same ticket, and no function is stored for two of them. -/
structure Ready (s : State) (cs : List (Ticket × NativeResult)) : Prop where
  formed : Formed s
  registered : Registered s
  redeems : ∀ c ∈ cs, Redeems s (.fire c.1.id c.2) c.1
  distinct : (cs.map Prod.fst).Nodup
  own : cs.Pairwise fun c c' => ∀ f, .function f ∈ s.storedFor c.1 → .function f ∉ s.storedFor c'.1

namespace Ready

variable {cs : List (Ticket × NativeResult)}

/-- Being ready does not depend on the objects. -/
theorem setHeap (hready : Ready s cs) (heap : Heap) : Ready { s with heap := heap } cs where
  formed := ⟨hready.formed.seated, hready.formed.frames, hready.formed.tickets,
    hready.formed.distinct⟩
  registered := hready.registered.of_sameBooks (.of_eq rfl rfl rfl)
  redeems c hc := by
    obtain ⟨hticket, operation, hpurpose, haccepts⟩ := (hready.redeems c hc).of_fire
    exact .fire hticket hpurpose haccepts
  distinct := hready.distinct
  own := hready.own

/-- Being ready does not depend on the order. -/
theorem perm {cs' : List (Ticket × NativeResult)} (hready : Ready s cs) (hperm : cs.Perm cs') :
    Ready s cs' where
  formed := hready.formed
  registered := hready.registered
  redeems c hc := hready.redeems c (hperm.mem_iff.mpr hc)
  distinct := (hperm.map Prod.fst).nodup_iff.mp hready.distinct
  own := by
    refine (hperm.pairwise_iff fun {c c'} hown f hf hf' => ?_).mp hready.own
    exact hown f hf' hf

/-- The first ticket is none of the others. -/
theorem ne_of_mem (hready : Ready s (c :: cs)) {c' : Ticket × NativeResult} (hc' : c' ∈ cs) :
    c'.1 ≠ c.1 := by
  have hdistinct := hready.distinct
  rw [List.map_cons, List.nodup_cons] at hdistinct
  rintro heq
  exact hdistinct.1 (heq ▸ List.mem_map_of_mem hc')

/-- The tickets wait to be redeemed. -/
theorem mem_tickets (hready : Ready s cs) (hc : c ∈ cs) : c.1 ∈ s.tickets :=
  (hready.redeems c hc).mem

/-- The completion of a ticket leaves what is stored for the others. -/
theorem storedFor_finish (hready : Ready s (c :: cs)) {c' : Ticket × NativeResult}
    (hc' : c' ∈ cs) : (s.finish c.1).storedFor c'.1 = s.storedFor c'.1 := by
  have hticket := hready.mem_tickets List.mem_cons_self
  have hticket' := hready.mem_tickets (List.mem_cons_of_mem _ hc')
  unfold State.finish
  split
  · have he := (hready.formed.tickets _ hticket).1
    rw [State.storedFor, s.get?_settle_of_ne he, State.storedFor]
    exact fun hengine hhandle =>
      hready.ne_of_mem hc' (hready.registered.apart _ hticket' _ hticket hengine hhandle)
  · rfl

/-- The completion of a ticket leaves the other tickets. -/
theorem ticket?_finish (hready : Ready s (c :: cs)) {c' : Ticket × NativeResult}
    (hc' : c' ∈ cs) : (s.finish c.1).ticket? c'.1.id = s.ticket? c'.1.id := by
  have hid : c'.1.id ≠ c.1.id := fun heq => hready.ne_of_mem hc'
    (hready.formed.distinct _ (hready.mem_tickets (List.mem_cons_of_mem _ hc')) _
      (hready.mem_tickets List.mem_cons_self) heq)
  rw [State.ticket?, State.tickets_finish, List.find?_filter, State.ticket?]
  refine congrArg (fun p => s.tickets.find? p) (funext fun t => ?_)
  by_cases heq : t.id = c'.1.id
  · simp [heq, hid]
  · simp [heq]

/-- After a completion the others are still ready. -/
theorem finish (hready : Ready s (c :: cs)) : Ready (s.finish c.1) cs where
  formed := by
    have htickets {t : Ticket} (ht : t ∈ (s.finish c.1).tickets) : t ∈ s.tickets := by
      rw [State.tickets_finish] at ht
      exact (List.mem_filter.mp ht).1
    refine ⟨?_, ?_, ?_, ?_⟩
    · rw [State.frames_finish]
      exact hready.formed.seated
    · rw [State.frames_finish, State.length_engines_finish]
      exact hready.formed.frames
    · intro t ht
      rw [State.length_engines_finish, State.ticketCount_finish]
      exact hready.formed.tickets t (htickets ht)
    · exact fun t ht u hu => hready.formed.distinct t (htickets ht) u (htickets hu)
  registered := by
    have hticket := hready.mem_tickets List.mem_cons_self
    unfold State.finish
    split
    · exact hready.registered.settle hticket (hready.formed.tickets _ hticket).1
    · exact hready.registered.spend c.1
  redeems c' hc' := by
    obtain ⟨hticket, operation, hpurpose, haccepts⟩ :=
      (hready.redeems c' (List.mem_cons_of_mem _ hc')).of_fire
    exact .fire ((hready.ticket?_finish hc').trans hticket) hpurpose haccepts
  distinct := by
    have hdistinct := hready.distinct
    rw [List.map_cons, List.nodup_cons] at hdistinct
    exact hdistinct.2
  own := by
    refine (List.pairwise_cons.mp hready.own).2.imp_of_mem fun hc hc' hown f => ?_
    rw [hready.storedFor_finish hc, hready.storedFor_finish hc']
    exact hown f

end Ready

/-! ## Changing the order -/

/-- Two scenes are alike when their states are the same up to objects and every function heard the
same. -/
structure Alike (one two : Scene) : Prop where
  state : two.state = { one.state with heap := two.state.heap }
  heard : ∀ f, heardBy f two.hearings = heardBy f one.hearings

namespace Alike

variable {one two three : Scene}

/-- A scene is like itself. -/
theorem refl (scene : Scene) : Alike scene scene := ⟨rfl, fun _ => rfl⟩

/-- Scenes that are like one scene are alike. -/
theorem trans (hfirst : Alike one two) (hsecond : Alike two three) : Alike one three where
  state := by
    rw [hsecond.state, hfirst.state]
  heard f := (hsecond.heard f).trans (hfirst.heard f)

end Alike

/-- The scene after tickets were completed one after another. -/
def Scene.completeAll (conduct : Conduct) (scene : Scene) (cs : List (Ticket × NativeResult)) :
    Scene :=
  cs.foldl (Scene.complete conduct) scene

section Ready

variable (conduct) {scene one two : Scene} {cs : List (Ticket × NativeResult)}

/-- What a ready completion comes to. -/
theorem Ready.complete_eq (hready : Ready scene.state (c :: cs)) :
    ∃ heap, scene.complete conduct c = ⟨{ scene.state.finish c.1 with heap := heap },
      scene.hearings ++ completionCalls conduct scene.state c scene.hearings⟩ :=
  Bridge.complete_eq conduct scene.hearings hready.registered
    (hready.redeems c List.mem_cons_self)

/-- The other completions are ready in the scene after one. -/
theorem Ready.complete (hready : Ready scene.state (c :: cs)) :
    Ready (scene.complete conduct c).state cs := by
  obtain ⟨heap, heq⟩ := hready.complete_eq conduct
  rw [heq]
  exact hready.finish.setHeap heap

/-- A completion leaves the activities as they were. -/
theorem Ready.frames_complete (hready : Ready scene.state (c :: cs)) :
    (scene.complete conduct c).state.frames = scene.state.frames := by
  obtain ⟨heap, heq⟩ := hready.complete_eq conduct
  rw [heq]
  exact scene.state.frames_finish c.1

/-- No function hears of two completions. -/
theorem Ready.silent {c' : Ticket × NativeResult} (hready : Ready s (c :: c' :: cs))
    (f : FunctionRef) (hearings : Hearings) :
    heardBy f (completionCalls conduct s c hearings) = [] ∨
      heardBy f (completionCalls conduct s c' hearings) = [] := by
  have hother {c : Ticket × NativeResult} (hf : .function f ∉ s.storedFor c.1) :
      heardBy f (completionCalls conduct s c hearings) = [] :=
    heardBy_of_notMem fun call hcall heq => hf (heq ▸ mem_completionCalls hcall)
  by_cases hf : .function f ∈ s.storedFor c.1
  · exact Or.inr (hother ((List.pairwise_cons.mp hready.own).1 c' List.mem_cons_self f hf))
  · exact Or.inl (hother hf)

/-- What another completion tells does not depend on one before it. -/
theorem Ready.calls_after {c' : Ticket × NativeResult} (hready : Ready s (c :: c' :: cs))
    (hearings : Hearings) (heap : Heap) :
    completionCalls conduct { s.finish c.1 with heap := heap } c'
        (hearings ++ completionCalls conduct s c hearings) =
      completionCalls conduct s c' hearings := by
  refine completionCalls_congr (s.isAlive_finish c.1 _) (s.global_finish c.1 _)
    (hready.storedFor_finish List.mem_cons_self) fun f hf => ?_
  have hsilent : heardBy f (completionCalls conduct s c hearings) = [] := by
    refine heardBy_of_notMem fun call hcall heq => ?_
    have hown := (List.pairwise_cons.mp hready.own).1 c' List.mem_cons_self f
    exact hown (heq ▸ mem_completionCalls hcall) hf
  rw [heardBy_append, hsilent, List.append_nil]

/-- Two completions can change places. -/
theorem Ready.swap {c' : Ticket × NativeResult} (hready : Ready scene.state (c :: c' :: cs)) :
    Alike ((scene.complete conduct c).complete conduct c')
      ((scene.complete conduct c').complete conduct c) := by
  have hswapped : Ready scene.state (c' :: c :: cs) := hready.perm (List.Perm.swap c' c cs)
  obtain ⟨heap, heq⟩ := hready.complete_eq conduct
  obtain ⟨heap', heq'⟩ := hswapped.complete_eq conduct
  obtain ⟨heap₂, heq₂⟩ := (hready.complete conduct).complete_eq conduct
  obtain ⟨heap₂', heq₂'⟩ := (hswapped.complete conduct).complete_eq conduct
  rw [heq₂, heq₂', heq, heq', hready.calls_after, hswapped.calls_after]
  constructor
  · simp only [State.finish_setHeap, State.finish_comm _ c'.1 c.1]
  · intro f
    simp only [heardBy_append, List.append_assoc]
    rcases hready.silent conduct f scene.hearings with hsilent | hsilent <;> simp [hsilent]

/-- Alike scenes stay alike in a completion. -/
theorem Alike.complete (halike : Alike one two) (hready : Ready one.state (c :: cs)) :
    Alike (one.complete conduct c) (two.complete conduct c) := by
  obtain ⟨s, hearings⟩ := one
  obtain ⟨s', hearings'⟩ := two
  obtain ⟨heap, rfl⟩ : ∃ heap, s' = { s with heap := heap } := ⟨_, halike.state⟩
  obtain ⟨heap₁, heq₁⟩ := hready.complete_eq conduct
  have hready' : Ready (Scene.mk { s with heap := heap } hearings').state (c :: cs) :=
    hready.setHeap heap
  obtain ⟨heap₂, heq₂⟩ := hready'.complete_eq conduct
  have hcalls : completionCalls conduct { s with heap := heap } c hearings' =
      completionCalls conduct s c hearings :=
    completionCalls_congr rfl rfl rfl fun f _ => halike.heard f
  rw [heq₁, heq₂, hcalls]
  constructor
  · simp only [State.finish_setHeap]
  · intro f
    rw [heardBy_append, heardBy_append, halike.heard f]

/-- Alike scenes stay alike in completions. -/
theorem Alike.completeAll (halike : Alike one two) (hready : Ready one.state cs) :
    Alike (one.completeAll conduct cs) (two.completeAll conduct cs) := by
  induction cs generalizing one two with
  | nil => exact halike
  | cons c cs ih => exact ih (halike.complete conduct hready) (hready.complete conduct)

/-- Completions leave the activities as they were. -/
theorem Ready.frames_completeAll (hready : Ready scene.state cs) :
    (scene.completeAll conduct cs).state.frames = scene.state.frames := by
  induction cs generalizing scene with
  | nil => rfl
  | cons c cs ih => exact (ih (hready.complete conduct)).trans (hready.frames_complete conduct)

/-- Completions in any other order lead to a scene that is alike. -/
theorem Ready.completeAll_perm {cs' : List (Ticket × NativeResult)}
    (hready : Ready scene.state cs) (hperm : cs.Perm cs') :
    Alike (scene.completeAll conduct cs) (scene.completeAll conduct cs') := by
  induction hperm generalizing scene with
  | nil => exact Alike.refl scene
  | cons c _ ih => exact ih (hready.complete conduct)
  | swap c c' cs =>
    exact (hready.swap conduct).completeAll conduct ((hready.complete conduct).complete conduct)
  | trans hfirst _ ihfirst ihsecond =>
    exact (ihfirst hready).trans (ihsecond (hready.perm hfirst))

end Ready

/-- The order of completions does not matter. In a state that a run with fewer registrations than
handles leads to, take any outstanding completions of operations with results for them, the
functions stored for each of them its own, and let the host's functions end their calls by what they
heard themselves and make no moves. Fired in any two orders, the completions come to an end, every
function hears the same calls in the same order, and every engine ends with the same registrations,
the same number of pending operations and the same next handle; the states differ in nothing but the
objects made for the callbacks. -/
theorem completion_order_irrelevant (conduct : Conduct) (hearings : Hearings) (before : List Move)
    {first second : List (Ticket × NativeResult)}
    (hfew : (after {} before).ticketCount < UInt64.size)
    (hredeems : ∀ c ∈ first, Redeems (after {} before) (.fire c.1.id c.2) c.1)
    (hdistinct : (first.map Prod.fst).Nodup)
    (hown : first.Pairwise fun c c' => ∀ f,
      .function f ∈ (after {} before).storedFor c.1 →
      .function f ∉ (after {} before).storedFor c'.1)
    (hperm : first.Perm second) :
    let scene : Scene := ⟨after {} before, hearings⟩
    let one := scene.completeAll conduct first
    let two := scene.completeAll conduct second
    (∀ f, heardBy f two.hearings = heardBy f one.hearings) ∧
    (∀ e, two.state.registry e = one.state.registry e ∧
      two.state.pending e = one.state.pending e ∧
      (two.state.registry e).nextHandle = (one.state.registry e).nextHandle) ∧
    two.state = { one.state with heap := two.state.heap } ∧
    one.state.frames = scene.state.frames ∧ two.state.frames = scene.state.frames := by
  intro scene one two
  have hready : Ready scene.state first :=
    ⟨formed_empty.after before, registered_after before hfew, hredeems, hdistinct, hown⟩
  have halike : Alike one two := hready.completeAll_perm conduct hperm
  have hregistry (e : EngineId) : two.state.registry e = one.state.registry e := by
    rw [halike.state]
    rfl
  refine ⟨halike.heard, fun e => ⟨hregistry e, ?_, ?_⟩, halike.state,
    hready.frames_completeAll conduct, (hready.perm hperm).frames_completeAll conduct⟩
  · rw [State.pending, State.pending, hregistry]
  · rw [hregistry]

/-- Reading by lines and reading at once are outstanding, and every function throws in its second
call: whichever completes first, the listener hears two lines and the last callback the
exception. -/
theorem completion_order_irrelevant_two_reads :
    let listener : FunctionRef := ⟨2, "listener", .host⟩
    let done : FunctionRef := ⟨3, "done", .host⟩
    let callback : FunctionRef := ⟨4, "callback", .host⟩
    let before : List Move :=
      [.createEngine,
        .call 0 ⟨0, "readFromFile", .entry "fs" .readFromFile⟩ .undefined
          [.string "notes.txt", .function listener, .function done],
        .acknowledge,
        .call 0 ⟨1, "read", .entry "fs" .read⟩ .undefined
          [.string "notes.txt", .function callback],
        .acknowledge]
    let lines : Ticket × NativeResult :=
      (⟨0, 0, ⟨1⟩, .operation .readFromFile⟩, .ok (.content [97, 10, 98, 10, 99]))
    let whole : Ticket × NativeResult :=
      (⟨1, 0, ⟨2⟩, .operation .read⟩, .ok (.content [97, 10, 98, 10, 99]))
    let conduct : Conduct := fun _ heard =>
      if heard.length = 2 then .thrown ⟨.error, "enough", none⟩ else .value .undefined
    let scene : Scene := ⟨after {} before, []⟩
    let one := scene.completeAll conduct [lines, whole]
    let two := scene.completeAll conduct [whole, lines]
    (after {} before).ticketCount < UInt64.size ∧
    (∀ c ∈ [lines, whole], Redeems (after {} before) (.fire c.1.id c.2) c.1) ∧
    ([lines, whole].map Prod.fst).Nodup ∧
    ([lines, whole].Pairwise fun c c' => ∀ f,
      .function f ∈ (after {} before).storedFor c.1 →
      .function f ∉ (after {} before).storedFor c'.1) ∧
    [lines, whole].Perm [whole, lines] ∧
    heardBy listener one.hearings =
      [⟨.object ⟨0⟩, [.value (.string "a")]⟩, ⟨.object ⟨0⟩, [.value (.string "b")]⟩] ∧
    heardBy listener two.hearings = heardBy listener one.hearings ∧
    heardBy done one.hearings = [⟨.undefined, [.value (.string "Error: enough")]⟩] ∧
    heardBy done two.hearings = heardBy done one.hearings ∧
    (one.state.registry 0).nextHandle = ⟨3⟩ ∧
    (two.state.registry 0).nextHandle = (one.state.registry 0).nextHandle := by
  intro listener done callback before lines whole conduct scene one two
  have hfew : (after {} before).ticketCount < UInt64.size := by decide
  have hredeems : ∀ c ∈ [lines, whole], Redeems (after {} before) (.fire c.1.id c.2) c.1 := by
    intro c hc
    rcases List.mem_cons.mp hc with rfl | hc
    · exact .fire (by decide) rfl (by decide)
    · obtain rfl := List.mem_singleton.mp hc
      exact .fire (by decide) rfl (by decide)
  have hdistinct : ([lines, whole].map Prod.fst).Nodup := by decide
  have hown : [lines, whole].Pairwise fun c c' => ∀ f,
      .function f ∈ (after {} before).storedFor c.1 →
      .function f ∉ (after {} before).storedFor c'.1 := by
    have hlines : (after {} before).storedFor lines.1 = [.function listener, .function done] := by
      decide
    have hwhole : (after {} before).storedFor whole.1 = [.function callback] := by decide
    refine List.pairwise_pair.mpr fun f hf => ?_
    rw [hlines] at hf
    rw [hwhole]
    simp only [List.mem_cons, Value.function.injEq, List.not_mem_nil, or_false] at hf ⊢
    rcases hf with rfl | rfl <;> decide
  have hperm : [lines, whole].Perm [whole, lines] := List.Perm.swap ..
  obtain ⟨hheard, hengines, -⟩ :=
    completion_order_irrelevant conduct [] before hfew hredeems hdistinct hown hperm
  exact ⟨hfew, hredeems, hdistinct, hown, hperm, by decide +kernel, hheard listener,
    by decide +kernel, hheard done, by decide +kernel, (hengines 0).2.2⟩

end ScriptFiles.Bridge
