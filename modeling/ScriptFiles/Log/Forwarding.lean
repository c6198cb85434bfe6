import ScriptFiles.Log.Entry

/-!
# Forwarding events to a sink

A filter decides which events and which spans are looked at. It is a parameter here: any decision
by what is known of an event or a span and by the spans around it. A sink is handed the events that
pass and that are at or above its own least level, one entry each and in order. A sink may fail on
an entry: the failure is noted beside the entry and nothing else changes.
-/

namespace ScriptFiles.Log

/-- A filter. It is asked about a span when the span starts and about an event when it happens, and
knows the spans around that it let pass, the innermost first. -/
structure Filter where
  passesSpan : Span → List Span → Bool
  passesEvent : Metadata → List Span → Bool

/-- An event with the spans it happened in, the innermost first. -/
structure Occurrence where
  event : Event
  spans : List Span := []
deriving DecidableEq, Repr

namespace Filter

/-- The spans of a stack that pass. -/
def seen (filter : Filter) : List Span → List Span
  | [] => []
  | span :: outer =>
    if filter.passesSpan span (filter.seen outer) then span :: filter.seen outer
    else filter.seen outer

/-- Whether an event passes. -/
def passes (filter : Filter) (o : Occurrence) : Bool :=
  filter.passesEvent o.event.metadata (filter.seen o.spans)

/-- The parts of the library and of what it runs on that are looked at when no filter is given, each
with its least level. No target starts with two of them. -/
def standardRules (least : Level) : List (String × Level) :=
  [("script_fs_bridge", least), ("core_runtime", least), ("core_script", least),
    ("bridge_desktop", least), ("tokio", .warn)]

/-- The filter used when none is given: events and spans pass from the least level of their part
on. -/
def standard (least : Level) : Filter :=
  let passes (level : Level) (target : String) : Bool :=
    (standardRules least).any fun rule =>
      rule.1.toList.isPrefixOf target.toList && decide (rule.2 ≤ level)
  { passesSpan := fun span _ => passes span.level span.target
    passesEvent := fun metadata _ => passes metadata.level metadata.target }

end Filter

/-- A receiver of entries: the least level it wants, and how it answers an entry after those it
was handed before. -/
structure Sink where
  minLevel : Level := .info
  log : List Entry → Entry → Except NativeError Unit := fun _ _ => .ok ()
  flush : Except NativeError Unit := .ok ()

/-- The sink that prints entries to the console. -/
def Sink.console (minLevel : Level) : Sink :=
  { minLevel }

/-- An entry that was handed to a sink and the sink's answer. -/
structure Handover where
  entry : Entry
  answer : Except NativeError Unit

/-- Hands one event over, if filter and sink want it. -/
def handOver (filter : Filter) (sink : Sink) (handed : List Handover) (o : Occurrence) :
    List Handover :=
  if filter.passes o ∧ sink.minLevel ≤ o.event.level then
    let entry := Entry.ofEvent o.event (filter.seen o.spans)
    handed ++ [⟨entry, sink.log (handed.map Handover.entry) entry⟩]
  else handed

/-- The entries a sink receives for a list of events, in order. -/
def forward (filter : Filter) (sink : Sink) (occurrences : List Occurrence) : List Entry :=
  (occurrences.foldl (handOver filter sink) []).map Handover.entry

end ScriptFiles.Log
