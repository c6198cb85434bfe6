import Mathlib.Data.List.Forall2
import Mathlib.Data.List.Nodup
import ScriptFiles.Entries
import ScriptFiles.Log.Forwarding

/-!
# Forwarding is faithful

`Entry.Describes` says what an entry has to tell of an event, without the order in which fields were
recorded; it leaves nothing open but the order in which the entry lists them. One step of forwarding
hands over the entry of one event or nothing, and does not look at what was handed over before, so a
sink receives the entries of the wanted events one by one. Nothing is assumed of the filter: it may
decide in any way about events and spans.
-/

namespace ScriptFiles.Log

/-- Severity is transitive. -/
theorem Level.le_trans {a b c : Level} (hab : a ≤ b) (hbc : b ≤ c) : a ≤ c :=
  Nat.le_trans hab hbc

/-! ## Spans -/

namespace Filter

variable (filter : Filter)

/-- The innermost of the spans in a stack that pass: it passes inside those outside it, and none of
those inside it does. -/
inductive Innermost : List Span → Option Span → Prop
  | none : Innermost [] none
  | passes {span : Span} {outer : List Span}
      (hpasses : filter.passesSpan span (filter.seen outer) = true) :
      Innermost (span :: outer) (some span)
  | stopped {span : Span} {outer : List Span} {innermost : Option Span}
      (hstopped : filter.passesSpan span (filter.seen outer) = false)
      (houter : Innermost outer innermost) : Innermost (span :: outer) innermost

/-- The first of the spans that are seen is the innermost one that passes. -/
theorem innermost_iff (spans : List Span) (innermost : Option Span) :
    filter.Innermost spans innermost ↔ (filter.seen spans).head? = innermost := by
  induction spans with
  | nil =>
    constructor
    · rintro ⟨⟩
      rfl
    · rintro rfl
      exact .none
  | cons span outer ih =>
    rw [seen]
    by_cases h : filter.passesSpan span (filter.seen outer) = true
    · rw [if_pos h, List.head?_cons]
      constructor
      · rintro (_ | _ | ⟨hstopped, -⟩)
        · rfl
        · simp [h] at hstopped
      · rintro rfl
        exact .passes h
    · rw [if_neg h]
      constructor
      · rintro (_ | hpasses | ⟨-, houter⟩)
        · exact absurd hpasses h
        · exact ih.mp houter
      · exact fun hhead => .stopped (Bool.eq_false_iff.mpr h) (ih.mpr hhead)

end Filter

/-! ## One entry -/

/-- What an entry has to tell of an event under a filter: its level and target, its message or else
its name, the text of every other field, and the innermost span that passes. -/
structure Entry.Describes (filter : Filter) (entry : Entry) (o : Occurrence) : Prop where
  level : entry.level = o.event.level
  target : entry.target = o.event.target
  message : ∀ value, (messageField, value) ∈ o.event.fields → entry.message = value.shown
  unnamed : messageField ∉ o.event.fields.map Prod.fst → entry.message = o.event.name
  distinct : (entry.fields.map Prod.fst).Nodup
  fields : ∀ name text, (name, text) ∈ entry.fields ↔
    name ≠ messageField ∧ ∃ value, (name, value) ∈ o.event.fields ∧ value.shown = text
  span : ∃ innermost, filter.Innermost o.spans innermost ∧ entry.span = innermost.map Span.name

/-- Entries that differ at most in the order of their fields. -/
structure Entry.Same (entry entry' : Entry) : Prop where
  level : entry.level = entry'.level
  target : entry.target = entry'.target
  message : entry.message = entry'.message
  fields : entry.fields.Perm entry'.fields
  span : entry.span = entry'.span

/-- Occurrences of an event whose fields may have been recorded in different orders. -/
structure Occurrence.Reordered (o o' : Occurrence) : Prop where
  level : o.event.level = o'.event.level
  target : o.event.target = o'.event.target
  name : o.event.name = o'.event.name
  fields : o.event.fields.Perm o'.event.fields
  spans : o.spans = o'.spans

/-- An event has one description, up to the order of its fields. -/
theorem Entry.Describes.same {filter : Filter} {entry entry' : Entry} {o : Occurrence}
    (h : entry.Describes filter o) (h' : entry'.Describes filter o) : entry.Same entry' where
  level := h.level.trans h'.level.symm
  target := h.target.trans h'.target.symm
  message := by
    by_cases hmessage : messageField ∈ o.event.fields.map Prod.fst
    · obtain ⟨⟨name, value⟩, hfield, rfl⟩ := List.mem_map.mp hmessage
      rw [h.message value hfield, h'.message value hfield]
    · rw [h.unnamed hmessage, h'.unnamed hmessage]
  fields := by
    refine (List.perm_ext_iff_of_nodup h.distinct.of_map h'.distinct.of_map).mpr ?_
    rintro ⟨name, text⟩
    rw [h.fields, h'.fields]
  span := by
    obtain ⟨innermost, hinnermost, hspan⟩ := h.span
    obtain ⟨innermost', hinnermost', hspan'⟩ := h'.span
    rw [Filter.innermost_iff] at hinnermost hinnermost'
    rw [hspan, hspan', ← hinnermost, ← hinnermost']

/-- A description does not depend on the order in which fields were recorded. -/
theorem Entry.Describes.reordered {filter : Filter} {entry : Entry} {o o' : Occurrence}
    (h : entry.Describes filter o) (horder : o.Reordered o') : entry.Describes filter o' where
  level := h.level.trans horder.level
  target := h.target.trans horder.target
  message := fun value hvalue => h.message value (horder.fields.mem_iff.mpr hvalue)
  unnamed := fun hmessage =>
    (h.unnamed ((horder.fields.map Prod.fst).mem_iff.not.mpr hmessage)).trans horder.name
  distinct := h.distinct
  fields := fun name text => by simp only [h.fields, horder.fields.mem_iff]
  span := horder.spans ▸ h.span

namespace Entry

variable {fields : List (String × FieldValue)}

/-- Without a message field the message stays open. -/
theorem message_record (recorded : Option String × Fields)
    (hmessage : messageField ∉ fields.map Prod.fst) :
    (fields.foldl record recorded).1 = recorded.1 := by
  induction fields generalizing recorded with
  | nil => rfl
  | cons field rest ih =>
    rw [List.map_cons, List.mem_cons, not_or] at hmessage
    rw [List.foldl_cons, ih _ hmessage.2, record, if_neg (Ne.symm hmessage.1)]

/-- The message is the text of the message field, wherever that stands. -/
theorem message_record_of_mem (recorded : Option String × Fields)
    (hdistinct : (fields.map Prod.fst).Nodup) {value : FieldValue}
    (hvalue : (messageField, value) ∈ fields) :
    (fields.foldl record recorded).1 = some value.shown := by
  obtain ⟨left, right, rfl⟩ := List.append_of_mem hvalue
  have hapart := Entries.key_notMem_of_distinct hdistinct
  rw [List.map_append, List.mem_append, not_or] at hapart
  rw [List.foldl_append, List.foldl_cons, message_record _ hapart.2, record, if_pos rfl]

/-- Fields with distinct names are all kept, but for the message. -/
theorem fields_record (recorded : Option String × Fields)
    (hdistinct : (recorded.2.map Prod.fst ++ fields.map Prod.fst).Nodup) :
    (fields.foldl record recorded).2 = recorded.2 ++
      (fields.filter (·.1 != messageField)).map fun field => (field.1, field.2.shown) := by
  induction fields generalizing recorded with
  | nil => rw [List.filter_nil, List.map_nil, List.append_nil, List.foldl_nil]
  | cons field rest ih =>
    rw [List.foldl_cons, record]
    by_cases hmessage : field.1 = messageField
    · have hrest : (recorded.2.map Prod.fst ++ rest.map Prod.fst).Nodup :=
        hdistinct.sublist ((List.sublist_cons_self _ _).append_left _)
      rw [if_pos hmessage, ih (some field.2.shown, recorded.2) hrest,
        List.filter_cons_of_neg (by simp [hmessage])]
    · have hfresh : field.1 ∉ recorded.2.map Prod.fst := fun hmem =>
        (List.nodup_append.mp hdistinct).2.2 _ hmem _ List.mem_cons_self rfl
      have hinsert : recorded.2.insert field.1 field.2.shown =
          recorded.2 ++ [(field.1, field.2.shown)] := by
        rw [Fields.insert, Entries.filter_ne_of_notMem hfresh]
      rw [if_neg hmessage, ih _ (by simpa [hinsert] using hdistinct), hinsert,
        List.filter_cons_of_pos (by simpa using hmessage), List.map_cons, List.append_assoc,
        List.singleton_append]

/-- The entry made for an event describes it. -/
theorem describes_ofEvent (filter : Filter) {o : Occurrence}
    (hdistinct : (o.event.fields.map Prod.fst).Nodup) :
    (ofEvent o.event (filter.seen o.spans)).Describes filter o := by
  have hfields : (ofEvent o.event (filter.seen o.spans)).fields =
      (o.event.fields.filter (·.1 != messageField)).map fun field => (field.1, field.2.shown) :=
    fields_record (none, []) hdistinct
  refine ⟨rfl, rfl, fun value hvalue => ?_, fun hmessage => ?_, ?_, fun name text => ?_,
    _, (filter.innermost_iff _ _).mpr rfl, rfl⟩
  · rw [ofEvent, message_record_of_mem _ hdistinct hvalue]
    rfl
  · rw [ofEvent, message_record _ hmessage]
    rfl
  · rw [hfields, List.map_map]
    exact hdistinct.sublist ((List.filter_sublist).map Prod.fst)
  · rw [hfields, List.mem_map]
    constructor
    · rintro ⟨⟨name', value⟩, hfield, hshown⟩
      obtain ⟨rfl, rfl⟩ := Prod.mk.inj hshown
      obtain ⟨hmem, hname⟩ := List.mem_filter.mp hfield
      exact ⟨by simpa using hname, value, hmem, rfl⟩
    · rintro ⟨hname, value, hmem, rfl⟩
      exact ⟨(name, value), List.mem_filter.mpr ⟨hmem, by simpa using hname⟩, rfl⟩

end Entry

/-! ## All entries -/

/-- Whether a sink is handed an entry for an event. -/
def wanted (filter : Filter) (sink : Sink) (o : Occurrence) : Bool :=
  filter.passes o && decide (sink.minLevel ≤ o.event.level)

/-- One event adds its entry, or nothing; what was handed over before and how the sink answered does
not matter. -/
theorem map_entry_handOver (filter : Filter) (sink : Sink) (handed : List Handover)
    (o : Occurrence) :
    (handOver filter sink handed o).map Handover.entry = handed.map Handover.entry ++
      if wanted filter sink o then [Entry.ofEvent o.event (filter.seen o.spans)] else [] := by
  rw [handOver, wanted]
  by_cases h : filter.passes o = true ∧ sink.minLevel ≤ o.event.level
  · rw [if_pos h]
    simp [h]
  · rw [if_neg h]
    simp_all

/-- A sink receives the entries of the wanted events, in order. -/
theorem forward_eq (filter : Filter) (sink : Sink) (occurrences : List Occurrence) :
    forward filter sink occurrences =
      (occurrences.filter (wanted filter sink)).map fun o =>
        Entry.ofEvent o.event (filter.seen o.spans) := by
  have hrun : ∀ handed : List Handover,
      (occurrences.foldl (handOver filter sink) handed).map Handover.entry =
        handed.map Handover.entry ++
          (occurrences.filter (wanted filter sink)).map fun o =>
            Entry.ofEvent o.event (filter.seen o.spans) := by
    induction occurrences with
    | nil => simp
    | cons o rest ih =>
      intro handed
      rw [List.foldl_cons, ih, map_entry_handOver, List.append_assoc, List.filter_cons]
      split <;> rfl
  exact hrun []

/-- The order of fields decides nothing about which events are wanted. -/
theorem Occurrence.Reordered.wanted_eq {o o' : Occurrence} (h : o.Reordered o') (filter : Filter)
    (sink : Sink) : wanted filter sink o = wanted filter sink o' := by
  rw [wanted, wanted, Filter.passes, Filter.passes, Event.metadata, Event.metadata, h.target,
    h.level, h.name, h.spans]

/-- Recording fields in another order changes the order of fields in entries, and nothing else. -/
theorem forward_reordered (filter : Filter) (sink : Sink) {occurrences reordered : List Occurrence}
    (hdistinct : ∀ o ∈ occurrences, (o.event.fields.map Prod.fst).Nodup)
    (horder : List.Forall₂ Occurrence.Reordered occurrences reordered) :
    List.Forall₂ Entry.Same (forward filter sink occurrences) (forward filter sink reordered) := by
  have hwanted : List.Forall₂ Occurrence.Reordered (occurrences.filter (wanted filter sink))
      (reordered.filter (wanted filter sink)) :=
    List.rel_filter (fun _ _ h => Bool.eq_iff_iff.mp (h.wanted_eq filter sink)) horder
  have hboth : List.Forall₂
      (fun o o' => (o.event.fields.map Prod.fst).Nodup ∧ o.Reordered o')
      (occurrences.filter (wanted filter sink)) (reordered.filter (wanted filter sink)) :=
    (List.forall₂_and_left _ _).mpr
      ⟨fun o ho => hdistinct o (List.mem_of_mem_filter ho), hwanted⟩
  rw [forward_eq, forward_eq, List.forall₂_map_left_iff, List.forall₂_map_right_iff]
  refine hboth.imp fun o o' h => ?_
  obtain ⟨hnames, hreordered⟩ := h
  have hnames' := (hreordered.fields.map Prod.fst).nodup_iff.mp hnames
  exact ((Entry.describes_ofEvent filter hnames).reordered hreordered).same
    (Entry.describes_ofEvent filter hnames')

/-- Forwarding is faithful, whatever the filter. For events whose fields have distinct names, a sink
receives one entry for each event that passes the filter and is at or above its least level, in the
order of the events, and each entry describes its event; the order in which fields were recorded
changes nothing but the order in which entries list them. How a sink answers changes nothing, and
raising its least level leaves exactly the entries at or above the new one. -/
theorem forwards_faithfully (filter : Filter) (sink : Sink) {occurrences : List Occurrence}
    (hdistinct : ∀ o ∈ occurrences, (o.event.fields.map Prod.fst).Nodup) :
    List.Forall₂ (Entry.Describes filter) (forward filter sink occurrences)
      (occurrences.filter fun o =>
        filter.passes o && decide (sink.minLevel ≤ o.event.level)) ∧
    (∀ reordered, List.Forall₂ Occurrence.Reordered occurrences reordered →
      List.Forall₂ Entry.Same (forward filter sink occurrences) (forward filter sink reordered)) ∧
    (∀ log, forward filter { sink with log } occurrences = forward filter sink occurrences) ∧
    ∀ higher, sink.minLevel ≤ higher →
      forward filter { sink with minLevel := higher } occurrences =
        (forward filter sink occurrences).filter fun entry => decide (higher ≤ entry.level) := by
  refine ⟨?_, fun reordered => forward_reordered filter sink hdistinct, fun log => ?_,
    fun higher hhigher => ?_⟩
  · rw [forward_eq, List.forall₂_map_left_iff]
    exact List.forall₂_same.mpr fun o ho =>
      Entry.describes_ofEvent filter (hdistinct o (List.mem_of_mem_filter ho))
  · rw [forward_eq, forward_eq]
    rfl
  · rw [forward_eq, forward_eq, List.filter_map, List.filter_filter]
    refine congrArg _ (List.filter_congr fun o _ => ?_)
    -- an event at or above the new level is at or above the old one
    have hlower : higher ≤ o.event.level → sink.minLevel ≤ o.event.level := Level.le_trans hhigher
    change (filter.passes o && decide (higher ≤ o.event.level)) =
      (decide (higher ≤ o.event.level) &&
        (filter.passes o && decide (sink.minLevel ≤ o.event.level)))
    by_cases h : higher ≤ o.event.level <;> simp [h, hlower]

/-- A sink that fails on every entry, behind a filter that lets nothing of one target pass and other
events and spans from some level on: an event with a message in the middle, in a span that passes
around two that do not, an event without message, one that is not severe enough for the sink and one
that the filter stops. -/
theorem forwards_faithfully_failing_sink :
    let passes (level : Level) (target : String) : Bool :=
      target != "core_script::quiet" && decide (Level.debug ≤ level)
    let filter : Filter := ⟨fun span _ => passes span.level span.target,
      fun metadata _ => passes metadata.level metadata.target⟩
    let sink : Sink := { minLevel := .info, log := fun _ _ => .error (.failed "disk full") }
    let spans : List Span := [⟨.trace, "core_script::engine", "line", []⟩,
      ⟨.error, "core_script::quiet", "check", []⟩, ⟨.info, "core_script::engine", "read", []⟩,
      ⟨.info, "core_script::engine", "session", []⟩]
    let warning : Occurrence := ⟨⟨.warn, "core_script::engine", "event",
      [("handle", .text "op#1"), ("message", .other "gone"),
        ("error", .failure (.io "a.txt" (.other "no space")))]⟩, spans⟩
    let unnamed : Occurrence := ⟨⟨.info, "core_runtime", "ready", [("workers", .other "2")]⟩, []⟩
    let detail : Occurrence := ⟨⟨.debug, "core_script::engine", "event", []⟩, spans⟩
    let quiet : Occurrence := ⟨⟨.error, "core_script::quiet", "event", []⟩, []⟩
    let occurrences := [warning, detail, quiet, unnamed]
    (∀ o ∈ occurrences, (o.event.fields.map Prod.fst).Nodup) ∧
    List.Forall₂ (Entry.Describes filter) (forward filter sink occurrences) [warning, unnamed] ∧
    forward filter sink occurrences =
      [⟨.warn, "core_script::engine", "gone", [("handle", "op#1"), ("error", "a.txt: no space")],
          some "read"⟩,
        ⟨.info, "core_runtime", "ready", [("workers", "2")], none⟩] ∧
    Level.info ≤ Level.warn ∧
    forward filter { sink with minLevel := .warn } occurrences =
      [⟨.warn, "core_script::engine", "gone", [("handle", "op#1"), ("error", "a.txt: no space")],
        some "read"⟩] := by
  intro passes filter sink spans warning unnamed detail quiet occurrences
  have hdistinct : ∀ o ∈ occurrences, (o.event.fields.map Prod.fst).Nodup := by decide
  have hentries : forward filter sink occurrences =
      [⟨.warn, "core_script::engine", "gone", [("handle", "op#1"), ("error", "a.txt: no space")],
          some "read"⟩,
        ⟨.info, "core_runtime", "ready", [("workers", "2")], none⟩] := by decide
  have hlevels : Level.info ≤ Level.warn := by decide
  have hwanted : (occurrences.filter fun o => filter.passes o &&
      decide (sink.minLevel ≤ o.event.level)) = [warning, unnamed] := by decide
  obtain ⟨hdescribes, -, -, hraised⟩ := forwards_faithfully filter sink hdistinct
  rw [hwanted] at hdescribes
  refine ⟨hdistinct, hdescribes, hentries, hlevels, ?_⟩
  rw [hraised .warn hlevels, hentries]
  rfl

end ScriptFiles.Log
