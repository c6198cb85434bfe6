import ScriptFiles.Log.Event

/-!
# Log entries

What a sink receives for an event: level, target, message, the other fields as texts and the name
of the innermost span. Entries are also built by hand, a later value of a field replacing an
earlier one.
-/

namespace ScriptFiles.Log

/-- The fields of an entry, each name once. -/
abbrev Fields := List (String × String)

/-- Gives a field a value, the old one making room. -/
def Fields.insert (fields : Fields) (name value : String) : Fields :=
  fields.filter (·.1 != name) ++ [(name, value)]

/-- An entry without its time. -/
structure Entry where
  level : Level
  target : String
  message : String
  fields : Fields := []
  span : Option String := none
deriving DecidableEq, Repr

namespace Entry

/-- Adds a field to an entry. -/
def withField (entry : Entry) (name value : String) : Entry :=
  { entry with fields := entry.fields.insert name value }

/-- Sets the span of an entry. -/
def withSpan (entry : Entry) (span : String) : Entry :=
  { entry with span := some span }

/-- Records one field of an event: the message or another field. -/
def record (entry : Option String × Fields) (field : String × FieldValue) : Option String × Fields :=
  if field.1 = messageField then (some field.2.shown, entry.2)
  else (entry.1, entry.2.insert field.1 field.2.shown)

/-- The entry for an event inside spans, the innermost first. Without a message the event's name
stands for it. -/
def ofEvent (event : Event) (spans : List Span) : Entry :=
  let recorded := event.fields.foldl record (none, [])
  { level := event.level
    target := event.target
    message := recorded.1.getD event.name
    fields := recorded.2
    span := spans.head?.map Span.name }

end Entry
end ScriptFiles.Log
