import ScriptFiles.Log.Entry
import ScriptFiles.Log.Timestamp
import ScriptFiles.Native.Service
import ScriptFiles.Serial.Json

/-!
# Records read from JSON

The three serialized records: the status of a path, a log level and a timed log entry. A record
is an object with its fields in any order, or an array of all of them in the order of
declaration.
-/

namespace ScriptFiles

/-- The status of a path from its serialized form. -/
def FileStatus.ofJson? (json : Json) : Option FileStatus := do
  let values ←
    match json with
    | .object members =>
      Json.fields? ["exists", "is_directory", "is_file", "last_modified"] members
    | .array items => some (items.map some)
    | _ => none
  match values with
  | [some present, some isDirectory, some isFile, some lastModified] =>
    return ⟨← present.bool?, ← isDirectory.bool?, ← isFile.bool?, ← lastModified.int64?⟩
  | _ => none

namespace Log

/-- A level from its serialized form: its name, alone or as the only key of an object. -/
def Level.ofJson? : Json → Option Level
  | .string (some name) => Level.ofSerialName? name
  | .object [(some name, .null)] => Level.ofSerialName? name
  | _ => none

/-- A log entry with its time. -/
structure TimedEntry where
  timestamp : Timestamp
  entry : Entry
deriving Repr

/-- The fields of an entry from their serialized form; of two values for a name the later one
counts. -/
def Fields.ofJson? : Json → Option Fields
  | .object members =>
    members.foldlM (fun fields member => do
      return Fields.insert fields (← member.1) (← member.2.string?)) []
  | _ => none

/-- The span of an entry from its serialized form. -/
def spanOfJson? : Json → Option (Option String)
  | .null => some none
  | .string (some name) => some (some name)
  | _ => none

/-- A timed entry from its serialized form; in an object the span may be left out. -/
def TimedEntry.ofJson? (json : Json) : Option TimedEntry := do
  let values ←
    match json with
    | .object members => do
      let values ← Json.fields? ["level", "timestamp", "target", "message", "fields"] members
      let span ← Json.fields? ["span"] members
      some (values ++ span.map fun s => some (s.getD .null))
    | .array items => some (items.map some)
    | _ => none
  match values with
  | [some level, some timestamp, some target, some message, some fields, some span] =>
    return {
      timestamp := ← Timestamp.parse (← timestamp.string?)
      entry := {
        level := ← Level.ofJson? level
        target := ← target.string?
        message := ← message.string?
        fields := ← Fields.ofJson? fields
        span := ← spanOfJson? span } }
  | _ => none

end Log
end ScriptFiles
