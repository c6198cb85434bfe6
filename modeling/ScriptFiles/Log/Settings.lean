import ScriptFiles.Error
import ScriptFiles.Log.FilterText
import ScriptFiles.Log.Forwarding

/-!
# Logging settings

How logging is set up: output format, least level, an optional filter of one's own, an optional
sink and what each line shows. Setting up fails when the filter cannot be read, or when logging
was set up before.
-/

namespace ScriptFiles.Log

/-- An output format. -/
inductive Format
  | pretty | json | compact
deriving DecidableEq, Repr

/-- The name of a format. -/
def Format.name : Format → String
  | pretty => "Pretty"
  | json => "Json"
  | compact => "Compact"

/-- The settings of logging. -/
structure Settings where
  format : Format := .pretty
  level : Level := .info
  filter : Option String := none
  hasSink : Bool := false
  spans : Bool := false
  target : Bool := true
  threadInfo : Bool := true
deriving DecidableEq, Repr

namespace Settings

/-- The debug text of an optional text. -/
def optionText : Option String → String
  | some text => "Some(" ++ Quoted.text text ++ ")"
  | none => "None"

/-- A flag as settings show it. -/
def boolText (b : Bool) : String :=
  if b then "true" else "false"

/-- The debug text of the settings. -/
def debugText (s : Settings) : String :=
  "LoggingConfig \x7b format: " ++ s.format.name ++ ", level: " ++ s.level.serialName ++
    ", filter: " ++ optionText s.filter ++ ", logger_sink: " ++
    optionText (if s.hasSink then some "LoggerSink \x7b ... \x7d" else none) ++
    ", enable_spans: " ++ boolText s.spans ++ ", display_target: " ++ boolText s.target ++
    ", display_thread_info: " ++ boolText s.threadInfo ++ " \x7d"

/-- Sets logging up; `already` says whether that has happened before. -/
def setUp (s : Settings) (already : Bool) : Except SetupError Unit :=
  match checkFilter (s.filter.getD "") with
  | some error => .error (.config ("Invalid log filter: " ++ error.message))
  | none =>
    if already then
      .error (.config ("Failed to initialize logging: " ++
        "a global default trace dispatcher has already been set"))
    else .ok ()

end Settings
end ScriptFiles.Log
