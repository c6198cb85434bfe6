import ScriptFiles.Error
import ScriptFiles.Log.Event

/-!
# Configuration of the bridge

Three settings: the namespace that scripts find the operations under, the directory that
relative paths start from and the number of worker threads. `Settings.check` is one list of
rules in a fixed order; building and later edits are checked by the same rules.
-/

namespace ScriptFiles.Config

/-- The settings of a bridge. -/
structure Settings where
  namespaceName : String
  baseDir : String
  workerThreads : Nat
deriving DecidableEq, Repr

/-- The namespace used when none is given. -/
def defaultNamespace : String := "_fileSystem"

/-- The number of worker threads used when none is given. -/
def defaultWorkerThreads : Nat := 2

/-- The greatest number of worker threads. -/
def maxWorkerThreads : Nat := 64

/-- The last component of the directory used when none is given. -/
def defaultDirectoryName : String := "script-fs-bridge"

/-- An ASCII letter, an underscore or a dollar sign. -/
def isIdentifierStart (c : Char) : Bool :=
  c.isAlpha || c == '_' || c == '$'

/-- A character that may follow the first one of an identifier. -/
def isIdentifierRest (c : Char) : Bool :=
  isIdentifierStart c || c.isDigit

/-- What a setting can break. -/
inductive Violation
  | emptyNamespace
  | invalidNamespace (name : String)
  | emptyBaseDir
  | workerThreads (count : Nat)
deriving DecidableEq, Repr

namespace Violation

/-- The text of a broken rule. -/
def message : Violation → String
  | emptyNamespace => "Namespace cannot be empty"
  | invalidNamespace name => "Namespace '" ++ name ++ "' is not a valid script identifier"
  | emptyBaseDir => "Base directory cannot be empty"
  | workerThreads count =>
    "Worker thread count must be between 1 and " ++ natText maxWorkerThreads ++ ", got " ++
      natText count

/-- The setup error for a broken rule. -/
def error (v : Violation) : SetupError :=
  .config v.message

end Violation

/-- The rule for the namespace. -/
def checkNamespace (name : String) : Option Violation :=
  match name.toList with
  | [] => some .emptyNamespace
  | first :: rest =>
    if isIdentifierStart first && rest.all isIdentifierRest then none
    else some (.invalidNamespace name)

namespace Settings

/-- The first rule that the settings break: namespace, then directory, then threads. -/
def check (s : Settings) : Option Violation :=
  match checkNamespace s.namespaceName with
  | some violation => some violation
  | none =>
    if s.baseDir.isEmpty then some .emptyBaseDir
    else if s.workerThreads = 0 ∨ maxWorkerThreads < s.workerThreads then
      some (.workerThreads s.workerThreads)
    else none

/-- Accepts settings that break no rule. -/
def validate (s : Settings) : Except SetupError Unit :=
  match s.check with
  | some violation => .error violation.error
  | none => .ok ()

/-- The debug text of the settings with the file system they go with. -/
def debugText (s : Settings) : String :=
  "CoreConfig \x7b namespace: " ++ Quoted.text s.namespaceName ++ ", base_dir: " ++
    Quoted.text s.baseDir ++ ", worker_threads: " ++ natText s.workerThreads ++
    ", file_system: \"FileSystem \x7b ... \x7d\" \x7d"

end Settings

/-- What a configuration is built from; anything left out has a default. -/
structure Builder where
  namespaceName : Option String := none
  baseDir : Option String := none
  workerThreads : Option Nat := none
  /-- Whether a file system of the host's own was given. -/
  ownFileSystem : Bool := false
deriving DecidableEq, Repr

/-- An edit of built settings: the fields given replace the old ones. -/
structure Edit where
  namespaceName : Option String := none
  baseDir : Option String := none
  workerThreads : Option Nat := none
deriving DecidableEq, Repr

/-- Edited settings. -/
def Settings.edit (s : Settings) (e : Edit) : Settings :=
  { namespaceName := e.namespaceName.getD s.namespaceName
    baseDir := e.baseDir.getD s.baseDir
    workerThreads := e.workerThreads.getD s.workerThreads }

/-- The settings after each of a list of edits, made one after another. -/
def Settings.revisions (s : Settings) : List Edit → List Settings
  | [] => []
  | e :: rest => s.edit e :: (s.edit e).revisions rest

namespace Builder

/-- The settings with defaults filled in; `dataDir` is the directory used when none is given. -/
def settings (b : Builder) (dataDir : String) : Settings :=
  { namespaceName := b.namespaceName.getD defaultNamespace
    baseDir := b.baseDir.getD dataDir
    workerThreads := b.workerThreads.getD defaultWorkerThreads }

/-- The module name that events of the configuration carry. -/
def logTarget : String := "core_runtime::config"

/-- Builds a configuration. Without a file system of the host's own the desktop file system is
set up, which is recorded. -/
def build (b : Builder) (dataDir : String) : Except SetupError (Settings × List Log.Event) :=
  let s := b.settings dataDir
  match s.check with
  | some violation => .error violation.error
  | none =>
    if b.ownFileSystem then .ok (s, [])
    else
      .ok (s, [Log.Event.say .debug logTarget "Using desktop file system"
        [("base_dir", .other (Quoted.text s.baseDir)),
          ("worker_threads", .other (natText s.workerThreads))]])

end Builder
end ScriptFiles.Config
