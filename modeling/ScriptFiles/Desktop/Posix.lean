import ScriptFiles.Desktop.Disk
import ScriptFiles.Desktop.System

/-!
# The calls on a disk

The answers of a POSIX file system to the calls of `System`, for a user who may do everything.
A path is walked name by name; everything before the last name has to be a directory. The last
name decides: whether it is a name at all, whether a slash follows it, and what is there.
-/

namespace ScriptFiles.Desktop

/-- The length from which on a path is too long, in bytes. -/
def pathLimit : Nat := 4096

/-- The greatest length of a name in bytes. -/
def nameLimit : Nat := 255

/-- The last part of a path. -/
inductive Ending
  /-- There is no name: the root itself. -/
  | root
  /-- A single dot. -/
  | here
  /-- Two dots. -/
  | up
  | name (name : String)
deriving DecidableEq, Repr

/-- The ending that a name is. -/
def Ending.ofName (name : String) : Ending :=
  if name = "." then .here else if name = ".." then .up else .name name

/-- Where a path leads: a directory, the last part, and whether a slash follows it. -/
structure Location where
  directory : Place
  ending : Ending
  slash : Bool
deriving DecidableEq, Repr

/-- The place of a location. -/
def Location.place (l : Location) : Place :=
  match l.ending with
  | .root => []
  | .here => l.directory
  | .up => l.directory.dropLast
  | .name name => l.directory ++ [name]

namespace Disk

/-- Looks a name up in a directory. -/
def lookUp (d : Disk) (directory : Place) (name : String) : Except Errno (Option Entry) :=
  if nameLimit < name.utf8ByteSize then .error .nameTooLong
  else .ok (d.get? (directory ++ [name]))

/-- Goes from a directory to the one that a name in it leads to. -/
def enter (d : Disk) (directory : Place) (name : String) : Except Errno Place :=
  if name = "." then .ok directory
  else if name = ".." then .ok directory.dropLast
  else
    match d.lookUp directory name with
    | .error e => .error e
    | .ok none => .error .noEntry
    | .ok (some entry) =>
      if entry.isDirectory then .ok (directory ++ [name]) else .error .notDirectory

/-- Goes from a directory along a list of names. -/
def walk (d : Disk) (directory : Place) : List String → Except Errno Place
  | [] => .ok directory
  | name :: rest =>
    match d.enter directory name with
    | .ok next => d.walk next rest
    | .error e => .error e

/-- Walks a path up to its last name. -/
def locate (d : Disk) (path : Path) : Except Errno Location :=
  if pathLimit ≤ path.text.utf8ByteSize then .error .nameTooLong
  else
    let names := path.names.filter (· != "")
    match names.getLast? with
    | none => .ok ⟨[], .root, true⟩
    | some last =>
      match d.walk [] names.dropLast with
      | .ok directory => .ok ⟨directory, .ofName last, path.names.getLast? = some ""⟩
      | .error e => .error e

/-- The entry at a location, if there is one. -/
def entryAt (d : Disk) (l : Location) : Except Errno (Option Entry) :=
  match l.ending with
  | .name name => d.lookUp l.directory name
  | _ => .ok (d.get? l.place)

/-- The entry that a path names; a slash after its last name asks for a directory. -/
def existing (d : Disk) (path : Path) : Except Errno (Place × Entry) := do
  let l ← d.locate path
  match ← d.entryAt l with
  | none => .error .noEntry
  | some entry =>
    if l.slash && !entry.isDirectory then .error .notDirectory else .ok (l.place, entry)

/-- The content of a file. -/
def readFile (d : Disk) (path : Path) : Except Errno Bytes := do
  match (← d.existing path).2.content with
  | .file bytes => .ok bytes
  | .directory => .error .isDirectory

/-- What is known about a path. -/
def metadata (d : Disk) (path : Path) : Except Errno Metadata := do
  let (_, entry) ← d.existing path
  return ⟨entry.isDirectory, !entry.isDirectory, entry.modified⟩

/-- The disk with a file written. -/
def writeFile (d : Disk) (path : Path) (bytes : Bytes) : Except Errno Disk := do
  let l ← d.locate path
  match l.ending with
  | .name name =>
    if l.slash then .error .isDirectory
    else
      match ← d.lookUp l.directory name with
      | none => .ok ((d.put l.place ⟨.file bytes, some d.clock⟩).stamp l.directory)
      | some entry =>
        if entry.isDirectory then .error .isDirectory
        else .ok (d.put l.place ⟨.file bytes, some d.clock⟩)
  | _ => .error .isDirectory

/-- The disk with a directory made. -/
def makeDirectory (d : Disk) (path : Path) : Except Errno Disk := do
  let l ← d.locate path
  match l.ending with
  | .name name =>
    match ← d.lookUp l.directory name with
    | none => .ok ((d.put l.place ⟨.directory, some d.clock⟩).stamp l.directory)
    | some _ => .error .alreadyExists
  | _ => .error .alreadyExists

/-- The disk with a file removed. -/
def unlink (d : Disk) (path : Path) : Except Errno Disk := do
  let l ← d.locate path
  match l.ending with
  | .name name =>
    match ← d.lookUp l.directory name with
    | none => .error .noEntry
    | some entry =>
      if entry.isDirectory then .error .isDirectory
      else if l.slash then .error .notDirectory
      else .ok ((d.erase l.place).stamp l.directory)
  | _ => .error .isDirectory

/-- Why an entry cannot take the place of another one. -/
def replaceError? (d : Disk) (moved : Entry) (target : Place) (old : Option Entry) : Option Errno :=
  match old with
  | none => none
  | some entry =>
    if moved.isDirectory then
      if !entry.isDirectory then some .notDirectory
      else if d.hasChildren target then some .notEmpty
      else none
    else if entry.isDirectory then some .isDirectory
    else none

/-- The disk with an entry moved. -/
def rename (d : Disk) (source target : Path) : Except Errno Disk := do
  let origin ← d.locate source
  let goal ← d.locate target
  match origin.ending, goal.ending with
  | .name oldName, .name newName =>
    match ← d.lookUp origin.directory oldName with
    | none => .error .noEntry
    | some moved =>
      let replaced ← d.lookUp goal.directory newName
      if !moved.isDirectory && (origin.slash || goal.slash) then .error .notDirectory
      else if origin.place.isPrefixOf goal.directory then .error .invalid
      else if goal.place.isPrefixOf origin.directory then .error .notEmpty
      else if origin.place = goal.place then .ok d
      else
        match d.replaceError? moved goal.place replaced with
        | some e => .error e
        | none =>
          .ok (((d.transfer origin.place goal.place).stamp origin.directory).stamp goal.directory)
  | _, _ => .error .busy

/-- The failure of a path with a NUL, which never reaches the disk. -/
def nulCause : IoCause :=
  .other "file name contained an unexpected NUL byte"

/-- Asks something of a disk about paths. -/
def query {α : Type} (paths : List Path) (ask : Disk → Except Errno α) : Call Disk α := fun d =>
  if paths.any Path.hasNul then (.error nulCause, d)
  else (Except.mapError IoCause.errno (ask d), d)

/-- Changes a disk at paths; nothing changes when that fails. -/
def change (paths : List Path) (act : Disk → Except Errno Disk) : Call Disk Unit := fun d =>
  if paths.any Path.hasNul then (.error nulCause, d)
  else
    match act d with
    | .ok d => (.ok (), d)
    | .error e => (.error (.errno e), d)

/-- A disk as an operating system. -/
def system : System Disk where
  readFile path := query [path] (·.readFile path)
  writeFile path bytes := change [path] (·.writeFile path bytes)
  makeDirectory path := change [path] (·.makeDirectory path)
  rename source target := change [source, target] (·.rename source target)
  unlink path := change [path] (·.unlink path)
  metadata path := query [path] (·.metadata path)

end Disk
end ScriptFiles.Desktop
