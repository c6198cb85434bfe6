import ScriptFiles.Desktop.FileTime
import ScriptFiles.Desktop.Path
import ScriptFiles.Native.Error
import ScriptFiles.Text.Utf8

/-!
# Calls of the operating system

What the desktop file service asks of an operating system. The answers are left open here, so
what is said of the service for every `System` holds whatever call fails and however; a `Disk`
gives the answers of a POSIX file system.
-/

namespace ScriptFiles.Desktop

/-- What an operating system knows about a path; a modification time may be missing. -/
structure Metadata where
  isDirectory : Bool
  isFile : Bool
  modified : Option FileTime
deriving DecidableEq, Repr

/-- A call that answers and may change the state. -/
abbrev Call (σ α : Type) := σ → Except IoCause α × σ

/-- The calls of an operating system with states `σ`. -/
structure System (σ : Type) where
  /-- Reads a whole file. -/
  readFile : Path → Call σ Bytes
  /-- Makes a file or empties it, and fills it. -/
  writeFile : Path → Bytes → Call σ Unit
  /-- Makes one directory. -/
  makeDirectory : Path → Call σ Unit
  /-- Gives an entry another path. -/
  rename : Path → Path → Call σ Unit
  /-- Removes a file. -/
  unlink : Path → Call σ Unit
  /-- Tells about a path. -/
  metadata : Path → Call σ Metadata

/-- A failure that says that nothing has that name. -/
def isNotFound (cause : IoCause) : Bool :=
  cause = .errno .noEntry

namespace System

variable {σ : Type}

/-- Whether a path names a directory; a failure means that it does not. -/
def isDirectory (system : System σ) (path : Path) (s : σ) : Bool × σ :=
  match system.metadata path s with
  | (.ok metadata, s) => (metadata.isDirectory, s)
  | (.error _, s) => (false, s)

/-- Forgives a failure to make a directory if there is one. -/
def forgiven (system : System σ) (path : Path) (cause : IoCause) : Call σ Unit := fun s =>
  match system.isDirectory path s with
  | (true, s) => (.ok (), s)
  | (false, s) => (.error cause, s)

/-- Makes the first directory of a lineage, after those above it where they are missing. A
directory that is there already is fine. -/
def makeLineage (system : System σ) : List Path → Call σ Unit
  | [], s => (.error (.other "failed to create whole tree"), s)
  | path :: above, s =>
    match system.makeDirectory path s with
    | (.ok (), s) => (.ok (), s)
    | (.error cause, s) =>
      if isNotFound cause then
        match system.makeLineage above s with
        | (.error cause, s) => (.error cause, s)
        | (.ok (), s) =>
          match system.makeDirectory path s with
          | (.ok (), s) => (.ok (), s)
          | (.error cause, s) => system.forgiven path cause s
      else system.forgiven path cause s

/-- Makes a directory and all directories above it. -/
def makeDirectories (system : System σ) (path : Path) : Call σ Unit :=
  system.makeLineage path.lineage

end System
end ScriptFiles.Desktop
