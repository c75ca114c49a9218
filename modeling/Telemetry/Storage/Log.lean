import Telemetry.Text.Split

/-!
Opening a log.

What becomes of files is the matter of the operating system. A `Disk` is the part of
it that a log file needs, so that opening one is the same on every disk.
-/

namespace Telemetry.Storage

/-- What can be asked of a disk. -/
structure Disk (m : Type → Type) (Handle : Type) where
  /-- Creates a directory and those above it, as far as they are missing. -/
  createDirectories (path : String) : m Unit
  /-- Opens a file behind what it holds already; a missing one is created. -/
  openAtEnd (path : String) : m Handle

/-- Whether a name in a path leads nowhere else. -/
def staysThere (name : List Char) : Bool := name.isEmpty || name = ['.']

/-- The path of the directory that a file is in. It is empty if that is the root or the
directory in which the path begins. -/
def directoryOf (path : String) : String :=
  let names := (Text.splitOn (· = '/') path.toList).reverse.dropWhile staysThere
  String.ofList (['/'].intercalate ((names.drop 1).dropWhile staysThere).reverse)

/-- Opens a log file, once the directories above it are there. -/
def openLog {m : Type → Type} {Handle : Type} [Monad m] (disk : Disk m Handle) (path : String) :
    m Handle := do
  let directory := directoryOf path
  unless directory.isEmpty do disk.createDirectories directory
  disk.openAtEnd path

end Telemetry.Storage
