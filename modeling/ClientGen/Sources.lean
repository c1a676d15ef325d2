import ClientGen.Disk

/-!
# Schema files

The schema files of a directory: the names that end in `.proto`, in order, without those that are
excluded. An excluded path is taken relative to the directory, and it means a file if both have the
same absolute path. That path is made of the texts alone, and it is also the one that is asked
whether it leads to a file.
-/

set_option autoImplicit false
set_option relaxedAutoImplicit false

namespace ClientGen

namespace Sources

/-- What listing asks of an operating system: the working directory, the names in the directory that
a path leads to, and whether a path leads to a file. What links and permissions do to a path is in
the answers. -/
structure System where
  directory : AbsolutePath
  names : String → Except DiskFailure (List String)
  isFile : String → Bool

/-- A directory that cannot be listed. -/
structure Unreadable where
  directory : String
  failure : DiskFailure
  deriving DecidableEq, Repr

/-- The report of a directory that cannot be listed. -/
def Unreadable.message (e : Unreadable) : String :=
  if e.failure.fault = .nullByte then e.failure.message
  else "Cannot read proto directory '" ++ e.directory ++ "': " ++ e.failure.message

/-- The absolute path of a name in a directory. -/
def located (working : AbsolutePath) (directory name : String) : AbsolutePath :=
  Path.absolute working (Path.join directory name)

/-- Whether a name is that of a schema file. -/
def isSchema (name : String) : Bool :=
  ".proto".toList.isSuffixOf name.toList

/-- The schema files of a directory in a system. -/
def System.list (system : System) (directory : String) (excluded : List String) :
    Except Unreadable (List String) :=
  let left := excluded.map (located system.directory directory)
  match system.names directory with
  | .error failure => .error ⟨directory, failure⟩
  | .ok names =>
    .ok ((names.mergeSort (· ≤ ·)).filter fun name ↦
      !left.contains (located system.directory directory name) &&
        system.isFile (located system.directory directory name).text && isSchema name)

end Sources

/-- A disk as a system: it has no links, and every directory may be searched. -/
def Disk.system (disk : Disk) : Sources.System where
  directory := disk.directory
  names := disk.list
  isFile := disk.isFile

/-- The schema files of a directory on a disk. -/
def Sources.list (disk : Disk) (directory : String) (excluded : List String) :
    Except Unreadable (List String) :=
  disk.system.list directory excluded

end ClientGen
