import ClientGen.Path
import ClientGen.Text.Lines
import ClientGen.Text.Quoted
import ClientGen.Text.Utf8

/-!
# Disks

The files and directories that a program works on. A path is followed name by name, so every name on
the way has to be that of a directory. Failed steps report why, with the path they were asked for.

A disk has no links of either kind and no permissions: each entry has one place, every directory may
be searched, and there is always room for more. The root is a directory on every disk, and the working
directory is taken to be there.
-/

set_option autoImplicit false
set_option relaxedAutoImplicit false

namespace ClientGen

open ClientGen.Text

/-- The content of a file: a text, or bytes that are none. -/
inductive Content
  | text (text : String)
  | bytes (bytes : List UInt8)
  deriving DecidableEq, Repr

/-- The content that bytes make up. -/
def Content.ofBytes (bytes : List UInt8) : Content :=
  match Utf8.decode? bytes with
  | some cs => .text (String.ofList cs)
  | none => .bytes bytes

/-- What a name stands for. -/
inductive Entry
  | directory
  | file (content : Content)
  deriving DecidableEq, Repr

/-- The names that lead to an entry from the root. -/
abbrev Place := List (List Char)

/-- A disk: its entries by place, and the working directory. The root is always a directory. -/
structure Disk where
  entries : List (Place × Entry) := []
  directory : AbsolutePath

/-- Why a step on a disk fails. -/
inductive DiskFault
  | missing
  | denied
  | exists
  | notDirectory
  | isDirectory
  | nameTooLong
  | nullByte
  deriving DecidableEq, Repr

/-- The number of a fault; a path with a null character is refused before it comes to a disk. -/
def DiskFault.number : DiskFault → Nat
  | missing => 2
  | denied => 13
  | .exists => 17
  | notDirectory => 20
  | isDirectory => 21
  | nameTooLong => 36
  | nullByte => 0

/-- The words for a fault. -/
def DiskFault.words : DiskFault → String
  | missing => "No such file or directory"
  | denied => "Permission denied"
  | .exists => "File exists"
  | notDirectory => "Not a directory"
  | isDirectory => "Is a directory"
  | nameTooLong => "File name too long"
  | nullByte => "embedded null byte"

/-- A failed step, with the path it was asked for. -/
structure DiskFailure where
  fault : DiskFault
  path : String
  deriving DecidableEq, Repr

/-- The report of a failed step. -/
def DiskFailure.message (failure : DiskFailure) : String :=
  if failure.fault = .nullByte then failure.fault.words
  else
    "[Errno " ++ toString failure.fault.number ++ "] " ++ failure.fault.words ++ ": " ++
      quoted failure.path

namespace Disk

/-- The entry at a place. -/
def entry? (disk : Disk) (place : Place) : Option Entry :=
  if place = [] then some .directory else disk.entries.lookup place

/-- Whether a directory is at a place. -/
def isDirectoryAt (disk : Disk) (place : Place) : Bool :=
  disk.entry? place = some .directory

/-- The most bytes that a name may have. -/
def nameLimit : Nat := 255

/-- Whether a name has too many bytes. -/
def isTooLong (name : List Char) : Bool :=
  nameLimit < (String.ofList name).utf8ByteSize

/-- The most bytes that a path may have. -/
def pathLimit : Nat := 4095

/-- Refuses a path that no disk can follow. -/
def checkPath (path : String) : Except DiskFault Unit :=
  if path.toList.contains '\x00' then .error .nullByte
  else if pathLimit < path.utf8ByteSize then .error .nameTooLong
  else .ok ()

/-- Follows one part of a path from a place. -/
def follow (disk : Disk) (place : Place) (part : List Char) : Except DiskFault Place :=
  if !disk.isDirectoryAt place then .error .notDirectory
  else if part = [] || part = ['.'] then .ok place
  else if part = ['.', '.'] then .ok place.dropLast
  else if isTooLong part then .error .nameTooLong
  else if (disk.entry? (place ++ [part])).isSome then .ok (place ++ [part])
  else .error .missing

/-- The place where a path starts. -/
def start (disk : Disk) (path : String) : Place :=
  if Path.isAbsolute path then [] else disk.directory.names

/-- The place that a path leads to. The empty path leads nowhere. -/
def place (disk : Disk) (path : String) : Except DiskFault Place := do
  checkPath path
  if path = "" then throw .missing
  (Path.parts path).foldlM disk.follow (disk.start path)

/-- The entry that a path leads to. -/
def find? (disk : Disk) (path : String) : Option Entry :=
  match disk.place path with
  | .ok place => disk.entry? place
  | .error _ => none

/-- Whether a path leads to a file. -/
def isFile (disk : Disk) (path : String) : Bool :=
  match disk.find? path with
  | some (.file _) => true
  | _ => false

/-- Whether a path leads to a directory. -/
def isDirectory (disk : Disk) (path : String) : Bool :=
  disk.find? path = some .directory

/-- The content of the file that a path leads to. -/
def read (disk : Disk) (path : String) : Except DiskFailure Content :=
  match disk.place path with
  | .error fault => .error ⟨fault, path⟩
  | .ok place =>
    match disk.entry? place with
    | some (.file content) => .ok content
    | some .directory => .error ⟨.isDirectory, path⟩
    | none => .error ⟨.missing, path⟩

/-- The names in the directory that a path leads to. -/
def list (disk : Disk) (path : String) : Except DiskFailure (List String) :=
  match disk.place path with
  | .error fault => .error ⟨fault, path⟩
  | .ok place =>
    if disk.isDirectoryAt place then
      .ok (disk.entries.filterMap fun (other, _) ↦
        match other.getLast? with
        | some name => if other.dropLast = place then some (String.ofList name) else none
        | none => none)
    else .error ⟨.notDirectory, path⟩

/-- Puts an entry at a place. -/
def put (disk : Disk) (place : Place) (entry : Entry) : Disk :=
  { disk with entries := (place, entry) :: disk.entries.filter fun (other, _) ↦ other ≠ place }

/-- The parts of a path that lead to the directory around its last name, and that name, if the path
ends in a name. Slashes at the end are left out. -/
def lastName? (path : String) : Option (List (List Char) × List Char) :=
  match (Path.parts path).reverse.dropWhile (· = []) with
  | name :: rest => if name = ['.'] || name = ['.', '.'] then none else some (rest.reverse, name)
  | [] => none

/-- The place for a new entry under a path, if its directory exists. -/
def newPlace (disk : Disk) (path : String) (outer : List (List Char)) (name : List Char) :
    Except DiskFault Place := do
  checkPath path
  let place ← outer.foldlM disk.follow (disk.start path)
  if !disk.isDirectoryAt place then throw .notDirectory
  if isTooLong name then throw .nameTooLong
  return place ++ [name]

/-- Makes a directory. -/
def makeDirectory (disk : Disk) (path : String) : Except DiskFailure Disk :=
  let made : Except DiskFault Disk := do
    match lastName? path with
    | some (outer, name) =>
      let place ← disk.newPlace path outer name
      if (disk.entry? place).isSome then throw .exists
      return disk.put place .directory
    | none =>
      let _ ← disk.place path
      throw .exists
  made.mapError fun fault ↦ ⟨fault, path⟩

/-- Writes a file, in place of an older one. -/
def write (disk : Disk) (path text : String) : Except DiskFailure Disk :=
  let written : Except DiskFault Disk := do
    match lastName? path with
    | some (outer, name) =>
      let place ← disk.newPlace path outer name
      if disk.isDirectoryAt place || path.toList.getLast? = some '/' then throw .isDirectory
      return disk.put place (.file (.text text))
    | none =>
      let _ ← disk.place path
      throw .isDirectory
  written.mapError fun fault ↦ ⟨fault, path⟩

/-- Makes the directory of a path if it is not there, once the directories around it are. Nothing is
left to do for a single dot behind a new directory. -/
def finish (path tail : String) (isInNew : Bool) (disk : Disk) : Option DiskFailure × Disk :=
  if isInNew && tail = "." then (none, disk)
  else match disk.makeDirectory path with
    | .ok disk => (none, disk)
    | .error failure => if disk.isDirectory path then (none, disk) else (some failure, disk)

/-- Makes the directory of a path and all that are missing around it. The answer is the failure if
there was one, and the disk with what could be made. -/
def makeDirectories : Nat → String → Disk → Option DiskFailure × Disk
  | 0, _, disk => (none, disk)
  | fuel + 1, path, disk =>
    let (head, tail) :=
      match Path.split path with
      | (head, "") => Path.split head
      | parts => parts
    if head ≠ "" && tail ≠ "" && (disk.find? head).isNone then
      match makeDirectories fuel head disk with
      | (some failure, disk) =>
        if failure.fault = .exists then finish path tail true disk else (some failure, disk)
      | (none, disk) => finish path tail true disk
    else finish path tail false disk

/-- Makes the directory of a path and all that are missing around it. Each step goes one slash up at
least, so as much fuel as there are characters is enough. -/
def ensureDirectory (disk : Disk) (path : String) : Option DiskFailure × Disk :=
  makeDirectories (path.length + 1) path disk

/-- What is new or different on a later disk, by place. -/
def changes (before after : Disk) : List (Place × Entry) :=
  after.entries.filter fun (place, entry) ↦ before.entry? place ≠ some entry

end Disk

end ClientGen
