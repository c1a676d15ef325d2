import ClientGen.Descriptor.Reading
import ClientGen.Program
import ClientGen.Script.Reading

/-!
# The command line

The first argument names the program, `pb2ts` or `pb2ts-parser`; the programs see the files below
the working directory. The descriptor set that the compiler makes of the sources is read from the
standard input as a document, and the texts of overrides are documents too.
-/

set_option autoImplicit false
set_option relaxedAutoImplicit false

open ClientGen

/-- The entries below a directory entry, and the entry itself. -/
partial def entriesBelow (outer : Place) (found : IO.FS.DirEntry) : IO (List (Place × Entry)) := do
  let place := outer ++ [found.fileName.toList]
  if ← found.path.isDir then
    let inner ← (← found.path.readDir).toList.mapM (entriesBelow place)
    return (place, .directory) :: inner.flatten
  else
    let bytes ← try IO.FS.readBinFile found.path catch _ => pure .empty
    return [(place, .file (.ofBytes bytes.toList))]

/-- The disk with the files below the working directory. -/
def currentDisk : IO Disk := do
  let here ← IO.currentDir
  let directory := Path.absolute ⟨false, []⟩ here.toString
  let below ← (← here.readDir).toList.mapM (entriesBelow directory.names)
  let around := (List.range directory.names.length).map fun n ↦
    (directory.names.take (n + 1), Entry.directory)
  return { entries := around ++ below.flatten, directory := directory }

/-- Makes a directory or writes a file. -/
def putEntry (place : Place) (entry : Entry) : IO Unit :=
  let path := (AbsolutePath.mk false place).text
  match entry with
  | .directory => IO.FS.createDirAll path
  | .file (.text text) => IO.FS.writeFile path text
  | .file (.bytes bytes) => IO.FS.writeBinFile path ⟨bytes.toArray⟩

/-- How deep documents are looked into. -/
def documentDepth : Nat := 64

/-- What comes of a call of the compiler whose output is the given document. -/
def outcomeOfDocument (text : String) : Compiler.Outcome :=
  match Yaml.load documentDepth text with
  | .ok (some document) => .compiled (Descriptor.filesOfValue document)
  | .ok none => .missing
  | .error _ => .undecodable

/-- The script that the text of an override gives. -/
def scriptOfDocument (text : String) : Script :=
  match Yaml.load documentDepth text with
  | .ok (some document) => .ofValue document
  | .ok none => []
  | .error _ => [.broken .noStatement]

/-- Runs a program on the files below the working directory. -/
def main (arguments : List String) : IO UInt32 := do
  let (program, arguments) := match arguments with
    | "pb2ts-parser" :: rest => (Program.inspector, rest)
    | "pb2ts" :: rest => (Program.generator, rest)
    | rest => (Program.generator, rest)
  let document ← (← IO.getStdin).readToEnd
  let environment : Program.Environment := {
    compiler := { roots := [], scratch := "/tmp", compile := fun _ ↦ outcomeOfDocument document }
    documents := Yaml.load Config.depth
    templates := .standard
    script := scriptOfDocument }
  let disk ← currentDisk
  let outcome := program environment { disk := disk } arguments
  for (place, entry) in (disk.changes outcome.world.disk).reverse do
    putEntry place entry
  IO.print outcome.out
  IO.eprint outcome.err
  match outcome.ending with
  | .exit status => return status.toUInt32
  | .broken failure =>
    IO.eprintln failure.message
    return 1
