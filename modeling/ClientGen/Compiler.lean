import ClientGen.Descriptor
import ClientGen.Disk

/-!
# The schema compiler

The compiler is another program: it is given an argument list, and leaves a descriptor set unless it
fails. No program can be given an argument with a null character. The include paths are those that
are asked for, the directory of the sources, and the usual ones, each once.
-/

set_option autoImplicit false
set_option relaxedAutoImplicit false

namespace ClientGen

namespace Compiler

open ClientGen.Text

/-- What comes of a call of the compiler. It is missing, may not be executed, or cannot be called for
another reason, which the system reports, or it leaves no output; or else it fails, or leaves output
that is a descriptor set or none. -/
inductive Outcome
  | missing
  | denied
  | broken (report : String)
  | failed (report : List UInt8)
  | undecodable
  | compiled (files : List Descriptor.File)

/-- Where the compiler runs: its usual include paths, which are absolute, the directory for its
output, and what comes of its calls. -/
structure Environment where
  roots : List String
  scratch : String
  compile : List String → Outcome

/-- Why there is no descriptor set. `denied` stands for all that the system reports of a call, other
than that the program is missing. -/
inductive Failure
  | missing (program : String)
  | denied (report : String)
  | failed (report : List UInt8)
  | undecodable
  deriving DecidableEq, Repr

/-- The report of a failure. -/
def Failure.message : Failure → String
  | missing program => "'" ++ program ++ "' not found. Please install the Protocol Buffers " ++
      "compiler and ensure it is in PATH."
  | denied report => report
  | failed report => "protoc failed: " ++ String.ofList (Utf8.decodeLossy report)
  | undecodable => "Error parsing message"

/-- The include paths. -/
def includes (environment : Environment) (working : AbsolutePath) (directory : String)
    (imports : List String) : List String :=
  ((imports ++ [directory]).map (fun path ↦ (Path.absolute working path).text) ++
    environment.roots).eraseDups

/-- The paths of the sources. -/
def sources (working : AbsolutePath) (directory : String) (names : List String) : List String :=
  names.map fun name ↦ (Path.absolute working (Path.join directory name)).text

/-- The arguments of a call, the program first. -/
def arguments (environment : Environment) (working : AbsolutePath) (program directory : String)
    (imports names : List String) : List String :=
  [program, "--include_imports", "--include_source_info",
    "--descriptor_set_out=" ++ Path.join environment.scratch "descriptor_set.pb"] ++
    (includes environment working directory imports).flatMap (["-I", ·]) ++
    sources working directory names

/-- Refuses arguments with a null character. -/
def checkArguments (arguments : List String) : Except DiskFailure Unit :=
  match arguments.find? (·.toList.contains '\x00') with
  | some argument => .error ⟨.nullByte, argument⟩
  | none => .ok ()

/-- The descriptor set that a call leaves. -/
def Outcome.files (program : String) : Outcome → Except Failure (List Descriptor.File)
  | missing => .error (.missing program)
  | denied => .error (.denied (DiskFailure.message ⟨.denied, program⟩))
  | broken report => .error (.denied report)
  | failed report => .error (.failed report)
  | undecodable => .error .undecodable
  | compiled files => .ok files

end Compiler

end ClientGen
