/-!
# Usage texts

What the two programs say about their command lines.
-/

set_option autoImplicit false
set_option relaxedAutoImplicit false

namespace ClientGen.CommandLine

/-- The texts of a program about itself: its name, how it is called, and the rest of its help. -/
structure Usage where
  program : String
  calls : String
  help : String

namespace Usage

/-- The version of both programs. -/
def version : String := "0.3.0"

/-- The line that names the program and its version. -/
def versionText (usage : Usage) : String :=
  usage.program ++ " version " ++ version ++ "\n"

/-- The full help. -/
def helpText (usage : Usage) : String :=
  usage.calls ++ usage.help

/-- What is said to a refused command line. -/
def errorText (usage : Usage) (message : String) : String :=
  usage.calls ++ usage.program ++ ": error: " ++ message ++ "\n"

/-- The program that writes clients. -/
def generator : Usage where
  program := "pb2ts"
  calls :=
    "usage: pb2ts [-h] [-c CONFIG] [--proto PROTO] [--out OUT] [--imports IMPORTS]\n" ++
    "             [--verbose] [--version]\n"
  help :=
    "\nGenerate TypeScript API clients from google.api.http annotated proto services\n" ++
    "\noptions:\n" ++
    "  -h, --help            show this help message and exit\n" ++
    "  -c CONFIG, --config CONFIG\n" ++
    "                        Use specific config file (default: ./pb2ts.yaml if\n" ++
    "                        present)\n" ++
    "  --proto PROTO         Proto root directory (overrides proto_path)\n" ++
    "  --out OUT             Output directory (overrides output_dir)\n" ++
    "  --imports IMPORTS     Extra protoc include paths, comma-separated\n" ++
    "  --verbose             Enable debug logging\n" ++
    "  --version             show program's version number and exit\n"

/-- The program that prints flat services. -/
def inspector : Usage where
  program := "pb2ts-parser"
  calls :=
    "usage: pb2ts-parser [-h] [--proto PROTO] [--imports IMPORTS]\n" ++
    "                    [--exclude EXCLUDE] [--version]\n" ++
    "                    [path]\n"
  help :=
    "\nParse proto services and print their flattened structure as JSON\n" ++
    "\npositional arguments:\n" ++
    "  path               Proto root directory\n" ++
    "\noptions:\n" ++
    "  -h, --help         show this help message and exit\n" ++
    "  --proto PROTO      Proto root directory (alternative to the positional\n" ++
    "                     argument)\n" ++
    "  --imports IMPORTS  Extra protoc include paths, comma-separated\n" ++
    "  --exclude EXCLUDE  Proto files to skip, comma-separated\n" ++
    "  --version          show program's version number and exit\n"

end Usage

end ClientGen.CommandLine
