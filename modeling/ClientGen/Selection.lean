import ClientGen.Declaration

/-!
# Selecting services

The services of the requested files, in the order of the requests. A request means the first file of
the set with that name, or with a name that ends in a slash and the request.
-/

set_option autoImplicit false
set_option relaxedAutoImplicit false

namespace ClientGen

/-- A request that no file of the set answers, with the names of all files. -/
structure MissingFile where
  request : String
  found : List String
  deriving DecidableEq, Repr

/-- The report of a missing file. -/
def MissingFile.message (e : MissingFile) : String :=
  "Could not locate '" ++ e.request ++ "' in descriptor set. Found: " ++
    ", ".intercalate e.found

namespace Selection

/-- Whether a file name answers a request. -/
def answers (fileName request : String) : Bool :=
  fileName = request || ('/' :: request.toList).isSuffixOf fileName.toList

/-- The first file that answers a request. -/
def file? (files : List Declaration.File) (request : String) : Option Declaration.File :=
  files.find? fun file ↦ answers file.name request

/-- The services of the requested files. -/
def services (files : List Declaration.File) :
    List String → Except MissingFile (List Declaration.Service)
  | [] => .ok []
  | request :: rest =>
    match file? files request with
    | none => .error ⟨request, files.map (·.name)⟩
    | some file => (services files rest).map (file.services ++ ·)

end Selection

end ClientGen
