import ClientGen.Descriptor

/-!
# Routes

The verb and path under which a method is called. A path template writes its variables in braces;
the path of a route writes them after a colon. Methods without a rule, without a pattern or with a
custom verb have no route.
-/

set_option autoImplicit false
set_option relaxedAutoImplicit false

namespace ClientGen

/-- The HTTP verbs of routes. -/
inductive Verb
  | get | put | post | delete | patch
  deriving DecidableEq, Repr

/-- A verb as it stands in a request. -/
def Verb.text : Verb → String
  | get => "GET"
  | put => "PUT"
  | post => "POST"
  | delete => "DELETE"
  | patch => "PATCH"

/-- A verb with a path. -/
structure Route where
  verb : Verb
  path : String
  deriving DecidableEq, Repr

namespace Route

/-- An opening brace becomes a colon, a closing brace is dropped. -/
def colonPathChars (cs : List Char) : List Char :=
  cs.filterMap fun c ↦ if c = '\x7b' then some ':' else if c = '\x7d' then none else some c

/-- The path of a template, its variables written after a colon. -/
def colonPath (path : String) : String :=
  String.ofList (colonPathChars path.toList)

/-- The route of a pattern. -/
def ofPattern? : HttpPattern → Option Route
  | .get path => some ⟨.get, colonPath path⟩
  | .put path => some ⟨.put, colonPath path⟩
  | .post path => some ⟨.post, colonPath path⟩
  | .delete path => some ⟨.delete, colonPath path⟩
  | .patch path => some ⟨.patch, colonPath path⟩
  | .custom _ _ => none

/-- The route of a method with the given rule. -/
def ofRule? (rule : Option HttpRule) : Option Route := do
  ofPattern? (← (← rule).pattern)

end Route

end ClientGen
