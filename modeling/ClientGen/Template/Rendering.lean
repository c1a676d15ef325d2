import ClientGen.Record
import ClientGen.Template
import ClientGen.Text.Case
import ClientGen.Text.Counted
import ClientGen.Text.Quoted
import ClientGen.Text.Splice

/-!
# Rendering a template

`render` writes a template for a call. Its names stand for the parts of the call, and `rpc` for the
call itself. A value that is not there can be passed on, but printing, testing, comparing or
changing it fails, as does taking an attribute of it. The connectives answer the operand that
decides. A filter looks at its arguments when they all have a value.
-/

set_option autoImplicit false
set_option relaxedAutoImplicit false

namespace ClientGen.Template

open ClientGen.Text

/-- The values of expressions. Types and methods are known by the name of their own type and how
they are printed. -/
inductive Value
  | text (text : String)
  | number (value : Nat)
  | flag (value : Bool)
  | nothing
  | call (call : Record.Call)
  | other (type shown : String)
  | missing (missing : Missing)
  deriving DecidableEq, Repr

/-- The report of a missing value. -/
def Missing.message : Missing → String
  | .name n => quoted n ++ " is undefined"
  | .attribute object n => quoted object ++ " has no attribute " ++ quoted n
  | .reported report => report

/-- The report of a misuse. The filter counts the changed value among its arguments, and the one
that replaces takes its surroundings as well and a limit if there is one. -/
def Misuse.message : Misuse → String
  | .surplus filter given =>
    "do_" ++ filter ++ "() takes " ++
      (if filter = "replace" then "from 4 to 5 positional arguments"
        else "1 positional argument") ++
      " but " ++ toString given ++ " were given"
  | .lacking filter missing =>
    "do_" ++ filter ++ "() missing " ++ counted missing.length "required positional argument" ++
      ": " ++ enumerated missing
  | .noCount type => quoted type ++ " object cannot be interpreted as an integer"
  | .raised _ message => message

/-- The report of a failure. -/
def Failure.message : Failure → String
  | .undefined what => what.message
  | .noFilter name => "No filter named " ++ quoted name ++ " found."
  | .misuse cause => cause.message

/-- A call as it is printed. -/
def callText (call : Record.Call) : String :=
  "Rpc(name=" ++ quoted call.name ++ ", method=" ++ quoted call.verb ++ ", path=" ++
    quoted call.path ++ ", request=" ++ quoted call.request ++ ", resp=" ++
    quoted call.response ++ ", leading_comments=" ++ quoted call.comment ++ ")"

namespace Value

/-- A value as it is printed. -/
def print : Value → Except Failure String
  | .text s => .ok s
  | .number n => .ok (toString n)
  | .nothing => .ok "None"
  | .flag true => .ok "True"
  | .flag false => .ok "False"
  | .call c => .ok (callText c)
  | .other _ shown => .ok shown
  | .missing what => .error (.undefined what)

/-- Whether a value counts as true. -/
def truth : Value → Except Failure Bool
  | .text s => .ok (s ≠ "")
  | .number n => .ok (n ≠ 0)
  | .flag b => .ok b
  | .nothing => .ok false
  | .call _ | .other .. => .ok true
  | .missing what => .error (.undefined what)

/-- An attribute of a value; only calls have any. -/
def member (name : String) : Value → Except Failure Value
  | .text _ => .ok (.missing (.attribute "str object" name))
  | .number _ => .ok (.missing (.attribute "int object" name))
  | .flag _ => .ok (.missing (.attribute "bool object" name))
  | .nothing => .ok (.missing (.attribute "None" name))
  | .other type _ => .ok (.missing (.attribute (type ++ " object") name))
  | .call c => .ok <|
    match name with
    | "name" => .text c.name
    | "method" => .text c.verb
    | "path" => .text c.path
    | "request" => .text c.request
    | "resp" => .text c.response
    | "leading_comments" => .text c.comment
    | "to_dict" => .other "method" ("<bound method Rpc.to_dict of " ++ callText c ++ ">")
    | _ => .missing (.attribute "pb2ts.models.Rpc object" name)
  | .missing what => .error (.undefined what)

/-- The name of the type of a value. -/
def typeName : Value → String
  | .text _ => "str"
  | .number _ => "int"
  | .flag _ => "bool"
  | .nothing => "NoneType"
  | .call _ => "Rpc"
  | .other type _ => type
  | .missing _ => "StrictUndefined"

/-- The number that a value stands for; a flag counts as one or zero. -/
def number? : Value → Option Nat
  | .number n => some n
  | .flag b => some b.toNat
  | _ => none

/-- Whether two values are equal. -/
def equals : Value → Value → Except Failure Bool
  | .missing what, _ => .error (.undefined what)
  | _, .missing what => .error (.undefined what)
  | .flag first, .number second => .ok (first.toNat = second)
  | .number first, .flag second => .ok (first = second.toNat)
  | first, second => .ok (first = second)

end Value

/-- The value of a name. -/
def nameValue (call : Record.Call) : String → Value
  | "name" => .text call.name
  | "comment" => .text call.comment
  | "request" => .text call.request
  | "response" => .text call.response
  | "method" => .text call.verb
  | "path" => .text call.path
  | "rpc" => .call call
  | "range" => .other "type" "<class 'range'>"
  | "dict" => .other "type" "<class 'dict'>"
  | name => .missing (.name name)

/-- A change of characters on a printed value. -/
def mapText (change : List Char → List Char) (value : Value) : Except Failure Value := do
  return .text (String.ofList (change (← value.print).toList))

/-- Exchanges a pattern, everywhere unless a limit is given. -/
def replaceIn (body pattern new limit : Value) : Except Failure Value := do
  let text ← body.print
  let pattern ← pattern.print
  let new ← new.print
  let written (change : List Char → List Char → List Char → List Char) : Value :=
    .text (String.ofList (change pattern.toList new.toList text.toList))
  match limit, limit.number? with
  | .nothing, _ => return written replace
  | _, some limit => return written (replaceFirst limit)
  | _, none => throw (.misuse (.noCount limit.typeName))

/-- A filter applied to a value and arguments. -/
def applyFilter (name : String) (body : Value) (arguments : List Value) :
    Except Failure Value :=
  match name, arguments with
  | "upper", [] => mapText upper body
  | "lower", [] => mapText lower body
  | "upper", _ | "lower", _ => .error (.misuse (.surplus name (arguments.length + 1)))
  | "replace", [] => .error (.misuse (.lacking name ["old", "new"]))
  | "replace", [_] => .error (.misuse (.lacking name ["new"]))
  | "replace", [pattern, new] => replaceIn body pattern new .nothing
  | "replace", [pattern, new, limit] => replaceIn body pattern new limit
  | "replace", _ => .error (.misuse (.surplus name (arguments.length + 2)))
  | _, _ => .error (.noFilter name)

mutual

/-- The value of an expression. -/
def Expr.value (call : Record.Call) : Expr → Except Failure Value
  | .literal text => .ok (.text text)
  | .number value => .ok (.number value)
  | .flag value => .ok (.flag value)
  | .nothing => .ok .nothing
  | .name name => .ok (nameValue call name)
  | .attribute object name => do (← object.value call).member name
  | .negate body => do return .flag !(← (← body.value call).truth)
  | .both first second => do
    let value ← first.value call
    if ← value.truth then second.value call else return value
  | .either first second => do
    let value ← first.value call
    if ← value.truth then return value else second.value call
  | .equal first second => do
    let value ← first.value call
    return .flag (← value.equals (← second.value call))
  | .different first second => do
    let value ← first.value call
    return .flag !(← value.equals (← second.value call))
  | .concat parts => do
    return .text (String.join (← (← partValues call parts).mapM Value.print))
  | .filter body name arguments => do
    let value ← body.value call
    applyFilter name value (← partValues call arguments)

/-- The values of expressions, from the first to the last. -/
def partValues (call : Record.Call) : List Expr → Except Failure (List Value)
  | [] => .ok []
  | part :: rest => do
    let value ← part.value call
    return value :: (← partValues call rest)

end

mutual

/-- The text of a node. -/
def Node.render (call : Record.Call) : Node → Except Failure String
  | .text text => .ok text
  | .print body => do (← body.value call).print
  | .choose branches otherwise => do
    match ← renderBranches call branches with
    | some text => return text
    | none => render call otherwise

/-- The text of the first branch with a true test. -/
def renderBranches (call : Record.Call) :
    List (Expr × List Node) → Except Failure (Option String)
  | [] => .ok none
  | (test, body) :: branches => do
    if ← (← test.value call).truth then some <$> render call body
    else renderBranches call branches

/-- The text of nodes. -/
def render (call : Record.Call) : List Node → Except Failure String
  | [] => .ok ""
  | node :: rest => do
    let text ← node.render call
    return text ++ (← render call rest)

end

end ClientGen.Template
