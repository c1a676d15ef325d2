import ClientGen.Script.Fault
import ClientGen.Script.Kind
import ClientGen.Text.Counted
import ClientGen.Text.Quoted

/-!
# Values of scripts

What expressions stand for, how values are shown, the variables a script leaves behind, and the
errors it can raise.
-/

set_option autoImplicit false
set_option relaxedAutoImplicit false

namespace ClientGen.Script

open ClientGen.Text

/-- A function, with the name it shows in messages and the calls around its definition, the
innermost first. -/
structure Function where
  name : String
  parameters : List String
  rest : Option String
  body : List Stmt
  globals : List String
  enclosing : List Nat
  deriving Repr

/-- The values of expressions. A tuple holds the further arguments of a call, and the library what
every script can use without defining it. Any other value is known by its type and how it is shown.
-/
inductive Value
  | text (text : String)
  | number (value : Int)
  | flag (value : Bool)
  | nothing
  | list (items : List Value)
  | tuple (items : List Value)
  | function (function : Function)
  | kind (sort : Kind)
  | error (sort : Kind) (arguments : List Value)
  | library
  | other (type shown : String)
  deriving Repr

namespace Value

/-- The name of the type of a value. -/
def typeName : Value → String
  | .text _ => "str"
  | .number _ => "int"
  | .flag _ => "bool"
  | .nothing => "NoneType"
  | .list _ => "list"
  | .tuple _ => "tuple"
  | .function _ => "function"
  | .kind _ => "type"
  | .error sort _ => sort.name
  | .library => "dict"
  | .other type _ => type

/-- Whether a value can be called. -/
def isCallable : Value → Bool
  | .function _ | .kind _ => true
  | _ => false

/-- What a message calls the owner of an attribute. -/
def owner : Value → String
  | .kind sort => "type object " ++ quoted sort.name
  | value => quoted value.typeName ++ " object"

mutual

/-- A value as it is shown inside another one. -/
def shown : Value → String
  | .text s => quoted s
  | .number n => toString n
  | .flag true => "True"
  | .flag false => "False"
  | .nothing => "None"
  | .list items => "[" ++ ", ".intercalate (shownAll items) ++ "]"
  | .tuple items => tupleText (shownAll items)
  | .function f => "<function " ++ f.name ++ ">"
  | .kind sort => "<class " ++ quoted sort.name ++ ">"
  | .error sort arguments => sort.name ++ "(" ++ ", ".intercalate (shownAll arguments) ++ ")"
  | .library => "\x7b...\x7d"
  | .other _ shown => shown

/-- Values as they are shown inside another one. -/
def shownAll : List Value → List String
  | [] => []
  | value :: rest => value.shown :: shownAll rest

end

mutual

/-- A value as a text by itself. -/
def print : Value → String
  | .text s => s
  | .error sort arguments => printError sort arguments
  | value => value.shown

/-- The message of an error made from arguments. A single argument is the message; it is shown as
inside another value if it is a missing key. -/
def printError (sort : Kind) : List Value → String
  | [] => if sort.isUnreadable then "None" else ""
  | [argument] => if sort.name = "KeyError" then argument.shown else argument.print
  | arguments => tupleText (shownAll arguments)

end

end Value

mutual

/-- The value of a literal. -/
def Literal.value : Literal → Value
  | .text s => .text s
  | .number n => .number n
  | .flag b => .flag b
  | .nothing => .nothing
  | .list items => .list (literalValues items)
  | .other type shown => .other type shown

/-- The values of literals. -/
def literalValues : List Literal → List Value
  | [] => []
  | item :: rest => item.value :: literalValues rest

end

/-- What the library has under a name: three fixed values, and the kinds of errors. -/
def libraryValue? : String → Option Value
  | "None" => some .nothing
  | "True" => some (.flag true)
  | "False" => some (.flag false)
  | name => (Kind.named? name).map .kind

/-- Variables by name. -/
abbrev Bindings := List (String × Value)

namespace Bindings

/-- The value of a variable. -/
def get? (bindings : Bindings) (name : String) : Option Value :=
  bindings.lookup name

/-- Removes a variable. -/
def erase (bindings : Bindings) (name : String) : Bindings :=
  bindings.filter fun (other, _) ↦ other ≠ name

/-- Sets a variable. -/
def set (bindings : Bindings) (name : String) (value : Value) : Bindings :=
  (name, value) :: bindings.erase name

/-- The variables before a script runs. -/
def fresh : Bindings :=
  [("__name__", .text "pb2ts_override")]

/-- The name of the library. -/
def libraryName : String :=
  "__builtins__"

/-- The variables with the library among them, unless its name is taken. -/
def withLibrary (bindings : Bindings) : Bindings :=
  match bindings.get? libraryName with
  | some _ => bindings
  | none => bindings.set libraryName .library

/-- The names in order, without those that start with two underscores. -/
def names (bindings : Bindings) : List String :=
  ((bindings.map (·.1)).filter fun name ↦ !name.startsWith "__").mergeSort (· ≤ ·)

end Bindings

/-- The errors of scripts. A script raises `thrown` itself, all others come from a faulty step.
Calls that are nested too deep differ in whether the last one is of a function. -/
inductive Raised
  | thrown (kind : Kind) (message : String)
  | unreadable (fault : Fault) (place : String) (line : Nat)
  | unknownName (name : String)
  | unboundLocal (name : String)
  | unboundOutside (name : String)
  | notCallable (type : String)
  | tooMany (function : String) (allowed given : Nat)
  | tooFew (function : String) (missing : List String)
  | notExactly (owner : String) (needed given : Nat)
  | notText (index : Nat) (type : String)
  | noMethod (owner method : String)
  | noError
  | tooDeep (function : Bool)
  deriving DecidableEq, Repr

/-- What follows the last slash of a place. -/
def lastPart (place : String) : String :=
  String.ofList (place.toList.reverse.takeWhile (· ≠ '/')).reverse

namespace Raised

/-- The name of the kind of an error. -/
def kindName : Raised → String
  | thrown kind _ => kind.name
  | unreadable .. => "SyntaxError"
  | unknownName _ | unboundOutside _ => "NameError"
  | unboundLocal _ => "UnboundLocalError"
  | notCallable _ | tooMany .. | tooFew .. | notExactly .. | notText .. | noError => "TypeError"
  | noMethod .. => "AttributeError"
  | tooDeep _ => "RecursionError"

/-- The message of an error. -/
def message : Raised → String
  | thrown _ message => message
  | unreadable fault place line =>
    fault.message ++ " (" ++ lastPart place ++ ", line " ++ toString line ++ ")"
  | unknownName name => "name " ++ quoted name ++ " is not defined"
  | unboundLocal name =>
    "cannot access local variable " ++ quoted name ++ " where it is not associated with a value"
  | unboundOutside name =>
    "cannot access free variable " ++ quoted name ++
      " where it is not associated with a value in enclosing scope"
  | notCallable type => quoted type ++ " object is not callable"
  | tooMany function allowed given =>
    function ++ "() takes " ++ counted allowed "positional argument" ++ " but " ++
      toString given ++ (if given = 1 then " was given" else " were given")
  | tooFew function missing =>
    function ++ "() missing " ++ counted missing.length "required positional argument" ++ ": " ++
      enumerated missing
  | notExactly owner needed given =>
    owner ++ " takes exactly " ++ counted needed "argument" ++ " (" ++ toString given ++ " given)"
  | notText index type =>
    "sequence item " ++ toString index ++ ": expected str instance, " ++ type ++ " found"
  | noMethod owner method => owner ++ " has no attribute " ++ quoted method
  | noError => "exceptions must derive from BaseException"
  | tooDeep function =>
    "maximum recursion depth exceeded" ++ if function then "" else " while calling a Python object"

/-- The kind and the message of an error. -/
def text (raised : Raised) : String :=
  raised.kindName ++ ": " ++ raised.message

/-- The kind and the message of an error that ends the whole program. -/
def ending? : Raised → Option (Kind × String)
  | thrown kind message => if kind.endsProgram then some (kind, message) else none
  | _ => none

end Raised

end ClientGen.Script
