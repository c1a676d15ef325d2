import ClientGen.Script
import ClientGen.Text.Compatibility
import ClientGen.Text.Name
import ClientGen.Yaml.Members

/-!
# Reading scripts

A script as a document: a list of statements, each a mapping that is told by its first word. What is
no statement cannot be read as a line of the script, nor can a line with a reserved word in place of
a name. Names are read in their compatibility form.
-/

set_option autoImplicit false
set_option relaxedAutoImplicit false

namespace ClientGen.Script

open ClientGen.Text

mutual

/-- The literal that a document gives. -/
def Literal.ofValue : Yaml.Value → Literal
  | .str text => .text text
  | .int value => .number value
  | .bool value => .flag value
  | .null => .nothing
  | .list items => .list (literalsOfValues items)
  | value => .other value.typeName value.shownInside

/-- The literals that documents give. -/
def literalsOfValues : List Yaml.Value → List Literal
  | [] => []
  | value :: rest => .ofValue value :: literalsOfValues rest

end

/-- The words that always stand for the same value. -/
def fixedWords : List String :=
  ["False", "None", "True"]

/-- The words that are no names. -/
def reservedWords : List String := [
  "and", "as", "assert", "async", "await", "break", "class", "continue", "def", "del", "elif",
  "else", "except", "finally", "for", "from", "global", "if", "import", "in", "is", "lambda",
  "nonlocal", "not", "or", "pass", "raise", "return", "try", "while", "with", "yield"]

/-- Whether a character ends what could be a name. -/
def endsWord (c : Char) : Bool :=
  c.toNat < 0x80 && !continuesName c

/-- What is wrong with the characters of a name. -/
def characterFault? : List Char → Option LineFault
  | [] => some .noStatement
  | c :: rest =>
    if (c :: rest).any endsWord || c.isDigit then some .noStatement
    else if startsName c then (rest.find? fun d ↦ !continuesName d).map .badCharacter
    else some (.badCharacter c)

/-- A name where a value is read. -/
def readName (written : String) : Except LineFault String :=
  if reservedWords.contains written then .error .noStatement
  else match characterFault? written.toList with
    | some fault => .error fault
    | none => .ok (String.ofList (compatible written.toList))

/-- A name that is set, where one that always stands for the same is refused. -/
def readVariable (refusal : String → LineFault) (written : String) : Except LineFault String :=
  if fixedWords.contains written then .error (refusal written) else readName written

/-- A name in the header of a function. -/
def readHeaderName : String → Except LineFault String :=
  readVariable fun _ ↦ .noStatement

/-- The member of a mapping with a name, null or not. -/
def memberOrNull? (value : Yaml.Value) (name : String) : Option Yaml.Value :=
  match value with
  | .map entries => (entries.find? fun (key, _) ↦ key.sameKey (.str name)).map (·.2)
  | _ => none

/-- The expression that a document gives, nested up to a depth. -/
def Expr.ofValue : Nat → Yaml.Value → Except LineFault Expr
  | 0, _ => .ok (.literal .nothing)
  | depth + 1, value =>
    match value, memberOrNull? value "lit", value.textAt? "name", value.member? "upper",
      value.member? "lower" with
    | .list items, _, _, _, _ => .concat <$> items.mapM (Expr.ofValue depth)
    | _, some found, _, _, _ => .ok (.literal (.ofValue found))
    | _, _, some found, _, _ => .name <$> readName found
    | _, _, _, some body, _ => .upper <$> Expr.ofValue depth body
    | _, _, _, _, some body => .lower <$> Expr.ofValue depth body
    | _, _, _, _, _ => do
      let callee ← readName (value.textAt "call")
      return .call callee (← (value.itemsAt "args").mapM (Expr.ofValue depth))

/-- The expression that a document gives. -/
def Expr.ofDocument (value : Yaml.Value) : Except LineFault Expr :=
  Expr.ofValue (value.depth + 1) value

/-- A name without the star that marks the parameter for further arguments. -/
def starred? (name : String) : Option String :=
  match name.toList with
  | '*' :: rest => some (String.ofList rest)
  | _ => none

/-- What a failing statement raises: a kind of errors, called with a message if there is one. -/
def raisedExpr (kind : String) (message : Option String) : Except LineFault Expr := do
  let kind ← readName kind
  match message with
  | none => return .name kind
  | some message => return .call kind [.literal (.text message)]

/-- A definition, given its body. A fault among the globals is one of the first line of the body. -/
def definition (value : Yaml.Value) (name : String) (body : List Stmt) : Except LineFault Stmt := do
  let name ← readHeaderName name
  let written := value.textsAt "params"
  let parameters ← (written.filter fun name ↦ (starred? name).isNone).mapM readHeaderName
  let rest ← (written.findSome? starred?).mapM readHeaderName
  match (value.textsAt "globals").mapM readHeaderName with
  | .ok globals => return .define name parameters rest body globals
  | .error fault => return .define name parameters rest [.broken fault] []

/-- The statement that a document gives, nested up to a depth. -/
def Stmt.ofValue : Nat → Yaml.Value → Stmt
  | 0, _ => .broken .noStatement
  | depth + 1, value =>
    let statement : Except LineFault Stmt :=
      match value.textAt? "def", value.textAt? "set", value.textAt? "del", value.member? "return",
        value.textAt? "raise" with
      | some name, _, _, _, _ =>
        definition value name ((value.itemsAt "body").map (Stmt.ofValue depth))
      | _, some name, _, _, _ => do
        let name ← readVariable .assigned name
        return .assign name (← Expr.ofDocument ((value.member? "to").getD .null))
      | _, _, some name, _, _ => .delete <$> readVariable .deleted name
      | _, _, _, some body, _ => .give <$> Expr.ofDocument body
      | _, _, _, _, some kind => .fail <$> raisedExpr kind (value.textAt? "message")
      | _, _, _, _, _ => .error .noStatement
    match statement with
    | .ok stmt => stmt
    | .error fault => .broken fault

/-- The script that a document gives. -/
def ofValue (value : Yaml.Value) : Script :=
  value.items.map (Stmt.ofValue value.depth)

end ClientGen.Script
