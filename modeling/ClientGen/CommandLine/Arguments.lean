import ClientGen.Text.Digit
import ClientGen.Text.Quoted
import ClientGen.Text.Splice

/-!
# Arguments of a command line

`read` tells flags from other arguments and gives every flag its value. A long flag may be shortened
to any start that no other flag shares. A value may follow an equals sign, or, for a short flag, its
letter; what follows a short flag without a value are further short flags. Behind two dashes nothing
is a flag. The flags are answered in order, up to the first fault; one other argument is taken at
most, the rest are left over.
-/

set_option autoImplicit false
set_option relaxedAutoImplicit false

namespace ClientGen.CommandLine

open ClientGen.Text

/-- A flag by its names, with what it means. -/
structure Flag (α : Type) where
  names : List String
  takesValue : Bool
  meaning : α

/-- Why a command line is refused. -/
inductive UsageError
  | ambiguous (written : String) (candidates : List String)
  | expectedValue (names : List String)
  | ignoredValue (names : List String) (value : String)
  | unrecognized (arguments : List String)
  deriving DecidableEq, Repr

/-- The report of a refusal. -/
def UsageError.message : UsageError → String
  | ambiguous written candidates =>
    "ambiguous option: " ++ written ++ " could match " ++ ", ".intercalate candidates
  | expectedValue names => "argument " ++ "/".intercalate names ++ ": expected one argument"
  | ignoredValue names value =>
    "argument " ++ "/".intercalate names ++ ": ignored explicit argument " ++ quoted value
  | unrecognized arguments => "unrecognized arguments: " ++ " ".intercalate arguments

/-- An argument: a flag with the name it is found by and the text attached to it, something that
looks like a flag and is none, the two dashes, or any other. -/
inductive Argument (α : Type)
  | flag (flag : Flag α) (name : String) (attached : Option String)
  | unknown (text : String)
  | dashes
  | plain (text : String)

/-- The names of flags, in order, with their flags. -/
def namesOf {α : Type} (flags : List (Flag α)) : List (String × Flag α) :=
  flags.flatMap fun flag ↦ flag.names.map fun name ↦ (name, flag)

/-- A text up to its first equals sign, and the text behind it. -/
def splitEquals (text : String) : String × Option String :=
  let cs := text.toList
  let name := cs.takeWhile (· ≠ '=')
  (String.ofList name, if name.length = cs.length then none
    else some (String.ofList (cs.drop (name.length + 1))))

/-- Whether a text starts with another one. -/
def startsWith (start text : String) : Bool :=
  start.toList.isPrefixOf text.toList

/-- The flags that a text may stand for if it is no full name. -/
def candidates {α : Type} (flags : List (Flag α)) (text : String) :
    List (Flag α × String × Option String) :=
  if startsWith "--" text then
    let (start, attached) := splitEquals text
    (namesOf flags).filterMap fun (name, flag) ↦
      if startsWith start name then some (flag, name, attached) else none
  else
    let letter := String.ofList (text.toList.take 2)
    (namesOf flags).filterMap fun (name, flag) ↦
      if name = letter then some (flag, name, some (String.ofList (text.toList.drop 2)))
      else if startsWith text name then some (flag, name, none)
      else none

/-- Whether a text is a negative number. A line feed at its end does not count. -/
def isNegativeNumber (text : String) : Bool :=
  let cs := text.toList
  match if cs.getLast? = some '\n' then cs.dropLast else cs with
  | '-' :: rest =>
    let whole := rest.takeWhile isDecimalDigit
    match rest.drop whole.length with
    | [] => !whole.isEmpty
    | '.' :: fraction => !fraction.isEmpty && fraction.all isDecimalDigit
    | _ => false
  | _ => false

/-- What an argument in front of any two dashes is. -/
def classify {α : Type} (flags : List (Flag α)) (text : String) :
    Except UsageError (Argument α) :=
  let byName (name : String) := (namesOf flags).lookup name
  let (start, attached) := splitEquals text
  if !startsWith "-" text then .ok (.plain text)
  else match byName text, text == "-", if attached.isNone then none else byName start with
    | some flag, _, _ => .ok (.flag flag text none)
    | none, true, _ => .ok (.plain text)
    | none, false, some flag => .ok (.flag flag start attached)
    | none, false, none =>
      match candidates flags text with
      | [(flag, name, attached)] => .ok (.flag flag name attached)
      | [] =>
        if isNegativeNumber text || text.toList.contains ' ' then .ok (.plain text)
        else .ok (.unknown text)
      | several => .error (.ambiguous text (several.map fun (_, name, _) ↦ name))

/-- What the arguments are. -/
def classifyAll {α : Type} (flags : List (Flag α)) :
    List String → Except UsageError (List (Argument α))
  | [] => .ok []
  | "--" :: rest => .ok (.dashes :: rest.map .plain)
  | text :: rest => do
    let argument ← classify flags text
    return argument :: (← classifyAll flags rest)

/-- What a flag is given: a text, or an empty list, which two dashes attached to it stand for. -/
inductive Value
  | text (text : String)
  | empty
  deriving DecidableEq, Repr

/-- The text that is given. -/
def Value.text? : Value → Option String
  | text written => some written
  | empty => none

/-- What a text attached to a flag gives it. -/
def Value.ofAttached (text : String) : Value :=
  if text = "--" then empty else .text text

/-- A flag that was given, with its value if it takes one. -/
structure Given (α : Type) where
  meaning : α
  value : Option Value
  deriving DecidableEq, Repr

/-- What one argument stands for: flags in order, the last of them apart if nothing is attached to
it. -/
structure Unfolded (α : Type) where
  given : List (Given α)
  last : Option (Flag α) := none

/-- What a flag with a text attached to it stands for. The text is its value if it takes one.
Otherwise, for a short flag, the first letter is a flag of its own and the rest is attached to that
one. -/
def unfoldAttached {α : Type} (flags : List (Flag α)) (flag : Flag α) (isShort : Bool)
    (attached : List Char) : Except UsageError (Unfolded α) :=
  let written := String.ofList attached
  if flag.takesValue then .ok { given := [⟨flag.meaning, some (.ofAttached written)⟩] }
  else match attached with
    | [] => .error (.ignoredValue flag.names written)
    | letter :: rest =>
      match isShort, (namesOf flags).lookup (String.ofList ['-', letter]) with
      | true, some next => do
        let unfolded ← match rest with
          | [] => .ok { given := [], last := some next }
          | rest => unfoldAttached flags next true rest
        return { unfolded with given := ⟨flag.meaning, none⟩ :: unfolded.given }
      | _, _ => .error (.ignoredValue flag.names written)

/-- What a flag stands for that is found by a name, with what is attached to it. -/
def unfold {α : Type} (flags : List (Flag α)) (flag : Flag α) (name : String) :
    Option String → Except UsageError (Unfolded α)
  | none => .ok { given := [], last := some flag }
  | some attached => unfoldAttached flags flag (!startsWith "--" name) attached.toList

/-- What a command line says: its flags in order, the argument that is none of them, if there is a
place for one, and what is left over. A fault ends it early. -/
structure Reading (α : Type) where
  given : List (Given α) := []
  operand : Option String := none
  left : List String := []
  fault : Option UsageError := none

namespace Reading

/-- Puts flags in front. -/
def withGiven {α : Type} (given : List (Given α)) (reading : Reading α) : Reading α :=
  { reading with given := given ++ reading.given }

/-- Puts something left over in front. -/
def withLeft {α : Type} (text : String) (reading : Reading α) : Reading α :=
  { reading with left := text :: reading.left }

/-- Puts the flags of one argument in front of what is read from the rest. The last of them takes
its value from there if it takes one. -/
def ofUnfolded {α : Type} (unfolded : Unfolded α) (rest : List (Argument α))
    (go : List (Argument α) → Reading α) : Reading α :=
  match unfolded.last with
  | none => (go rest).withGiven unfolded.given
  | some last =>
    if last.takesValue then
      match rest with
      | .plain text :: rest =>
        (go rest).withGiven (unfolded.given ++ [⟨last.meaning, some (.text text)⟩])
      | _ => { fault := some (.expectedValue last.names) }
    else (go rest).withGiven (unfolded.given ++ [⟨last.meaning, none⟩])

end Reading

/-- Reads classified arguments, at most as many as the fuel. `isOpen` tells whether there is a place
for an argument that is no flag. Two dashes next to that argument are dropped. -/
def readClassified {α : Type} (flags : List (Flag α)) :
    Nat → Bool → List (Argument α) → Reading α
  | 0, _, _ => {}
  | _ + 1, _, [] => {}
  | fuel + 1, isOpen, argument :: rest =>
    match argument with
    | .flag flag name attached =>
      match unfold flags flag name attached with
      | .error fault => { fault := some fault }
      | .ok unfolded => Reading.ofUnfolded unfolded rest (readClassified flags fuel isOpen)
    | .unknown text => (readClassified flags fuel isOpen rest).withLeft text
    | .plain text =>
      if isOpen then
        let rest := match rest with
          | .dashes :: rest => rest
          | rest => rest
        { readClassified flags fuel false rest with operand := some text }
      else (readClassified flags fuel false rest).withLeft text
    | .dashes =>
      if isOpen then
        match rest with
        | .plain text :: rest =>
          { readClassified flags fuel false rest with operand := some text }
        | rest => readClassified flags fuel false rest
      else (readClassified flags fuel false rest).withLeft "--"

/-- Reads a command line. -/
def read {α : Type} (flags : List (Flag α)) (takesOperand : Bool) (arguments : List String) :
    Reading α :=
  match classifyAll flags arguments with
  | .error fault => { fault := some fault }
  | .ok classified => readClassified flags classified.length takesOperand classified

end ClientGen.CommandLine
