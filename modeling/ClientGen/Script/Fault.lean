import ClientGen.Script
import ClientGen.Text.Hexadecimal
import ClientGen.Text.Unprintable

/-!
# Unreadable scripts

A script is read as a whole before any of it runs. `fault?` is the first fault in it, with its line:
lines that are no statements come before the parameters of functions, and those before values given
outside a function.
-/

set_option autoImplicit false
set_option relaxedAutoImplicit false

namespace ClientGen.Script

/-- Why a script cannot be read: a line is no statement, a parameter has the name of an earlier one
or is listed among the globals, or a value is given outside a function. -/
inductive Fault
  | line (fault : LineFault)
  | sameParameter (name : String)
  | globalParameter (name : String)
  | givenOutside
  deriving DecidableEq, Repr

/-- The report of a faulty line. -/
def LineFault.message : LineFault → String
  | noStatement => "invalid syntax"
  | badCharacter c =>
    let code := "U+" ++ String.ofList ((Text.hexPadded 4 c.toNat).map Char.toUpper)
    if Text.isUnprintable c then "invalid non-printable character " ++ code
    else "invalid character '" ++ c.toString ++ "' (" ++ code ++ ")"
  | assigned name => "cannot assign to " ++ name
  | deleted name => "cannot delete " ++ name

/-- The report of a fault. -/
def Fault.message : Fault → String
  | line fault => fault.message
  | sameParameter name => "duplicate argument '" ++ name ++ "' in function definition"
  | globalParameter name => "name '" ++ name ++ "' is parameter and global"
  | givenOutside => "'return' outside function"

mutual

/-- The first line that is no statement, for a statement that starts at the given line. -/
def Stmt.brokenLine? (line : Nat) : Stmt → Option (Fault × Nat)
  | .define _ _ _ body globals =>
    brokenLine? (line + 1 + (if globals.isEmpty then 0 else 1)) body
  | .broken fault => some (.line fault, line)
  | _ => none

/-- The first line that is no statement, for statements that start at the given line. -/
def brokenLine? (line : Nat) : List Stmt → Option (Fault × Nat)
  | [] => none
  | stmt :: rest => (stmt.brokenLine? line).or (brokenLine? (line + stmt.height) rest)

end

/-- The first name that is among those seen before it. -/
def repeated? (seen : List String) : List String → Option String
  | [] => none
  | name :: rest => if seen.contains name then some name else repeated? (name :: seen) rest

mutual

/-- The first fault of parameters, for a statement that starts at the given line. -/
def Stmt.parameterFault? (line : Nat) : Stmt → Option (Fault × Nat)
  | .define _ parameters rest body globals =>
    let all := parameters ++ rest.toList
    match repeated? [] all, globals.find? all.contains with
    | some name, _ => some (.sameParameter name, line)
    | none, some name => some (.globalParameter name, line + 1)
    | none, none => parameterFault? (line + 1 + (if globals.isEmpty then 0 else 1)) body
  | _ => none

/-- The first fault of parameters, for statements that start at the given line. -/
def parameterFault? (line : Nat) : List Stmt → Option (Fault × Nat)
  | [] => none
  | stmt :: rest => (stmt.parameterFault? line).or (parameterFault? (line + stmt.height) rest)

end

/-- The first line outside functions that gives a value, for statements that start at the given
line. -/
def outsideLine? (line : Nat) : List Stmt → Option Nat
  | [] => none
  | .give _ :: _ => some line
  | stmt :: rest => outsideLine? (line + stmt.height) rest

/-- The first fault of a script, with its line. -/
def fault? (script : Script) : Option (Fault × Nat) :=
  (brokenLine? 1 script).or <| (parameterFault? 1 script).or <|
    (outsideLine? 1 script).map fun line ↦ (.givenOutside, line)

end ClientGen.Script
