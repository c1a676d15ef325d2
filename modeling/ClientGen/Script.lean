/-!
# Scripts

A script is a list of statements that define functions and variables. Clients use scripts to
override how a method is written: the script defines an entry point, which is then called.
-/

set_option autoImplicit false
set_option relaxedAutoImplicit false

namespace ClientGen

namespace Script

/-- The literals of scripts. Any other value is known by its type and how it is shown. -/
inductive Literal
  | text (text : String)
  | number (value : Int)
  | flag (value : Bool)
  | nothing
  | list (items : List Literal)
  | other (type shown : String)
  deriving Inhabited, Repr

/-- The expressions of scripts. A concatenation joins texts. -/
inductive Expr
  | literal (value : Literal)
  | name (name : String)
  | upper (body : Expr)
  | lower (body : Expr)
  | call (callee : String) (arguments : List Expr)
  | concat (parts : List Expr)
  deriving Inhabited, Repr

/-- Why a line is no statement: it makes no sense, it has a character that no name can have, or it
sets or deletes a name that always stands for the same. -/
inductive LineFault
  | noStatement
  | badCharacter (c : Char)
  | assigned (name : String)
  | deleted (name : String)
  deriving DecidableEq, Inhabited, Repr

/-- The statements of scripts. A failing statement raises what its expression stands for, and
`broken` is a line that is no statement. -/
inductive Stmt
  | define (name : String) (parameters : List String) (rest : Option String) (body : List Stmt)
      (globals : List String)
  | assign (name : String) (value : Expr)
  | delete (name : String)
  | give (value : Expr)
  | fail (error : Expr)
  | broken (fault : LineFault)
  deriving Inhabited, Repr

mutual

/-- The number of lines of a statement. A definition has a header, a line for its globals if it has
any, and a body of one line at least. -/
def Stmt.height : Stmt → Nat
  | .define _ _ _ body globals =>
    1 + (if globals.isEmpty then 0 else 1) + max 1 (bodyHeight body)
  | _ => 1

/-- The number of lines of a body. -/
def bodyHeight : List Stmt → Nat
  | [] => 0
  | stmt :: rest => stmt.height + bodyHeight rest

end

end Script

/-- A script. -/
abbrev Script := List Script.Stmt

end ClientGen
