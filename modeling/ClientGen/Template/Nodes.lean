import ClientGen.Template.Expression

/-!
# Nodes of a template

`ofPieces` turns pieces into nodes: the tags `if`, `elif`, `else` and `endif` open, split and close
choices, which may be nested. The tests may end in a colon. A filter that nodes do not have is
refused outside a choice; inside one it fails when it is used.
-/

set_option autoImplicit false
set_option relaxedAutoImplicit false

namespace ClientGen.Template

/-- A choice that is still open: its finished branches, the test of the current branch unless that
is the last part, and the nodes read before the choice. -/
structure OpenChoice where
  branches : List (Expr × List Node)
  test : Option Expr
  before : List Node

/-- The choice with its current branch finished. -/
def OpenChoice.close (choice : OpenChoice) (body : List Node) : Node :=
  match choice.test with
  | some test => .choose (choice.branches ++ [(test, body)]) []
  | none => .choose choice.branches body

/-- Whether nothing but a colon is left of a tag. -/
def atTagEnd : List Token → Bool
  | [] | [.colon] => true
  | _ => false

/-- The test of a branch, which is the whole rest of its tag. -/
def readTest (tokens : List Token) : Except Fault Expr := do
  let (test, rest) ← expression tokens
  if atTagEnd rest then return test else throw .badExpression

/-- The expression of a printed piece, which is the whole piece. -/
def readPrinted (inChoice : Bool) (tokens : List Token) : Except Fault Expr := do
  match ← expression tokens with
  | (body, []) => if body.hasUnknownFilter && !inChoice then throw .unknownFilter else return body
  | _ => throw .badExpression

/-- Reads pieces, with the choices around them, the innermost first, and the nodes read so far in
the current branch. -/
def readNodes : List OpenChoice → List Node → List Piece → Except Fault (List Node)
  | [], nodes, [] => .ok nodes
  | _ :: _, _, [] => .error .unclosedChoice
  | choices, nodes, .text text :: rest =>
    readNodes choices (nodes ++ [.text (String.ofList text)]) rest
  | choices, nodes, .print tokens :: rest => do
    let body ← readPrinted (!choices.isEmpty) tokens
    readNodes choices (nodes ++ [.print body]) rest
  | choices, nodes, .tag (.word "if" :: tokens) :: rest => do
    let test ← readTest tokens
    readNodes (⟨[], some test, nodes⟩ :: choices) [] rest
  | ⟨branches, some test, before⟩ :: choices, nodes, .tag (.word "elif" :: tokens) :: rest => do
    let next ← readTest tokens
    readNodes (⟨branches ++ [(test, nodes)], some next, before⟩ :: choices) [] rest
  | ⟨branches, some test, before⟩ :: choices, nodes, .tag (.word "else" :: tokens) :: rest =>
    if atTagEnd tokens then
      readNodes (⟨branches ++ [(test, nodes)], none, before⟩ :: choices) [] rest
    else .error .badExpression
  | choice :: choices, nodes, .tag [.word "endif"] :: rest =>
    readNodes choices (choice.before ++ [choice.close nodes]) rest
  | _, _, .tag _ :: _ => .error .unknownTag

/-- The nodes of a template. -/
def read (source : String) : Except Fault (List Node) := do
  readNodes [] [] (← pieces source)

end ClientGen.Template
