/-!
# Cursors in a document

A cursor is what is left of a document, with the place where it stands. A character that ends a line
moves it to the start of the next one.
-/

set_option autoImplicit false
set_option relaxedAutoImplicit false

namespace ClientGen.Yaml

/-- Whether a character ends a line. -/
def isBreak (c : Char) : Bool :=
  c = '\n' || c = '\r' || c = '\x85' || c = '\u2028' || c = '\u2029'

/-- Whether a character is a space or a tab. -/
def isSpace (c : Char) : Bool :=
  c = ' ' || c = '\t'

/-- Whether a text is at its end, or at a space, or at the end of a line. -/
def atGap : List Char → Bool
  | [] => true
  | c :: _ => c = ' ' || isBreak c

/-- Whether a text is at its end, or at a space or a tab, or at the end of a line. -/
def atWordEnd : List Char → Bool
  | [] => true
  | c :: _ => isSpace c || isBreak c

/-- Whether a document mark stands here. -/
def atMark : List Char → Bool
  | '-' :: '-' :: '-' :: rest => atWordEnd rest
  | '.' :: '.' :: '.' :: rest => atWordEnd rest
  | _ => false

/-- Whether a character can stand in the name of an anchor or of a tag handle. -/
def isNameChar (c : Char) : Bool :=
  c.isAlphanum || c = '-' || c = '_'

/-- The rest of a document and its place. -/
structure Cursor where
  rest : List Char
  index : Nat := 0
  line : Nat := 0
  column : Nat := 0

namespace Cursor

/-- The cursor behind the next character. A byte order mark takes no column. -/
def next (cursor : Cursor) : Cursor :=
  match cursor.rest with
  | [] => cursor
  | c :: rest =>
    if isBreak c && !(c = '\r' && rest.head? = some '\n') then
      ⟨rest, cursor.index + 1, cursor.line + 1, 0⟩
    else
      ⟨rest, cursor.index + 1, cursor.line,
        if c = '\ufeff' then cursor.column else cursor.column + 1⟩

/-- The cursor behind a number of characters. -/
def skip : Nat → Cursor → Cursor
  | 0, cursor => cursor
  | n + 1, cursor => skip n cursor.next

/-- The characters in front that have a property, and the cursor behind them. -/
def span (p : Char → Bool) (cursor : Cursor) : List Char × Cursor :=
  let taken := cursor.rest.takeWhile p
  (taken, cursor.skip taken.length)

/-- The cursor behind the spaces in front. -/
def skipSpaces (cursor : Cursor) : Cursor :=
  (cursor.span (· = ' ')).2

/-- The line end in front as a text keeps it, and the cursor behind it. The two separators of text
are kept, any other line end is a line feed. -/
def lineEnd? (cursor : Cursor) : Option (Char × Cursor) :=
  match cursor.rest with
  | '\r' :: '\n' :: _ => some ('\n', cursor.skip 2)
  | c :: _ =>
    if c = '\u2028' || c = '\u2029' then some (c, cursor.next)
    else if isBreak c then some ('\n', cursor.next)
    else none
  | [] => none

/-- The cursor behind a comment in front. -/
def skipComment (cursor : Cursor) : Cursor :=
  match cursor.rest with
  | '#' :: _ => (cursor.span fun c ↦ !isBreak c).2
  | _ => cursor

end Cursor

end ClientGen.Yaml
