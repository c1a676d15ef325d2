import ClientGen.Text.Hexadecimal
import ClientGen.Text.Utf8
import ClientGen.Yaml.Cursor
import ClientGen.Yaml.Fault
import ClientGen.Yaml.Token

/-!
# Directives, anchors and tags

The tokens that are words with a mark in front.
-/

set_option autoImplicit false
set_option relaxedAutoImplicit false

namespace ClientGen.Yaml

open ClientGen.Text

/-- Whether a character can stand in a tag. -/
def isTagChar (c : Char) : Bool :=
  c.isAlphanum || "-;/?:@&=+$,_.!~*\x27()[]%".toList.contains c

/-- The bytes written as percent signs with two hexadecimal digits. -/
def percentBytes : List Char → Except Fault (List UInt8 × List Char)
  | '%' :: a :: b :: rest => do
    match hexNumber? [a, b] with
    | none => throw .badTag
    | some n =>
      let (bytes, rest) ← percentBytes rest
      return (n.toUInt8 :: bytes, rest)
  | '%' :: _ => .error .badTag
  | rest => .ok ([], rest)

/-- Resolves the percent signs of a tag. -/
def unescapeTag : Nat → List Char → Except Fault (List Char)
  | 0, _ => .ok []
  | _ + 1, [] => .ok []
  | fuel + 1, c :: rest =>
    if c = '%' then do
      let (bytes, rest) ← percentBytes (c :: rest)
      match Utf8.decode? bytes with
      | none => throw .badTag
      | some text => return text ++ (← unescapeTag fuel rest)
    else do return c :: (← unescapeTag fuel rest)

/-- The text of a tag or of its start, and the cursor behind it. -/
def readTagText (cursor : Cursor) : Except Fault (String × Cursor) := do
  let (written, cursor) := cursor.span isTagChar
  if written.isEmpty then throw .badTag
  let text ← unescapeTag (written.length + 1) written
  return (String.ofList text, cursor)

/-- A tag handle, from one exclamation mark to another or to its end, and the cursor behind it. -/
def readHandle (cursor : Cursor) : Except Fault (String × Cursor) := do
  match cursor.rest with
  | '!' :: rest =>
    let name := rest.takeWhile isNameChar
    match rest.drop name.length with
    | '!' :: _ => return (String.ofList ('!' :: name ++ ['!']), cursor.skip (name.length + 2))
    | ' ' :: _ => if name.isEmpty then return ("!", cursor.next) else throw .badTag
    | _ => throw .badTag
  | _ => throw .badTag

/-- A tag, at its exclamation mark, and the cursor behind it. -/
def readTag (cursor : Cursor) : Except Fault (Token × Cursor) := do
  let inner := cursor.next
  let (tag, cursor) ← match inner.rest with
    | '<' :: _ => do
      let (suffix, cursor) ← readTagText inner.next
      match cursor.rest with
      | '>' :: _ => pure (TagText.mk none suffix, cursor.next)
      | _ => throw .badTag
    | rest => do
      if atWordEnd rest then pure (TagText.mk none "!", inner)
      else if (rest.takeWhile fun c ↦ !(c = ' ' || isBreak c)).contains '!' then do
        let (handle, cursor) ← readHandle cursor
        let (suffix, cursor) ← readTagText cursor
        pure (TagText.mk (some handle) suffix, cursor)
      else do
        let (suffix, cursor) ← readTagText inner
        pure (TagText.mk (some "!") suffix, cursor)
  if atGap cursor.rest then return (.tag tag, cursor) else throw .badTag

/-- The name of an anchor or an alias, at its mark, and the cursor behind it. -/
def readAnchorName (cursor : Cursor) : Except Fault (String × Cursor) := do
  let (name, cursor) := cursor.next.span isNameChar
  if name.isEmpty then throw .badAnchor
  if atWordEnd cursor.rest || cursor.rest.head?.any "?:,]\x7d%@\x60".toList.contains then
    return (String.ofList name, cursor)
  else throw .badAnchor

/-- The number that decimal digits write. -/
def decimal (digits : List Char) : Nat :=
  digits.foldl (fun n c ↦ n * 10 + (c.toNat - 48)) 0

/-- The body of a version directive, and the cursor behind it. -/
def readVersion (cursor : Cursor) : Except Fault (Token × Cursor) := do
  let (major, cursor) := cursor.skipSpaces.span Char.isDigit
  match cursor.rest with
  | '.' :: _ =>
    let (minor, cursor) := cursor.next.span Char.isDigit
    if major.isEmpty || minor.isEmpty || !atGap cursor.rest then throw .badDirective
    return (.versionDirective (decimal major), cursor)
  | _ => throw .badDirective

/-- The body of a tag directive, and the cursor behind it. -/
def readTagDirective (cursor : Cursor) : Except Fault (Token × Cursor) := do
  let (handle, cursor) ← readHandle cursor.skipSpaces
  if cursor.rest.head? ≠ some ' ' then throw .badDirective
  let (pattern, cursor) ← readTagText cursor.skipSpaces
  if !atGap cursor.rest then throw .badDirective
  return (.tagDirective handle pattern, cursor)

/-- A directive, at its percent sign, and the cursor behind its line. -/
def readDirective (cursor : Cursor) : Except Fault (Token × Cursor) := do
  let (name, cursor) := cursor.next.span isNameChar
  if name.isEmpty || !atGap cursor.rest then throw .badDirective
  let (token, cursor) ←
    if name = "YAML".toList then readVersion cursor
    else if name = "TAG".toList then readTagDirective cursor
    else pure (.otherDirective, (cursor.span fun c ↦ !isBreak c).2)
  let cursor := cursor.skipSpaces.skipComment
  match cursor.lineEnd? with
  | some (_, cursor) => return (token, cursor)
  | none => if cursor.rest.isEmpty then return (token, cursor) else throw .badDirective

end ClientGen.Yaml
