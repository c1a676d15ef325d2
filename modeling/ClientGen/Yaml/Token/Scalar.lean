import ClientGen.Yaml.Token.Word

/-!
# Scalars

The three kinds of scalars: plain, quoted and block. A single line end inside a plain or quoted
scalar is folded into a space, and further ones are kept. A block scalar keeps its lines, or folds
them in the same way, and its header says what becomes of the line ends behind it.
-/

set_option autoImplicit false
set_option relaxedAutoImplicit false

namespace ClientGen.Yaml

open ClientGen.Text

/-- A line end with further ones behind it, folded. -/
def folded (lineEnd : Char) (further : List Char) : List Char :=
  (if lineEnd ≠ '\n' then [lineEnd] else if further.isEmpty then [' '] else []) ++ further

/-! ### Plain scalars -/

/-- The characters of a plain scalar up to the next blank or to the mark that ends it. -/
def plainRun (flow : Bool) : List Char → List Char
  | [] => []
  | c :: rest =>
    if isSpace c || isBreak c then []
    else if c = ':' &&
        (atWordEnd rest || flow && rest.head?.any ",[]\x7b\x7d".toList.contains) then []
    else if flow && ",?[]\x7b\x7d".toList.contains c then []
    else c :: plainRun flow rest

/-- The line ends and spaces in front, up to a document mark: the line ends, and whether a mark
follows. -/
def plainBreaks : Nat → Cursor → List Char × Bool × Cursor
  | 0, cursor => ([], false, cursor)
  | fuel + 1, cursor =>
    if cursor.rest.head? = some ' ' then plainBreaks fuel cursor.next
    else match cursor.lineEnd? with
      | none => ([], false, cursor)
      | some (c, cursor) =>
        if atMark cursor.rest then ([c], true, cursor)
        else
          let (more, mark, cursor) := plainBreaks fuel cursor
          (c :: more, mark, cursor)

/-- The blanks behind a part of a plain scalar: what they add to it if the scalar goes on, whether
they hold a line end, and the cursor behind them. -/
def plainGap (cursor : Cursor) : List Char × Bool × Cursor :=
  let (blanks, cursor) := cursor.span (· = ' ')
  match cursor.lineEnd? with
  | none => (blanks, false, cursor)
  | some (c, cursor) =>
    if atMark cursor.rest then ([], true, cursor)
    else
      let (further, mark, cursor) := plainBreaks (cursor.rest.length + 1) cursor
      (if mark then [] else folded c further, true, cursor)

/-- A plain scalar from a part of it on: its text, whether it ends behind a line end, and the cursor
behind it. -/
def readPlain (flow : Bool) (indent : Int) :
    Nat → Cursor → Bool → List Char → List Char × Bool × Cursor
  | 0, cursor, crossed, _ => ([], crossed, cursor)
  | fuel + 1, cursor, crossed, gap =>
    match cursor.rest.head?, plainRun flow cursor.rest with
    | some '#', _ | _, [] => ([], crossed, cursor)
    | _, part =>
      let (next, crossed, cursor) := plainGap (cursor.skip part.length)
      if next.isEmpty || (!flow && cursor.column < indent) then (gap ++ part, crossed, cursor)
      else
        let (more, crossed, cursor) := readPlain flow indent fuel cursor crossed next
        (gap ++ part ++ more, crossed, cursor)

/-! ### Quoted scalars -/

/-- The line ends in front, with the blanks around them skipped. -/
def quotedBreaks : Nat → Cursor → Except Fault (List Char × Cursor)
  | 0, cursor => .ok ([], cursor)
  | fuel + 1, cursor => do
    if atMark cursor.rest then throw .unclosedQuote
    let (_, cursor) := cursor.span isSpace
    match cursor.lineEnd? with
    | none => return ([], cursor)
    | some (c, cursor) =>
      let (more, cursor) ← quotedBreaks fuel cursor
      return (c :: more, cursor)

/-- The character that a letter behind a backslash stands for. -/
def escaped? : Char → Option Char
  | '0' => some '\x00'
  | 'a' => some '\x07'
  | 'b' => some '\x08'
  | 't' => some '\t'
  | '\t' => some '\t'
  | 'n' => some '\n'
  | 'v' => some '\x0b'
  | 'f' => some '\x0c'
  | 'r' => some '\r'
  | 'e' => some '\x1b'
  | ' ' => some ' '
  | '\x22' => some '\x22'
  | '\\' => some '\\'
  | '/' => some '/'
  | 'N' => some '\x85'
  | '_' => some '\u00a0'
  | 'L' => some '\u2028'
  | 'P' => some '\u2029'
  | _ => none

/-- The number of hexadecimal digits behind a letter behind a backslash. -/
def codeLength? : Char → Option Nat
  | 'x' => some 2
  | 'u' => some 4
  | 'U' => some 8
  | _ => none

/-- What follows a backslash: the characters it stands for, and the cursor behind it. -/
def readEscape (cursor : Cursor) : Except Fault (List Char × Cursor) :=
  match cursor.rest with
  | [] => .error .badEscape
  | c :: rest =>
    match escaped? c, codeLength? c with
    | some c, _ => .ok ([c], cursor.next)
    | none, some length =>
      let digits := rest.take length
      match hexNumber? digits with
      | some n =>
        if digits.length ≠ length then .error .badEscape
        else if n.isValidChar then .ok ([Char.ofNat n], cursor.skip (length + 1))
        else .error (.noCharacter n)
      | none => .error .badEscape
    | none, none =>
      match cursor.lineEnd? with
      | some (_, cursor) => quotedBreaks (cursor.rest.length + 1) cursor
      | none => .error .badEscape

/-- A quoted scalar from behind its opening quote on, and the cursor behind its closing one. -/
def readQuoted (double : Bool) : Nat → Cursor → Except Fault (List Char × Cursor)
  | 0, _ => .error .unclosedQuote
  | fuel + 1, cursor => do
    match cursor.rest with
    | [] => throw .unclosedQuote
    | c :: rest =>
      if c = (if double then '\x22' else '\x27') then
        if !double && rest.head? = some '\x27' then
          let (more, cursor) ← readQuoted double fuel (cursor.skip 2)
          return (c :: more, cursor)
        else return ([], cursor.next)
      else if double && c = '\\' then
        let (part, cursor) ← readEscape cursor.next
        let (more, cursor) ← readQuoted double fuel cursor
        return (part ++ more, cursor)
      else if isSpace c || isBreak c then
        let (blanks, cursor) := cursor.span isSpace
        match cursor.lineEnd? with
        | none =>
          let (more, cursor) ← readQuoted double fuel cursor
          return (blanks ++ more, cursor)
        | some (c, cursor) =>
          let (further, cursor) ← quotedBreaks (cursor.rest.length + 1) cursor
          let (more, cursor) ← readQuoted double fuel cursor
          return (folded c further ++ more, cursor)
      else
        let (more, cursor) ← readQuoted double fuel cursor.next
        return (c :: more, cursor)

/-! ### Block scalars -/

/-- What a block scalar does with the line ends behind it: keep one, none, or all of them. -/
inductive Chomping
  | clip | strip | keep
  deriving DecidableEq, Repr

/-- The chomping that a sign asks for. -/
def chomping? : Char → Option Chomping
  | '+' => some .keep
  | '-' => some .strip
  | _ => none

/-- The indentation that a digit asks for. -/
def indentation? (c : Char) : Except Fault (Option Nat) :=
  if c = '0' then .error .badBlockHeader
  else if c.isDigit then .ok (some (c.toNat - 48)) else .ok none

/-- The chomping and the indentation of a header, in either order, and the cursor behind its line.
-/
def readHeader (cursor : Cursor) : Except Fault (Chomping × Option Nat × Cursor) := do
  let digit (cursor : Cursor) : Except Fault (Option Nat × Cursor) := do
    match cursor.rest with
    | c :: _ => do
      match ← indentation? c with
      | some n => return (some n, cursor.next)
      | none => return (none, cursor)
    | [] => return (none, cursor)
  let sign (cursor : Cursor) : Option Chomping × Cursor :=
    match cursor.rest.head?.bind chomping? with
    | some chomping => (some chomping, cursor.next)
    | none => (none, cursor)
  let (chomping, increment, cursor) ← match sign cursor with
    | (some chomping, cursor) => do
      let (increment, cursor) ← digit cursor
      pure (some chomping, increment, cursor)
    | (none, cursor) => do
      let (increment, cursor) ← digit cursor
      let (chomping, cursor) := if increment.isSome then sign cursor else (none, cursor)
      pure (chomping, increment, cursor)
  if !atGap cursor.rest then throw .badBlockHeader
  let cursor := cursor.skipSpaces.skipComment
  match cursor.lineEnd? with
  | some (_, cursor) => return (chomping.getD .clip, increment, cursor)
  | none =>
    if cursor.rest.isEmpty then return (chomping.getD .clip, increment, cursor)
    else throw .badBlockHeader

/-- The empty lines in front of a block, the widest column in them, and the cursor behind them. -/
def blockStart : Nat → Nat → Cursor → List Char × Nat × Cursor
  | 0, width, cursor => ([], width, cursor)
  | fuel + 1, width, cursor =>
    if cursor.rest.head? = some ' ' then
      blockStart fuel (max width cursor.next.column) cursor.next
    else match cursor.lineEnd? with
      | none => ([], width, cursor)
      | some (c, cursor) =>
        let (more, width, cursor) := blockStart fuel width cursor
        (c :: more, width, cursor)

/-- The cursor behind the spaces in front, up to a column. -/
def skipIndent (indent : Nat) : Nat → Cursor → Cursor
  | 0, cursor => cursor
  | fuel + 1, cursor =>
    if cursor.column < indent && cursor.rest.head? = some ' ' then
      skipIndent indent fuel cursor.next
    else cursor

/-- The empty lines of a block in front, and the cursor behind the indentation that follows. -/
def blockBreaks (indent : Nat) : Nat → Cursor → List Char × Cursor
  | 0, cursor => ([], cursor)
  | fuel + 1, cursor =>
    let cursor := skipIndent indent indent cursor
    match cursor.lineEnd? with
    | none => ([], cursor)
    | some (c, cursor) =>
      let (more, cursor) := blockBreaks indent fuel cursor
      (c :: more, cursor)

/-- The lines of a block, each after the empty lines in front of it, and the cursor behind them. -/
def readLines (isFolded : Bool) (chomping : Chomping) (indent : Nat) :
    Nat → List Char → Cursor → List Char × Cursor
  | 0, _, cursor => ([], cursor)
  | fuel + 1, breaks, cursor =>
    let (line, afterLine) := cursor.span fun c ↦ !isBreak c
    let (lineEnd, cursor) := match afterLine.lineEnd? with
      | some (c, cursor) => ([c], cursor)
      | none => ([], afterLine)
    let (further, cursor) := blockBreaks indent (cursor.rest.length + 1) cursor
    let text := breaks ++ line
    if cursor.column = indent && !cursor.rest.isEmpty then
      let joint :=
        if isFolded && lineEnd = ['\n'] && !line.head?.any isSpace && !cursor.rest.head?.any isSpace
        then if further.isEmpty then [' '] else []
        else lineEnd
      let (more, cursor) := readLines isFolded chomping indent fuel further cursor
      (text ++ joint ++ more, cursor)
    else
      let ending := match chomping with
        | .clip => lineEnd
        | .strip => []
        | .keep => lineEnd ++ further
      (text ++ ending, cursor)

/-- A block scalar, at its mark, inside the given indentation, and the cursor behind it. -/
def readBlock (isFolded : Bool) (outer : Int) (cursor : Cursor) :
    Except Fault (String × Cursor) := do
  let (chomping, increment, cursor) ← readHeader cursor.next
  let least := max 1 (outer + 1).toNat
  let fuel := cursor.rest.length + 1
  let (breaks, indent, cursor) := match increment with
    | some n =>
      let indent := least + n - 1
      let (breaks, cursor) := blockBreaks indent fuel cursor
      (breaks, indent, cursor)
    | none =>
      let (breaks, width, cursor) := blockStart fuel 0 cursor
      (breaks, max least width, cursor)
  if cursor.column = indent && !cursor.rest.isEmpty then
    let (text, cursor) := readLines isFolded chomping indent fuel breaks cursor
    return (String.ofList text, cursor)
  else return (String.ofList (if chomping = .keep then breaks else []), cursor)

end ClientGen.Yaml
