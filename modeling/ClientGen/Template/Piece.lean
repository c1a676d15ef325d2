import ClientGen.Template
import ClientGen.Text.Blank
import ClientGen.Text.Digit
import ClientGen.Text.Hexadecimal
import ClientGen.Text.Lines
import ClientGen.Text.Name
import ClientGen.Text.Splice

/-!
# Pieces of a template

`pieces` cuts a template into plain text, printed expressions and tags, the latter two as tokens.
Comments are dropped, and text between raw tags is kept as it is. A minus sign inside the opening of
a piece drops the blanks before it, one inside the closing the blanks after it. Line ends count as
line feeds.
-/

set_option autoImplicit false
set_option relaxedAutoImplicit false

namespace ClientGen.Template

open ClientGen.Text

/-- The tokens of expressions and tags. -/
inductive Token
  | word (name : String)
  | text (text : String)
  | number (value : Nat)
  | dot | pipe | comma | colon | openParen | closeParen | tilde | equal | different
  deriving DecidableEq, Repr

/-- A piece of a template. -/
inductive Piece
  | text (text : List Char)
  | print (tokens : List Token)
  | tag (tokens : List Token)
  deriving DecidableEq, Repr

/-- The character that a letter after a backslash stands for. -/
def escapedChar? : Char → Option Char
  | 'n' => some '\n'
  | 't' => some '\t'
  | 'r' => some '\r'
  | 'a' => some '\x07'
  | 'b' => some '\x08'
  | 'f' => some '\x0c'
  | 'v' => some '\x0b'
  | '\\' => some '\\'
  | '\x27' => some '\x27'
  | '\x22' => some '\x22'
  | _ => none

/-- The value of an octal digit. -/
def octalDigit? (c : Char) : Option Nat :=
  if '0' ≤ c && c ≤ '7' then some (c.toNat - 48) else none

/-- The number of hexadecimal digits that belong to a letter after a backslash. -/
def codeWidth? : Char → Option Nat
  | 'x' => some 2
  | 'u' => some 4
  | 'U' => some 8
  | _ => none

/-- What an escape stands for and what follows it. The letters `x`, `u` and `U` take the code of a
character in hexadecimal, and a digit takes at most three digits of its code in octal. A backslash
before a line end joins the lines; before any other character it stands for itself, and that
character, if it is not an ASCII one, for its code. Names of characters are refused. -/
def readEscape (c : Char) (rest : List Char) : Except Fault (List Char × List Char) :=
  match escapedChar? c, codeWidth? c with
  | some meant, _ => .ok ([meant], rest)
  | none, some width =>
    match hexChar? (rest.take width) with
    | some meant =>
      if width ≤ rest.length then .ok ([meant], rest.drop width) else .error .badEscape
    | none => .error .badEscape
  | none, none =>
    let octal := ((c :: rest).take 3).takeWhile fun d ↦ (octalDigit? d).isSome
    if c = 'N' then .error .badEscape
    else if c = '\n' then .ok ([], rest)
    else if 0x80 ≤ c.toNat then .ok ('\\' :: hexCode c, rest)
    else if octal = [] then .ok (['\\', c], rest)
    else .ok ([Char.ofNat ((octal.filterMap octalDigit?).foldl (fun n d ↦ n * 8 + d) 0)],
      (c :: rest).drop octal.length)

/-- Resolves the escapes of a literal. Each step takes a character at least, so as much fuel as
there are characters is enough. -/
def unescapeWith : Nat → List Char → Except Fault (List Char)
  | 0, _ => .ok []
  | _, [] => .ok []
  | fuel + 1, '\\' :: c :: rest => do
    let (meant, rest) ← readEscape c rest
    return meant ++ (← unescapeWith fuel rest)
  | fuel + 1, c :: rest => do return c :: (← unescapeWith fuel rest)

/-- Resolves the escapes of a literal. -/
def unescape (cs : List Char) : Except Fault (List Char) :=
  unescapeWith cs.length cs

/-- The body of a literal up to the closing quote, and what follows it. -/
def readLiteral? (quote : Char) : List Char → Option (List Char × List Char)
  | [] => none
  | '\\' :: c :: rest =>
    (readLiteral? quote rest).map fun (body, after) ↦ ('\\' :: c :: body, after)
  | c :: rest =>
    if c = quote then some ([], rest)
    else (readLiteral? quote rest).map fun (body, after) ↦ (c :: body, after)

/-- The number at the start of a text, given what its digits before are worth, and what follows it.
An underscore may stand before a digit. After a zero in front, only zeros follow. -/
def readNumber (zero : Bool) (value : Nat) : List Char → Nat × List Char
  | [] => (value, [])
  | '_' :: c :: rest =>
    match digit? c with
    | some digit => readNumber zero (value * 10 + digit) rest
    | none => (value, '_' :: c :: rest)
  | c :: rest =>
    match digit? c with
    | some digit => readNumber zero (value * 10 + digit) rest
    | none => (value, c :: rest)
where
  /-- The value of a digit that can follow. -/
  digit? (c : Char) : Option Nat :=
    if zero then (if c = '0' then some 0 else none) else decimalDigit? c

/-- What follows the closing of a piece, if it stands here. A tag may also close with a plus sign.
-/
def closing? (tag : Bool) : List Char → Option (List Char)
  | '-' :: a :: '\x7d' :: rest =>
    if a = (if tag then '%' else '\x7d') then some (trimLeft rest) else none
  | '+' :: '%' :: '\x7d' :: rest => if tag then some rest else none
  | a :: '\x7d' :: rest => if a = (if tag then '%' else '\x7d') then some rest else none
  | _ => none

/-- The token at the start of a text that is no blank, and what follows it. -/
def nextToken (c : Char) (rest : List Char) : Except Fault (Token × List Char) :=
  if c = '\x27' || c = '\x22' then
    match readLiteral? c rest with
    | none => .error (.unexpectedCharacter c)
    | some (body, after) => (unescape body).map fun text ↦ (.text (String.ofList text), after)
  else if c.isDigit then
    let (value, after) := readNumber (c = '0') (c.toNat - 48) rest
    .ok (.number value, after)
  else if startsName c then
    .ok (.word (String.ofList (c :: rest.takeWhile continuesName)), rest.dropWhile continuesName)
  else match c, rest with
    | '.', _ => .ok (.dot, rest)
    | '|', _ => .ok (.pipe, rest)
    | ',', _ => .ok (.comma, rest)
    | ':', _ => .ok (.colon, rest)
    | '(', _ => .ok (.openParen, rest)
    | ')', _ => .ok (.closeParen, rest)
    | '~', _ => .ok (.tilde, rest)
    | '=', '=' :: rest => .ok (.equal, rest)
    | '!', '=' :: rest => .ok (.different, rest)
    | _, _ => .error (.unexpectedCharacter c)

/-- The tokens up to the closing of a piece, and what follows it. Each token takes a character at
least, so as much fuel as there are characters is enough. -/
def readTokens (tag : Bool) : Nat → List Char → Except Fault (List Token × List Char)
  | 0, _ => .error .unclosedTag
  | _, [] => .error .unclosedTag
  | fuel + 1, c :: rest =>
    match closing? tag (c :: rest) with
    | some after => .ok ([], after)
    | none =>
      if isBlank c then readTokens tag fuel rest
      else do
        let (token, rest) ← nextToken c rest
        let (tokens, after) ← readTokens tag fuel rest
        return (token :: tokens, after)

/-- What follows the end of a comment. -/
def skipComment? : List Char → Option (List Char)
  | [] => none
  | '+' :: '#' :: '\x7d' :: rest => some rest
  | '-' :: '#' :: '\x7d' :: rest => some (trimLeft rest)
  | '#' :: '\x7d' :: rest => some rest
  | _ :: rest => skipComment? rest

/-- A sign inside the opening of a piece: whether it is a minus, and what follows it. -/
def openingSign : List Char → Bool × List Char
  | '-' :: rest => (true, rest)
  | '+' :: rest => (false, rest)
  | rest => (false, rest)

/-- What follows a tag that holds nothing but the given word, from behind its opening on. -/
def wordTag? (word : List Char) (mayPlus : Bool) (cs : List Char) : Option (List Char) := do
  match trimLeft (← dropPrefix? word (trimLeft cs)) with
  | '-' :: '%' :: '\x7d' :: rest => some (trimLeft rest)
  | '+' :: '%' :: '\x7d' :: rest => if mayPlus then some rest else none
  | '%' :: '\x7d' :: rest => some rest
  | _ => none

/-- Raw text up to its closing tag, and what follows that. -/
def readRaw? : List Char → Option (List Char × List Char)
  | [] => none
  | c :: rest =>
    match c, rest with
    | '\x7b', '%' :: inside =>
      let (minus, inside) := openingSign inside
      match wordTag? "endraw".toList true inside with
      | some after => some ([], if minus then '-' :: after else '+' :: after)
      | none => (readRaw? rest).map fun (text, after) ↦ (c :: text, after)
    | _, _ => (readRaw? rest).map fun (text, after) ↦ (c :: text, after)

/-- Raw text up to its closing tag, its trailing blanks dropped if the tag asks for it, and what
follows the tag. -/
def rawText? (cs : List Char) : Option (List Char × List Char) := do
  match ← readRaw? cs with
  | (text, '-' :: after) => some (trimRight text, after)
  | (text, after) => some (text, after.drop 1)

/-- The openings of pieces. -/
inductive Opening
  | print | tag | comment
  deriving DecidableEq, Repr

/-- The text before the next opening, and the opening with what follows it. -/
def nextOpening : List Char → List Char × Option (Opening × List Char)
  | [] => ([], none)
  | '\x7b' :: '\x7b' :: rest => ([], some (.print, rest))
  | '\x7b' :: '%' :: rest => ([], some (.tag, rest))
  | '\x7b' :: '#' :: rest => ([], some (.comment, rest))
  | c :: rest =>
    let (text, opening) := nextOpening rest
    (c :: text, opening)

/-- The pieces of a text. Each opening takes two characters, so as much fuel as there are characters
is enough. -/
def readPieces : Nat → List Char → Except Fault (List Piece)
  | 0, _ => .ok []
  | fuel + 1, cs =>
    match nextOpening cs with
    | (text, none) => .ok [.text text]
    | (text, some (opening, rest)) => do
      let (minus, rest) := openingSign rest
      let before := Piece.text (if minus then trimRight text else text)
      match opening with
      | .comment =>
        match skipComment? rest with
        | none => throw .unclosedComment
        | some after => return before :: (← readPieces fuel after)
      | .print =>
        let (tokens, after) ← readTokens false (rest.length + 1) rest
        return before :: .print tokens :: (← readPieces fuel after)
      | .tag =>
        match wordTag? "raw".toList false rest with
        | some raw =>
          match rawText? raw with
          | none => throw .unclosedRaw
          | some (text, after) => return before :: .text text :: (← readPieces fuel after)
        | none =>
          let (tokens, after) ← readTokens true (rest.length + 1) rest
          return before :: .tag tokens :: (← readPieces fuel after)

/-- The pieces of a template. -/
def pieces (source : String) : Except Fault (List Piece) :=
  let cs := unixLineEnds source.toList
  readPieces (cs.length + 1) cs

end ClientGen.Template
