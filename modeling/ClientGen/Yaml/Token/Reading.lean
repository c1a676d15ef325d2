import ClientGen.Yaml.Token.Scalar

/-!
# Reading tokens

`tokens` reads the tokens of a document. A column to the right of the current block opens a block, a
column to its left closes it. A node of one line at most may turn out to be a key when a colon
follows: its place is kept until then, and the key token goes in front of it.
-/

set_option autoImplicit false
set_option relaxedAutoImplicit false

namespace ClientGen.Yaml

/-- A node that may be a key: the number of tokens in front of it, and where it starts. A required
key stands at the indentation of a block, where nothing but a key can stand. -/
structure PossibleKey where
  position : Nat
  required : Bool
  index : Nat
  line : Nat
  column : Nat

/-- The state of reading: the tokens so far, the depth of flow collections, the columns of the open
blocks, whether a key may start here, and the possible keys by depth. -/
structure Lexer where
  cursor : Cursor
  tokens : Array Token := #[]
  depth : Nat := 0
  indent : Int := -1
  outer : List Int := []
  mayKey : Bool := true
  keys : List (Nat × PossibleKey) := []

namespace Lexer

/-- Appends a token. -/
def push (token : Token) (lexer : Lexer) : Lexer :=
  { lexer with tokens := lexer.tokens.push token }

/-- Moves the cursor. -/
def move (cursor : Cursor) (lexer : Lexer) : Lexer :=
  { lexer with cursor := cursor }

/-- Allows a key to start here, or not. -/
def allow (mayKey : Bool) (lexer : Lexer) : Lexer :=
  { lexer with mayKey := mayKey }

/-- Skips blanks, comments and line ends. A line end outside flow collections allows a key. -/
def skipBlanks : Nat → Lexer → Lexer
  | 0, lexer => lexer
  | fuel + 1, lexer =>
    let cursor := lexer.cursor.skipSpaces.skipComment
    match cursor.lineEnd? with
    | none => lexer.move cursor
    | some (_, cursor) =>
      skipBlanks fuel { lexer with cursor := cursor, mayKey := lexer.mayKey || lexer.depth = 0 }

/-- Closes the blocks to the right of a column. -/
def unwind (column : Int) : List Int → Lexer → Lexer
  | [], lexer => lexer
  | outer :: rest, lexer =>
    if column < lexer.indent then
      unwind column rest { lexer.push .blockEnd with indent := outer, outer := rest }
    else lexer

/-- Closes the blocks to the right of a column, outside flow collections. -/
def closeBlocks (column : Int) (lexer : Lexer) : Lexer :=
  if lexer.depth = 0 then lexer.unwind column lexer.outer else lexer

/-- Opens a block at a column to the right of the current one. -/
def openBlock (column : Nat) (position : Nat) (token : Token) (lexer : Lexer) : Lexer :=
  if lexer.indent < column then
    { lexer with
      tokens := lexer.tokens.insertIdxIfInBounds position token
      indent := column
      outer := lexer.indent :: lexer.outer }
  else lexer

/-- Gives up the possible keys of earlier lines and those too far back. -/
def dropStaleKeys (lexer : Lexer) : Except Fault Lexer := do
  let isStale (key : PossibleKey) : Bool :=
    key.line ≠ lexer.cursor.line || lexer.cursor.index > key.index + 1024
  if lexer.keys.any fun (_, key) ↦ isStale key && key.required then throw .missingColon
  return { lexer with keys := lexer.keys.filter fun (_, key) ↦ !isStale key }

/-- Gives up the possible key of the current depth. -/
def dropKey (lexer : Lexer) : Except Fault Lexer := do
  if (lexer.keys.lookup lexer.depth).any (·.required) then throw .missingColon
  return { lexer with keys := lexer.keys.filter fun (depth, _) ↦ depth ≠ lexer.depth }

/-- Notes that a key may start here. -/
def noteKey (lexer : Lexer) : Except Fault Lexer := do
  if !lexer.mayKey then return lexer
  let cursor := lexer.cursor
  let required := lexer.depth = 0 && lexer.indent = cursor.column
  let lexer ← lexer.dropKey
  return { lexer with keys := (lexer.depth,
    ⟨lexer.tokens.size, required, cursor.index, cursor.line, cursor.column⟩) :: lexer.keys }

/-- Closes all blocks in front of a directive, a document mark or the end. -/
def endBlocks (lexer : Lexer) : Except Fault Lexer := do
  return (← (lexer.closeBlocks (-1)).dropKey).allow false

/-- A directive. -/
def directive (lexer : Lexer) : Except Fault Lexer := do
  let lexer ← lexer.endBlocks
  let (token, cursor) ← readDirective lexer.cursor
  return (lexer.push token).move cursor

/-- A document mark. -/
def mark (token : Token) (lexer : Lexer) : Except Fault Lexer := do
  let lexer ← lexer.endBlocks
  return (lexer.push token).move (lexer.cursor.skip 3)

/-- The opening of a flow collection. -/
def openFlow (token : Token) (lexer : Lexer) : Except Fault Lexer := do
  let lexer ← lexer.noteKey
  return { (lexer.push token).move lexer.cursor.next with depth := lexer.depth + 1, mayKey := true }

/-- The closing of a flow collection. -/
def closeFlow (token : Token) (lexer : Lexer) : Except Fault Lexer := do
  if lexer.depth = 0 then throw .unexpectedToken
  let lexer ← lexer.dropKey
  return { (lexer.push token).move lexer.cursor.next with
    depth := lexer.depth - 1, mayKey := false }

/-- A comma between the parts of a flow collection. -/
def flowEntry (lexer : Lexer) : Except Fault Lexer := do
  let lexer ← lexer.dropKey
  return ((lexer.push .flowEntry).move lexer.cursor.next).allow true

/-- A dash in front of an item. -/
def blockEntry (lexer : Lexer) : Except Fault Lexer := do
  if lexer.depth = 0 && !lexer.mayKey then throw .misplacedEntry
  let lexer := if lexer.depth = 0 then
      lexer.openBlock lexer.cursor.column lexer.tokens.size .blockSequenceStart
    else lexer
  let lexer ← lexer.dropKey
  return ((lexer.push .blockEntry).move lexer.cursor.next).allow true

/-- A question mark in front of a key. -/
def explicitKey (lexer : Lexer) : Except Fault Lexer := do
  if lexer.depth = 0 && !lexer.mayKey then throw .misplacedKey
  let lexer := if lexer.depth = 0 then
      lexer.openBlock lexer.cursor.column lexer.tokens.size .blockMappingStart
    else lexer
  let lexer ← lexer.dropKey
  return ((lexer.push .key).move lexer.cursor.next).allow (lexer.depth = 0)

/-- A colon in front of a value. It makes a key of the possible key of this depth. -/
def value (lexer : Lexer) : Except Fault Lexer := do
  match lexer.keys.lookup lexer.depth with
  | some key =>
    let lexer := { lexer with
      keys := lexer.keys.filter fun (depth, _) ↦ depth ≠ lexer.depth
      tokens := lexer.tokens.insertIdxIfInBounds key.position .key
      mayKey := false }
    let lexer := if lexer.depth = 0 then
        lexer.openBlock key.column key.position .blockMappingStart
      else lexer
    return (lexer.push .value).move lexer.cursor.next
  | none =>
    if lexer.depth = 0 && !lexer.mayKey then throw .misplacedKey
    let lexer := if lexer.depth = 0 then
        lexer.openBlock lexer.cursor.column lexer.tokens.size .blockMappingStart
      else lexer
    let lexer ← lexer.dropKey
    return ((lexer.push .value).move lexer.cursor.next).allow (lexer.depth = 0)

/-- An alias or an anchor. -/
def anchored (token : String → Token) (lexer : Lexer) : Except Fault Lexer := do
  let lexer ← lexer.noteKey
  let (name, cursor) ← readAnchorName lexer.cursor
  return ((lexer.push (token name)).move cursor).allow false

/-- A tag. -/
def tag (lexer : Lexer) : Except Fault Lexer := do
  let lexer ← lexer.noteKey
  let (token, cursor) ← readTag lexer.cursor
  return ((lexer.push token).move cursor).allow false

/-- A block scalar. -/
def block (isFolded : Bool) (lexer : Lexer) : Except Fault Lexer := do
  let lexer ← lexer.dropKey
  let (text, cursor) ← readBlock isFolded lexer.indent lexer.cursor
  return ((lexer.push (.scalar text false)).move cursor).allow true

/-- A quoted scalar. -/
def quoted (double : Bool) (lexer : Lexer) : Except Fault Lexer := do
  let lexer ← lexer.noteKey
  let (text, cursor) ← readQuoted double (lexer.cursor.rest.length + 1) lexer.cursor.next
  return ((lexer.push (.scalar (String.ofList text) false)).move cursor).allow false

/-- A plain scalar. A key may start behind it if it ends behind a line end. -/
def plain (lexer : Lexer) : Except Fault Lexer := do
  let lexer ← lexer.noteKey
  let (text, crossed, cursor) := readPlain (lexer.depth ≠ 0) (lexer.indent + 1)
    (lexer.cursor.rest.length + 1) lexer.cursor false []
  return ((lexer.push (.scalar (String.ofList text) true)).move cursor).allow crossed

/-- Whether a plain scalar can start with a character in front of a text. -/
def startsPlain (flow : Bool) (c : Char) (rest : List Char) : Bool :=
  !(isSpace c || isBreak c || "-?:,[]\x7b\x7d#&*!|>\x27\x22%@\x60".toList.contains c) ||
    (!atWordEnd rest && (c = '-' || !flow && (c = '?' || c = ':')))

/-- The token in front, which starts with the character `c`. -/
def token (c : Char) (rest : List Char) (lexer : Lexer) : Except Fault Lexer :=
  let flow : Bool := lexer.depth ≠ 0
  let marked : Bool := lexer.cursor.column = 0 && atMark (c :: rest)
  if c = '%' && lexer.cursor.column = 0 then lexer.directive
  else if c = '-' && marked then lexer.mark .documentStart
  else if c = '.' && marked then lexer.mark .documentEnd
  else if c = '[' then lexer.openFlow .flowSequenceStart
  else if c = '\x7b' then lexer.openFlow .flowMappingStart
  else if c = ']' then lexer.closeFlow .flowSequenceEnd
  else if c = '\x7d' then lexer.closeFlow .flowMappingEnd
  else if c = ',' then lexer.flowEntry
  else if c = '-' && atWordEnd rest then lexer.blockEntry
  else if c = '?' && (flow || atWordEnd rest) then lexer.explicitKey
  else if c = ':' && (flow || atWordEnd rest) then lexer.value
  else if c = '*' then lexer.anchored .alias
  else if c = '&' then lexer.anchored .anchor
  else if c = '!' then lexer.tag
  else if c = '|' && !flow then lexer.block false
  else if c = '>' && !flow then lexer.block true
  else if c = '\x27' then lexer.quoted false
  else if c = '\x22' then lexer.quoted true
  else if startsPlain flow c rest then lexer.plain
  else .error .unexpectedCharacter

/-- A faulty text: the tokens that stand surely in front of the fault, and the fault. A node that
may yet turn out to be a key is not sure, nor is what follows it. -/
structure Broken where
  tokens : List Token
  fault : Fault

/-- The number of tokens that no further text can change. -/
def settled (lexer : Lexer) : Nat :=
  let isOpen (key : PossibleKey) : Bool :=
    key.line = lexer.cursor.line && lexer.cursor.index ≤ key.index + 1024
  ((lexer.keys.map (·.2)).filter isOpen).foldl (fun least key ↦ min least key.position)
    lexer.tokens.size

/-- The state behind the next token, or at the end. -/
def step (lexer : Lexer) : Except Fault (Lexer × Bool) := do
  let lexer := lexer.skipBlanks (lexer.cursor.rest.length + 1)
  let lexer ← lexer.dropStaleKeys
  let lexer := lexer.closeBlocks lexer.cursor.column
  match lexer.cursor.rest with
  | [] => return (← lexer.endBlocks, true)
  | c :: rest => return (← lexer.token c rest, false)

/-- Reads tokens up to the end. Each takes a character at least, so as much fuel as there are
characters is enough. -/
def run : Nat → Lexer → Except Broken (List Token)
  | 0, _ => .error ⟨[], .unexpectedCharacter⟩
  | fuel + 1, lexer =>
    match lexer.step with
    | .error fault => .error ⟨lexer.tokens.toList.take lexer.settled, fault⟩
    | .ok (lexer, true) => .ok lexer.tokens.toList
    | .ok (lexer, false) => run fuel lexer

end Lexer

/-- Whether a character may stand in a document. -/
def isPrintable (c : Char) : Bool :=
  c = '\t' || c = '\n' || c = '\r' || (' ' ≤ c && c ≤ '~') || c = '\x85' ||
    ('\u00a0' ≤ c && c.toNat ≤ 0xd7ff) || (0xe000 ≤ c.toNat && c.toNat ≤ 0xfffd) ||
    0x10000 ≤ c.toNat

/-- The tokens of a text. A byte order mark in front is skipped. -/
def tokens (text : String) : Except Lexer.Broken (List Token) := do
  let cs := text.toList
  if !cs.all isPrintable then throw ⟨[], .unprintable⟩
  let cursor : Cursor := ⟨cs, 0, 0, 0⟩
  Lexer.run (cs.length + 2) { cursor := if cs.head? = some '\ufeff' then cursor.next else cursor }

end ClientGen.Yaml
