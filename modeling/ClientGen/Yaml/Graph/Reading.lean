import ClientGen.Yaml.Fault
import ClientGen.Yaml.Graph
import ClientGen.Yaml.Token

/-!
# Reading graphs

`Graph.ofTokens?` reads the one document of a token list. A node with an anchor has its number
before its parts are read, so that an alias among them can refer to it.
-/

set_option autoImplicit false
set_option relaxedAutoImplicit false

namespace ClientGen.Yaml.Graph

/-- The state of reading: the tokens left, the fault behind them if the text is faulty there, the
nodes so far, their numbers by anchor, and the tag handles. -/
structure Reader where
  rest : List Token
  behind : Option Fault := none
  graph : Graph := {}
  anchors : List (String × Nat) := []
  handles : List (String × String) := []

/-- A part of reading. -/
abbrev Reading := StateT Reader (Except Fault)

/-- The token in front. -/
def peek : Reading (Option Token) := do
  let reader ← get
  match reader.rest, reader.behind with
  | [], some fault => throw fault
  | rest, _ => return rest.head?

/-- Drops the token in front. -/
def advance : Reading Unit :=
  modify fun reader ↦ { reader with rest := reader.rest.tail }

/-- Drops the token in front if it is the given one, and answers whether it was. -/
def take (token : Token) : Reading Bool := do
  if (← peek) = some token then
    advance
    return true
  else return false

/-- Whether one of the given tokens, or nothing, is in front. -/
def atOneOf (tokens : List Token) : Reading Bool := do
  match ← peek with
  | none => return true
  | some token => return tokens.contains token

/-- Requires a token. -/
def expect (token : Token) : Reading Unit := do
  if !(← take token) then throw .unexpectedToken

/-- Adds a node and answers its number. -/
def newNode (tag : Tag) (body : Body) : Reading Nat := do
  let n := (← get).graph.size
  modify fun reader ↦ { reader with graph := reader.graph.add ⟨tag, body⟩ }
  return n

/-- Gives a node its parts. -/
def complete (n : Nat) (body : Body) : Reading Unit :=
  modify fun reader ↦ { reader with graph := reader.graph.setBody n body }

/-- The node that stands where nothing is written. -/
def emptyNode : Reading Nat :=
  newNode .null (.scalar "")

/-- Notes the number of an anchor. -/
def bindAnchor (anchor : Option String) (n : Nat) : Reading Unit :=
  match anchor with
  | none => return ()
  | some name => modify fun reader ↦ { reader with anchors := (name, n) :: reader.anchors }

/-- The anchor in front. -/
def readAnchor : Reading (Option String) := do
  match ← peek with
  | some (.anchor name) =>
    advance
    return some name
  | _ => return none

/-- The tag in front with its handle resolved. -/
def readTagName : Reading (Option String) := do
  match ← peek with
  | some (.tag tag) =>
    advance
    match tag.handle with
    | none => return some tag.suffix
    | some handle =>
      match (← get).handles.lookup handle with
      | none => throw .unknownHandle
      | some pattern => return some (pattern ++ tag.suffix)
  | _ => return none

/-- The anchor and the tag in front, in either order. -/
def readProperties : Reading (Option String × Option String) := do
  let first ← readAnchor
  let tag ← readTagName
  let second ← if first.isNone && tag.isSome then readAnchor else pure none
  let anchor := first.or second
  return (anchor, tag)

/-- Refuses an anchor that already names a node. -/
def refuseRepeated (anchor : Option String) : Reading Unit := do
  match anchor with
  | some name => if ((← get).anchors.lookup name).isSome then throw .repeatedAnchor
  | none => return ()

/-- The tag of a scalar. Without a tag of its own, and with the tag that asks for it, a plain scalar
is tagged by its text. -/
def scalarTag (tag : Option String) (plain : Bool) (text : String) : Tag :=
  match tag with
  | none => if plain then .ofPlain text else .str
  | some "!" => .ofPlain text
  | some name => .ofName name

/-- The tag of a collection. -/
def collectionTag (tag : Option String) (usual : Tag) : Tag :=
  match tag with
  | none | some "!" => usual
  | some name => .ofName name

mutual

/-- A node, block collections included if `block` is set, and a sequence without indentation of its
own if `indentless` is set. -/
def readNode (block indentless : Bool) : Nat → Reading Nat
  | 0 => throw .unexpectedToken
  | fuel + 1 => do
    if let some (.alias name) ← peek then
      advance
      match (← get).anchors.lookup name with
      | some n => return n
      | none => throw .unknownAlias
    let (anchor, tag) ← readProperties
    let front ← peek
    refuseRepeated anchor
    let scalar (plain : Bool) (text : String) : Reading Nat := do
      let n ← newNode (scalarTag tag plain text) (.scalar text)
      bindAnchor anchor n
      return n
    let sequence (items : Reading (List Nat)) : Reading Nat := do
      let n ← newNode (collectionTag tag .seq) (.sequence [])
      bindAnchor anchor n
      complete n (.sequence (← items))
      return n
    let mapping (entries : Reading (List Entry)) : Reading Nat := do
      let n ← newNode (collectionTag tag .map) (.mapping [])
      bindAnchor anchor n
      complete n (.mapping (← entries))
      return n
    match front with
    | some (.scalar text plain) =>
      advance
      scalar plain text
    | some .flowSequenceStart =>
      advance
      sequence (readFlowItems true fuel)
    | some .flowMappingStart =>
      advance
      mapping (readFlowEntries true fuel)
    | token =>
      if indentless && token = some .blockEntry then sequence (readIndentless fuel)
      else if block && token = some .blockSequenceStart then
        advance
        sequence (readBlockItems fuel)
      else if block && token = some .blockMappingStart then
        advance
        mapping (readBlockEntries fuel)
      else if anchor.isSome || tag.isSome then scalar tag.isNone ""
      else throw .unexpectedToken

/-- A node, or the empty one if one of the given tokens is in front. -/
def readOptional (block indentless : Bool) (ends : List Token) : Nat → Reading Nat
  | 0 => throw .unexpectedToken
  | fuel + 1 => do
    if ← atOneOf ends then emptyNode else readNode block indentless fuel

/-- The value behind a key: the empty node unless a value token is in front. -/
def readValue (block : Bool) (ends : List Token) : Nat → Reading Nat
  | 0 => throw .unexpectedToken
  | fuel + 1 => do
    if ← take .value then readOptional block block ends fuel else emptyNode

/-- The items of a block sequence. -/
def readBlockItems : Nat → Reading (List Nat)
  | 0 => throw .unexpectedToken
  | fuel + 1 => do
    if ← take .blockEntry then
      let item ← readOptional true false [.blockEntry, .blockEnd] fuel
      return item :: (← readBlockItems fuel)
    else
      expect .blockEnd
      return []

/-- The items of a sequence without indentation of its own. -/
def readIndentless : Nat → Reading (List Nat)
  | 0 => throw .unexpectedToken
  | fuel + 1 => do
    if ← take .blockEntry then
      let item ← readOptional true false [.blockEntry, .key, .value, .blockEnd] fuel
      return item :: (← readIndentless fuel)
    else return []

/-- The entries of a block mapping. -/
def readBlockEntries : Nat → Reading (List Entry)
  | 0 => throw .unexpectedToken
  | fuel + 1 => do
    if ← take .key then
      let key ← readOptional true true [.key, .value, .blockEnd] fuel
      let value ← readValue true [.key, .value, .blockEnd] fuel
      return (key, value) :: (← readBlockEntries fuel)
    else
      expect .blockEnd
      return []

/-- The items of a flow sequence; an entry on its own is a mapping of one entry. -/
def readFlowItems (isFirst : Bool) : Nat → Reading (List Nat)
  | 0 => throw .unexpectedToken
  | fuel + 1 => do
    if ← take .flowSequenceEnd then return []
    if !isFirst then
      expect .flowEntry
      if ← take .flowSequenceEnd then return []
    let item ← if ← take .key then
        let key ← readOptional false false [.value, .flowEntry, .flowSequenceEnd] fuel
        let value ← readValue false [.flowEntry, .flowSequenceEnd] fuel
        newNode .map (.mapping [(key, value)])
      else readNode false false fuel
    return item :: (← readFlowItems false fuel)

/-- The entries of a flow mapping; a key on its own has the empty value. -/
def readFlowEntries (isFirst : Bool) : Nat → Reading (List Entry)
  | 0 => throw .unexpectedToken
  | fuel + 1 => do
    if ← take .flowMappingEnd then return []
    if !isFirst then
      expect .flowEntry
      if ← take .flowMappingEnd then return []
    let entry ← if ← take .key then
        let key ← readOptional false false [.value, .flowEntry, .flowMappingEnd] fuel
        let value ← readValue false [.flowEntry, .flowMappingEnd] fuel
        pure (key, value)
      else
        let key ← readNode false false fuel
        pure (key, ← emptyNode)
    return entry :: (← readFlowEntries false fuel)

end

/-- The tag handles of a document without directives. -/
def usualHandles : List (String × String) :=
  [("!", "!"), ("!!", Tag.standard)]

/-- Reads the directives in front. At most one version is given, and it is a first one; no handle is
given twice. -/
def readDirectives : Nat → Bool → List (String × String) → Reading (List (String × String))
  | 0, _, _ => throw .unexpectedToken
  | fuel + 1, versioned, handles => do
    match ← peek with
    | some (.versionDirective major) =>
      advance
      if versioned || major ≠ 1 then throw .badDirective
      readDirectives fuel true handles
    | some (.tagDirective handle pattern) =>
      advance
      if (handles.lookup handle).isSome then throw .badDirective
      readDirectives fuel versioned ((handle, pattern) :: handles)
    | some .otherDirective =>
      advance
      readDirectives fuel versioned handles
    | _ => return handles

/-- Skips the marks behind a document. -/
def skipEnds : Nat → Reading Unit
  | 0 => return ()
  | fuel + 1 => do if ← take .documentEnd then skipEnds fuel

/-- Whether a directive is in front. -/
def atDirective : Reading Bool := do
  match ← peek with
  | some (.versionDirective _) | some (.tagDirective ..) | some .otherDirective => return true
  | _ => return false

/-- The document in front, if there is one, and nothing behind it. -/
def readDocument (fuel : Nat) : Reading (Option Nat) := do
  if (← peek).isNone then return none
  let explicit := (← atDirective) || (← peek) = some .documentStart
  let handles ← readDirectives fuel false []
  if explicit then expect .documentStart
  modify fun reader ↦ { reader with handles := handles ++ usualHandles }
  let node ← if explicit && ((← atDirective) ||
      (← atOneOf [.documentStart, .documentEnd])) then emptyNode
    else readNode true false fuel
  skipEnds fuel
  if (← peek).isSome then throw .severalDocuments
  return some node

/-- The graph of the one document of a token list and the number of its root, if there is a
document; behind the tokens there may be a fault. A token takes a few levels at most, so the fuel is
enough. -/
def ofTokens? (tokens : List Token) (behind : Option Fault) :
    Except Fault (Option (Graph × Nat)) := do
  let (root, reader) ←
    (readDocument (4 * tokens.length + 8)).run { rest := tokens, behind := behind }
  return root.map fun n ↦ (reader.graph, n)

end ClientGen.Yaml.Graph
