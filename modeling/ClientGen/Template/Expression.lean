import ClientGen.Template.Piece

/-!
# Expressions of templates

`expression` reads an expression from tokens. From the loosest to the tightest: `or`, `and`, `not`,
comparisons, concatenation, filters, attributes. Neighbouring literals are one literal. A chain of
comparisons holds if each of its links does.
-/

set_option autoImplicit false
set_option relaxedAutoImplicit false

namespace ClientGen.Template

/-- The text of the literals in front, as one. -/
def readLiterals : List Token → String × List Token
  | .text text :: rest =>
    let (more, rest) := readLiterals rest
    (text ++ more, rest)
  | rest => ("", rest)

/-- The attributes that follow an expression. -/
def readAttributes (object : Expr) : List Token → Expr × List Token
  | .dot :: .word name :: rest => readAttributes (.attribute object name) rest
  | rest => (object, rest)

/-- The further parts of a dotted name. -/
def readDotted (name : String) : List Token → String × List Token
  | .dot :: .word part :: rest => readDotted (name ++ "." ++ part) rest
  | rest => (name, rest)

mutual

/-- An alternative of conjunctions. -/
def readEither : Nat → List Token → Except Fault (Expr × List Token)
  | 0, _ => .error .badExpression
  | fuel + 1, tokens => do
    let (first, rest) ← readBoth fuel tokens
    moreEither fuel first rest

/-- The further alternatives. -/
def moreEither : Nat → Expr → List Token → Except Fault (Expr × List Token)
  | 0, _, _ => .error .badExpression
  | fuel + 1, first, .word "or" :: rest => do
    let (second, rest) ← readBoth fuel rest
    moreEither fuel (.either first second) rest
  | _, first, rest => .ok (first, rest)

/-- A conjunction of negations. -/
def readBoth : Nat → List Token → Except Fault (Expr × List Token)
  | 0, _ => .error .badExpression
  | fuel + 1, tokens => do
    let (first, rest) ← readNegation fuel tokens
    moreBoth fuel first rest

/-- The further members of a conjunction. -/
def moreBoth : Nat → Expr → List Token → Except Fault (Expr × List Token)
  | 0, _, _ => .error .badExpression
  | fuel + 1, first, .word "and" :: rest => do
    let (second, rest) ← readNegation fuel rest
    moreBoth fuel (.both first second) rest
  | _, first, rest => .ok (first, rest)

/-- A comparison, negated any number of times. -/
def readNegation : Nat → List Token → Except Fault (Expr × List Token)
  | 0, _ => .error .badExpression
  | fuel + 1, .word "not" :: rest => do
    let (body, rest) ← readNegation fuel rest
    return (.negate body, rest)
  | fuel + 1, tokens => do
    let (first, rest) ← readConcat fuel tokens
    let (links, rest) ← readLinks fuel first rest
    match links with
    | [] => return (first, rest)
    | link :: links => return (links.foldl Expr.both link, rest)

/-- The links of a chain of comparisons. -/
def readLinks : Nat → Expr → List Token → Except Fault (List Expr × List Token)
  | 0, _, _ => .error .badExpression
  | fuel + 1, first, .equal :: rest => do
    let (second, rest) ← readConcat fuel rest
    let (links, rest) ← readLinks fuel second rest
    return (.equal first second :: links, rest)
  | fuel + 1, first, .different :: rest => do
    let (second, rest) ← readConcat fuel rest
    let (links, rest) ← readLinks fuel second rest
    return (.different first second :: links, rest)
  | _, _, rest => .ok ([], rest)

/-- A concatenation. -/
def readConcat : Nat → List Token → Except Fault (Expr × List Token)
  | 0, _ => .error .badExpression
  | fuel + 1, tokens => do
    let (first, rest) ← readFiltered fuel tokens
    let (parts, rest) ← readParts fuel rest
    match parts with
    | [] => return (first, rest)
    | parts => return (.concat (first :: parts), rest)

/-- The further parts of a concatenation. -/
def readParts : Nat → List Token → Except Fault (List Expr × List Token)
  | 0, _ => .error .badExpression
  | fuel + 1, .tilde :: rest => do
    let (part, rest) ← readFiltered fuel rest
    let (parts, rest) ← readParts fuel rest
    return (part :: parts, rest)
  | _, rest => .ok ([], rest)

/-- An operand with its attributes and filters. -/
def readFiltered : Nat → List Token → Except Fault (Expr × List Token)
  | 0, _ => .error .badExpression
  | fuel + 1, tokens => do
    let (operand, rest) ← readOperand fuel tokens
    let (body, rest) := readAttributes operand rest
    moreFilters fuel body rest

/-- The filters that follow an operand. -/
def moreFilters : Nat → Expr → List Token → Except Fault (Expr × List Token)
  | 0, _, _ => .error .badExpression
  | fuel + 1, body, .pipe :: .word name :: rest => do
    let (name, rest) := readDotted name rest
    let (arguments, rest) ← match rest with
      | .openParen :: rest => readArguments fuel rest
      | rest => pure ([], rest)
    moreFilters fuel (.filter body name arguments) rest
  | _, body, rest => .ok (body, rest)

/-- Arguments up to the closing parenthesis; a comma may follow the last one. -/
def readArguments : Nat → List Token → Except Fault (List Expr × List Token)
  | 0, _ => .error .badExpression
  | _ + 1, .closeParen :: rest => .ok ([], rest)
  | fuel + 1, tokens => do
    let (argument, rest) ← readEither fuel tokens
    match rest with
    | .closeParen :: rest => return ([argument], rest)
    | .comma :: rest =>
      let (arguments, rest) ← readArguments fuel rest
      return (argument :: arguments, rest)
    | _ => throw .badExpression

/-- A literal, a name, or an expression in parentheses. -/
def readOperand : Nat → List Token → Except Fault (Expr × List Token)
  | 0, _ => .error .badExpression
  | fuel + 1, tokens =>
    match tokens with
    | .text text :: rest =>
      let (more, rest) := readLiterals rest
      .ok (.literal (text ++ more), rest)
    | .word "true" :: rest | .word "True" :: rest => .ok (.flag true, rest)
    | .word "false" :: rest | .word "False" :: rest => .ok (.flag false, rest)
    | .word "none" :: rest | .word "None" :: rest => .ok (.nothing, rest)
    | .number value :: rest => .ok (.number value, rest)
    | .word name :: rest => .ok (.name name, rest)
    | .openParen :: rest => do
      match ← readEither fuel rest with
      | (body, .closeParen :: rest) => return (body, rest)
      | _ => throw .badExpression
    | _ => .error .badExpression

end

/-- An expression in front of the tokens. A token takes a few levels at most, so the fuel is
enough. -/
def expression (tokens : List Token) : Except Fault (Expr × List Token) :=
  readEither (16 * (tokens.length + 1)) tokens

end ClientGen.Template
