/-!
# Templates

A template is text with printed expressions and conditional parts. Expressions are names,
attributes, literals, comparisons, connectives, concatenations and filters. This is a part of the
language of method templates; templates beyond it are the affair of an engine of their own
(`Template.Engine`).
-/

set_option autoImplicit false
set_option relaxedAutoImplicit false

namespace ClientGen.Template

/-- The expressions of templates. -/
inductive Expr
  | literal (text : String)
  | number (value : Nat)
  | flag (value : Bool)
  | nothing
  | name (name : String)
  | attribute (object : Expr) (name : String)
  | negate (body : Expr)
  | both (first second : Expr)
  | either (first second : Expr)
  | equal (first second : Expr)
  | different (first second : Expr)
  | concat (parts : List Expr)
  | filter (body : Expr) (name : String) (arguments : List Expr)
  deriving Repr

/-- The nodes of a template: plain text, a printed expression, or a choice among branches, the first
with a true test, or else the last part. -/
inductive Node
  | text (text : String)
  | print (body : Expr)
  | choose (branches : List (Expr × List Node)) (otherwise : List Node)

/-- Why a text is not a template. `reported` is a fault in the words of an engine, and `raised` an
error that an engine does not report as its own, by its kind. -/
inductive Fault
  | unclosedTag
  | unclosedComment
  | unclosedRaw
  | unclosedChoice
  | unexpectedCharacter (c : Char)
  | badEscape
  | badExpression
  | unknownTag
  | unknownFilter
  | reported (report : String)
  | raised (kind message : String)
  deriving DecidableEq, Repr

/-- The report of a text that is not a template. Faults without words of their own share one. -/
def Fault.message : Fault → String
  | reported report => report
  | raised _ message => message
  | _ => "the method template is faulty"

/-- A value that is not there: an unknown name, or an attribute that an object lacks, which is given
as messages call it. What else an engine reports while it writes stands in its words. -/
inductive Missing
  | name (name : String)
  | attribute (object name : String)
  | reported (report : String)
  deriving DecidableEq, Repr

/-- What an engine does not report as an error of its own. A filter refuses its arguments: there are
more than it takes, some that it needs are missing, or one that counts has another type. Any other
error that is raised is given by its kind. -/
inductive Misuse
  | surplus (filter : String) (given : Nat)
  | lacking (filter : String) (missing : List String)
  | noCount (type : String)
  | raised (kind message : String)
  deriving DecidableEq, Repr

/-- Why a template cannot be rendered. -/
inductive Failure
  | undefined (missing : Missing)
  | noFilter (name : String)
  | misuse (cause : Misuse)
  deriving DecidableEq, Repr

/-- The filters that the nodes of this library have, out of the many that an engine may have. -/
def filterNames : List String :=
  ["upper", "lower", "replace"]

mutual

/-- Whether an expression uses a filter that nodes do not have. -/
def Expr.hasUnknownFilter : Expr → Bool
  | .literal _ | .number _ | .flag _ | .nothing | .name _ => false
  | .attribute object _ => object.hasUnknownFilter
  | .negate body => body.hasUnknownFilter
  | .both first second | .either first second | .equal first second
  | .different first second => first.hasUnknownFilter || second.hasUnknownFilter
  | .concat parts => anyUnknownFilter parts
  | .filter body name arguments =>
    !filterNames.contains name || body.hasUnknownFilter || anyUnknownFilter arguments

/-- Whether one of the expressions uses a filter that nodes do not have. -/
def anyUnknownFilter : List Expr → Bool
  | [] => false
  | e :: rest => e.hasUnknownFilter || anyUnknownFilter rest

end

end ClientGen.Template
