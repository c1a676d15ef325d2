/-!
# Kinds of errors

Every error has a kind. The kinds are values that scripts can name and call: a call makes an error
of the kind. Some kinds end the whole program instead of the script, and some are made only from a
fixed number of arguments.
-/

set_option autoImplicit false
set_option relaxedAutoImplicit false

namespace ClientGen.Script

/-- A kind of errors. -/
structure Kind where
  name : String
  deriving DecidableEq, Repr

namespace Kind

/-- The names of the kinds. -/
def names : List String := [
  "ArithmeticError", "AssertionError", "AttributeError", "BaseException", "BaseExceptionGroup",
  "BlockingIOError", "BrokenPipeError", "BufferError", "BytesWarning", "ChildProcessError",
  "ConnectionAbortedError", "ConnectionError", "ConnectionRefusedError", "ConnectionResetError",
  "DeprecationWarning", "EOFError", "EncodingWarning", "Exception", "ExceptionGroup",
  "FileExistsError", "FileNotFoundError", "FloatingPointError", "FutureWarning", "GeneratorExit",
  "ImportError", "ImportWarning", "IndentationError", "IndexError", "InterruptedError",
  "IsADirectoryError", "KeyError", "KeyboardInterrupt", "LookupError", "MemoryError",
  "ModuleNotFoundError", "NameError", "NotADirectoryError", "NotImplementedError", "OSError",
  "OverflowError", "PendingDeprecationWarning", "PermissionError", "ProcessLookupError",
  "RecursionError", "ReferenceError", "ResourceWarning", "RuntimeError", "RuntimeWarning",
  "StopAsyncIteration", "StopIteration", "SyntaxError", "SyntaxWarning", "SystemError",
  "SystemExit", "TabError", "TimeoutError", "TypeError", "UnboundLocalError", "UnicodeDecodeError",
  "UnicodeEncodeError", "UnicodeError", "UnicodeTranslateError", "UnicodeWarning", "UserWarning",
  "ValueError", "Warning", "ZeroDivisionError"]

/-- The kind with a name. Two names are others for one of the kinds. -/
def named? (name : String) : Option Kind :=
  if name = "IOError" || name = "EnvironmentError" then some ⟨"OSError"⟩
  else if names.contains name then some ⟨name⟩
  else none

/-- Whether errors of the kind end the whole program. -/
def endsProgram (kind : Kind) : Bool :=
  ["BaseException", "BaseExceptionGroup", "GeneratorExit", "KeyboardInterrupt",
    "SystemExit"].contains kind.name

/-- Whether errors of the kind report an unreadable script. -/
def isUnreadable (kind : Kind) : Bool :=
  ["SyntaxError", "IndentationError", "TabError"].contains kind.name

/-- The number of arguments that an error of the kind is made from, if it is fixed, with what asks
for them in messages. -/
def arity? (kind : Kind) : Option (String × Nat) :=
  match kind.name with
  | "UnicodeDecodeError" | "UnicodeEncodeError" => some ("function", 5)
  | "UnicodeTranslateError" => some ("function", 4)
  | "ExceptionGroup" | "BaseExceptionGroup" => some ("BaseExceptionGroup.__new__()", 2)
  | _ => none

end Kind

end ClientGen.Script
