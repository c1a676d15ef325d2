import ClientGen.Text.Splice

/-!
# Paths

Paths are texts with slashes between names. `absolute` gives the absolute path that a text stands
for in a working directory, by its text alone: empty parts and single dots are dropped, and two dots
drop the name before them. Two slashes in front are kept, and any other number of them counts as
one.
-/

set_option autoImplicit false
set_option relaxedAutoImplicit false

namespace ClientGen

open ClientGen.Text

/-- An absolute path by its names. `doubled` marks two slashes in front. -/
structure AbsolutePath where
  doubled : Bool := false
  names : List (List Char)
  deriving DecidableEq, Repr

namespace AbsolutePath

/-- The path as text. -/
def text (path : AbsolutePath) : String :=
  String.ofList ((if path.doubled then ['/', '/'] else ['/']) ++ joinWith ['/'] path.names)

end AbsolutePath

namespace Path

/-- The parts of a path between slashes. -/
def parts (path : String) : List (List Char) :=
  splitOn '/' path.toList

/-- Whether a path starts at the root. -/
def isAbsolute (path : String) : Bool :=
  path.toList.head? = some '/'

/-- Whether a path starts with exactly two slashes. -/
def isDoubled (path : String) : Bool :=
  match path.toList with
  | '/' :: '/' :: '/' :: _ => false
  | '/' :: '/' :: _ => true
  | _ => false

/-- Follows one part of a path. -/
def descend (names : List (List Char)) (part : List Char) : List (List Char) :=
  if part = [] || part = ['.'] then names
  else if part = ['.', '.'] then names.dropLast
  else names ++ [part]

/-- The absolute path that a path stands for in a working directory. -/
def absolute (directory : AbsolutePath) (path : String) : AbsolutePath :=
  if isAbsolute path then ⟨isDoubled path, (parts path).foldl descend []⟩
  else ⟨directory.doubled, (parts path).foldl descend directory.names⟩

/-- A path inside another one; an absolute path stands for itself. -/
def join (outer inner : String) : String :=
  if isAbsolute inner then inner
  else if outer = "" || outer.toList.getLast? = some '/' then outer ++ inner
  else outer ++ "/" ++ inner

/-- A path without empty parts and single dots. -/
def tidy (path : String) : String :=
  let root := if isDoubled path then "//" else if isAbsolute path then "/" else ""
  let kept := (parts path).filter fun part ↦ part ≠ [] && part ≠ ['.']
  if root = "" && kept.isEmpty then "."
  else root ++ String.ofList (joinWith ['/'] kept)

/-- A text without the slashes at its end, unless it is nothing but slashes. -/
def dropSlashes (cs : List Char) : List Char :=
  if cs.all (· = '/') then cs else (cs.reverse.dropWhile (· = '/')).reverse

/-- What stands before the last slash and what follows it. -/
def split (path : String) : String × String :=
  let reversed := path.toList.reverse
  let tail := (reversed.takeWhile (· ≠ '/')).reverse
  let head := (reversed.dropWhile (· ≠ '/')).reverse
  (String.ofList (dropSlashes head), String.ofList tail)

end Path

end ClientGen
