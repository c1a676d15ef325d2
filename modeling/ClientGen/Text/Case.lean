import ClientGen.Text.CaseTable
import ClientGen.Text.Ranges

/-!
# Letter case

The full Unicode mappings: a letter may become several characters (`ß` becomes `SS`), and a capital
sigma at the end of a word becomes the final form when lowered. `capitalize` raises the first
character of a text only.
-/

set_option autoImplicit false
set_option relaxedAutoImplicit false

namespace ClientGen.Text

/-- The image of a code point under the first run that holds it. -/
def mapByRuns (runs : List (Nat × Nat × Nat × Nat)) (n : Nat) : Option Nat :=
  runs.findSome? fun (first, last, stride, image) ↦
    if first ≤ n && n ≤ last && (n - first) % stride == 0 then some (image + (n - first)) else none

/-- One character through a table of several-character images, then through one of runs; any other
character is kept. -/
def mapCase (special : List (Nat × List Nat)) (runs : List (Nat × Nat × Nat × Nat)) (c : Char) :
    List Char :=
  match special.lookup c.toNat with
  | some image => image.map Char.ofNat
  | none => match mapByRuns runs c.toNat with
    | some image => [Char.ofNat image]
    | none => [c]

/-- The upper case form of a character. -/
def upperChar (c : Char) : List Char :=
  mapCase CaseTable.upperSpecial CaseTable.upperRuns c

/-- The upper case form of a text, character by character. -/
def upper (cs : List Char) : List Char :=
  cs.flatMap upperChar

/-- A text with its first character in upper case. -/
def capitalize : List Char → List Char
  | [] => []
  | c :: rest => upperChar c ++ rest

/-- Whether the first character that is not case-ignorable is a cased letter. -/
def startsCased (cs : List Char) : Bool :=
  match cs.dropWhile (inRanges CaseTable.ignorableRanges) with
  | [] => false
  | c :: _ => inRanges CaseTable.casedRanges c

/-- Lowers the characters of the second list; the first holds those before it, nearest first. A
capital sigma with a cased letter before it and none after it takes the final form. -/
def lowerAfter : List Char → List Char → List Char
  | _, [] => []
  | before, c :: rest =>
    (if c = 'Σ' then
      [if startsCased before && !startsCased rest then 'ς' else 'σ']
    else mapCase CaseTable.lowerSpecial CaseTable.lowerRuns c) ++ lowerAfter (c :: before) rest

/-- The lower case form of a text. -/
def lower (cs : List Char) : List Char :=
  lowerAfter [] cs

end ClientGen.Text
