import ClientGen.Text.CompatibilityTable

/-!
# Compatibility form

`compatible` brings a text to the normal form of Unicode in which characters that stand for others
are replaced by them: a ligature by its letters, a letter in another style by the plain one, and a
letter with its accents by one character where there is one. Decomposition, the ordering of the
marks by their classes, and composition follow each other. Hangul syllables are computed, all other
characters are found in tables.
-/

set_option autoImplicit false
set_option relaxedAutoImplicit false

namespace ClientGen.Text.Compatibility

/-- The combining class of a code point. -/
def combiningClass (code : Nat) : Nat :=
  match CompatibilityTable.classes.find? fun (first, last, _) ↦ first ≤ code && code ≤ last with
  | some (_, _, value) => value
  | none => 0

/-- The image of a code point in the runs. -/
def runImage? (code : Nat) : Option Nat :=
  (CompatibilityTable.runs.find? fun (first, last, _) ↦ first ≤ code && code ≤ last).map
    fun (first, _, step, image) ↦ image + step * (code - first)

/-- The image of a code point in the rows. -/
def rowImage? (code : Nat) : Option Nat :=
  CompatibilityTable.rows.findSome? fun (first, images) ↦
    if first ≤ code then images[code - first]? else none

/-- The parts of a Hangul syllable. -/
def syllableParts? (code : Nat) : Option (List Nat) :=
  if 0xac00 ≤ code && code ≤ 0xd7a3 then
    let index := code - 0xac00
    let parts := [0x1100 + index / 588, 0x1161 + index % 588 / 28]
    some (if index % 28 = 0 then parts else parts ++ [0x11a7 + index % 28])
  else none

/-- The parts of a code point that is not made of two. -/
def plainParts (code : Nat) : List Nat :=
  match syllableParts? code, runImage? code, rowImage? code,
    CompatibilityTable.expansions.lookup code with
  | some parts, _, _, _ => parts
  | _, some image, _, _ | _, _, some image, _ => [image]
  | _, _, _, some parts => parts
  | _, _, _, _ => [code]

/-- The parts of a code point. A composite can be made of composites, but this is never nested
deeper than the fuel that `decompose` gives. -/
def partsWith : Nat → Nat → List Nat
  | 0, code => [code]
  | fuel + 1, code =>
    match CompatibilityTable.composites.lookup code with
    | some (base, mark) => partsWith fuel base ++ partsWith fuel mark
    | none => plainParts code

/-- The parts of code points, one after the other. -/
def decompose (codes : List Nat) : List Nat :=
  codes.flatMap fun code ↦ if code < 0x80 then [code] else partsWith 4 code

/-- Sorts each run of marks by their classes; marks of one class keep their order. -/
def reorder (codes : List Nat) : List Nat :=
  codes.foldr insert []
where
  /-- Puts a code point in front of ordered ones, behind the marks of smaller classes. -/
  insert (code : Nat) : List Nat → List Nat
    | [] => [code]
    | next :: rest =>
      if combiningClass next ≠ 0 && combiningClass next < combiningClass code then
        next :: insert code rest
      else code :: next :: rest

/-- The composite of two code points. -/
def composite? (base mark : Nat) : Option Nat :=
  if 0x1100 ≤ base && base ≤ 0x1112 && 0x1161 ≤ mark && mark ≤ 0x1175 then
    some (0xac00 + ((base - 0x1100) * 21 + (mark - 0x1161)) * 28)
  else if 0xac00 ≤ base && base ≤ 0xd7a3 && (base - 0xac00) % 28 = 0 &&
      0x11a8 ≤ mark && mark ≤ 0x11c2 then
    some (base + (mark - 0x11a7))
  else
    (CompatibilityTable.composites.find? fun (_, parts) ↦ parts == (base, mark)).map (·.1)

/-- Composes code points with the base in front of them, given the marks in between that the base
could not take. A mark is blocked by one in between whose class is not smaller. -/
def composeOnto (base : Nat) (between : List Nat) : List Nat → List Nat
  | [] => base :: between
  | code :: rest =>
    let reaches := match between.getLast? with
      | none => true
      | some last => combiningClass last < combiningClass code
    match if reaches then composite? base code else none with
    | some composite => composeOnto composite between rest
    | none =>
      if combiningClass code = 0 then base :: between ++ composeOnto code [] rest
      else composeOnto base (between ++ [code]) rest

/-- Composes code points. Marks in front of the first base stay as they are. -/
def compose (codes : List Nat) : List Nat :=
  codes.takeWhile (combiningClass · ≠ 0) ++
    match codes.dropWhile (combiningClass · ≠ 0) with
    | [] => []
    | base :: rest => composeOnto base [] rest

end Compatibility

open Compatibility in
/-- The compatibility form of a text. -/
def compatible (cs : List Char) : List Char :=
  if cs.all (·.toNat < 0x80) then cs
  else (compose (reorder (decompose (cs.map Char.toNat)))).map Char.ofNat

end ClientGen.Text
