/-!
# Cutting and splicing

`splitOn` cuts a text at every occurrence of one character, keeping empty parts, and `joinWith` puts
parts together with a separator. `replace` exchanges every occurrence of a pattern, from the left
and without overlap; the empty pattern occurs before every character and at the end. `replaceFirst`
leaves off after a number of occurrences.
-/

set_option autoImplicit false
set_option relaxedAutoImplicit false

namespace ClientGen.Text

/-- The parts between the occurrences of a character; there is always at least one. -/
def splitOn (separator : Char) : List Char → List (List Char)
  | [] => [[]]
  | c :: rest =>
    if c = separator then [] :: splitOn separator rest
    else match splitOn separator rest with
      | [] => [[c]]
      | part :: parts => (c :: part) :: parts

/-- The parts with a separator between neighbours. -/
def joinWith (separator : List Char) : List (List Char) → List Char
  | [] => []
  | [part] => part
  | part :: parts => part ++ separator ++ joinWith separator parts

/-- What follows a pattern at the start of a text. -/
def dropPrefix? : List Char → List Char → Option (List Char)
  | [], cs => some cs
  | _ :: _, [] => none
  | p :: ps, c :: cs => if p = c then dropPrefix? ps cs else none

/-- A remainder after a pattern is no longer than the text. -/
theorem length_le_of_dropPrefix? {pattern cs rest : List Char}
    (h : dropPrefix? pattern cs = some rest) : rest.length ≤ cs.length := by
  induction pattern generalizing cs with
  | nil => simp_all [dropPrefix?]
  | cons p ps ih =>
    cases cs with
    | nil => simp [dropPrefix?] at h
    | cons c cs =>
      simp only [dropPrefix?] at h
      split at h
      · exact Nat.le_succ_of_le (ih h)
      · simp at h

/-- A remainder after a non-empty pattern is shorter than the text. -/
theorem length_lt_of_dropPrefix?_cons {p : Char} {ps cs rest : List Char}
    (h : dropPrefix? (p :: ps) cs = some rest) : rest.length < cs.length := by
  cases cs with
  | nil => simp [dropPrefix?] at h
  | cons c cs =>
    simp only [dropPrefix?] at h
    split at h
    · exact Nat.lt_succ_of_le (length_le_of_dropPrefix? h)
    · simp at h

/-- Exchanges every occurrence of the pattern `p :: ps`. -/
def replacePattern (p : Char) (ps new : List Char) : List Char → List Char
  | [] => []
  | c :: rest =>
    match _h : dropPrefix? (p :: ps) (c :: rest) with
    | some after => new ++ replacePattern p ps new after
    | none => c :: replacePattern p ps new rest
termination_by cs => cs.length
decreasing_by
  · exact length_lt_of_dropPrefix?_cons _h
  · simp

/-- Exchanges every occurrence of a pattern. -/
def replace (pattern new cs : List Char) : List Char :=
  match pattern with
  | [] => new ++ cs.flatMap fun c ↦ c :: new
  | p :: ps => replacePattern p ps new cs

/-- Exchanges the first occurrences of the pattern `p :: ps`, as many as the limit says. -/
def replaceFirstPattern (p : Char) (ps new : List Char) : Nat → List Char → List Char
  | 0, cs => cs
  | _ + 1, [] => []
  | limit + 1, c :: rest =>
    match _h : dropPrefix? (p :: ps) (c :: rest) with
    | some after => new ++ replaceFirstPattern p ps new limit after
    | none => c :: replaceFirstPattern p ps new (limit + 1) rest
termination_by _ cs => cs.length
decreasing_by
  · exact length_lt_of_dropPrefix?_cons _h
  · simp

/-- Exchanges the first occurrences of a pattern, as many as the limit says. -/
def replaceFirst (limit : Nat) (pattern new cs : List Char) : List Char :=
  match limit, pattern with
  | 0, _ => cs
  | limit + 1, [] => new ++ ((cs.take limit).flatMap fun c ↦ c :: new) ++ cs.drop limit
  | limit + 1, p :: ps => replaceFirstPattern p ps new (limit + 1) cs

end ClientGen.Text
