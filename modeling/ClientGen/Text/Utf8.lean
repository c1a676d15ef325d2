/-!
# Reading UTF-8

Bytes are read as the characters they encode; where they encode none, the longest start of a
well-formed sequence (at least one byte) counts as one fault. `decodeLossy` drops the faults and
`decode?` refuses them.
-/

set_option autoImplicit false
set_option relaxedAutoImplicit false

namespace ClientGen.Text.Utf8

/-- The range of the second byte of a well-formed sequence and the number of bytes after the first,
by the first byte. -/
def sequence? (lead : UInt8) : Option (UInt8 × UInt8 × Nat) :=
  if 0xc2 ≤ lead && lead ≤ 0xdf then some (0x80, 0xbf, 1)
  else if lead = 0xe0 then some (0xa0, 0xbf, 2)
  else if lead = 0xed then some (0x80, 0x9f, 2)
  else if 0xe1 ≤ lead && lead ≤ 0xef then some (0x80, 0xbf, 2)
  else if lead = 0xf0 then some (0x90, 0xbf, 3)
  else if 0xf1 ≤ lead && lead ≤ 0xf3 then some (0x80, 0xbf, 3)
  else if lead = 0xf4 then some (0x80, 0x8f, 3)
  else none

/-- The longest start of `bytes` of at most `count` continuation bytes, the first of them between
`low` and `high`. -/
def continuation (low high : UInt8) : Nat → List UInt8 → List UInt8
  | 0, _ => []
  | _, [] => []
  | count + 1, b :: rest =>
    if low ≤ b && b ≤ high then b :: continuation 0x80 0xbf count rest else []

/-- The value of a sequence whose first byte holds `bits` followed by continuation bytes. -/
def codePoint (bits : Nat) (tail : List UInt8) : Nat :=
  tail.foldl (fun n b ↦ n * 64 + b.toNat % 64) bits

/-- Reads the bytes, one entry for each character and `none` for each fault. -/
def decode : List UInt8 → List (Option Char)
  | [] => []
  | lead :: rest =>
    if lead < 0x80 then some (Char.ofNat lead.toNat) :: decode rest
    else match sequence? lead with
      | none => none :: decode rest
      | some (low, high, count) =>
        let tail := continuation low high count rest
        if tail.length = count then
          some (Char.ofNat (codePoint (lead.toNat % (64 >>> count)) tail)) ::
            decode (rest.drop tail.length)
        else none :: decode (rest.drop tail.length)
termination_by bytes => bytes.length
decreasing_by all_goals simp only [List.length_cons, List.length_drop]; omega

/-- The characters of the bytes, faults dropped. -/
def decodeLossy (bytes : List UInt8) : List Char :=
  (decode bytes).filterMap id

/-- The characters of the bytes, or nothing if there is a fault. -/
def decode? (bytes : List UInt8) : Option (List Char) :=
  (decode bytes).mapM id

end ClientGen.Text.Utf8
