/-!
# Text from bytes

Reading UTF-8 one character at a time. A byte that begins no well-formed character is reported as
`none`, together with the longest well-formed beginning that it leads. `strict?` gives up at such a
byte, `lenient` puts the replacement character in its place.
-/

namespace VideoGreeting.Text

/-- A sequence of bytes. -/
abbrev Bytes := List UInt8

/-- The UTF-8 form of a text. -/
def encode (s : String) : Bytes := s.toUTF8.toList

/-- How many bytes follow a leading byte, the range of the first of them, and the bits that the
leading byte contributes. -/
def leadOf? (b : UInt8) : Option (Nat × UInt8 × UInt8 × Nat) :=
  if 0xc2 ≤ b && b ≤ 0xdf then some (1, 0x80, 0xbf, b.toNat - 0xc0)
  else if b == 0xe0 then some (2, 0xa0, 0xbf, 0)
  else if b == 0xed then some (2, 0x80, 0x9f, 0xd)
  else if 0xe1 ≤ b && b ≤ 0xef then some (2, 0x80, 0xbf, b.toNat - 0xe0)
  else if b == 0xf0 then some (3, 0x90, 0xbf, 0)
  else if 0xf1 ≤ b && b ≤ 0xf3 then some (3, 0x80, 0xbf, b.toNat - 0xf0)
  else if b == 0xf4 then some (3, 0x80, 0x8f, 4)
  else none

/-- Reads `count` continuation bytes, the first within `low` to `high`. What is left is at most as
long as the input. -/
def readTail (count : Nat) (low high : UInt8) (value : Nat) (bytes : Bytes) :
    Option Char × { rest : Bytes // rest.length ≤ bytes.length } :=
  match count, bytes with
  | 0, bytes => (some (Char.ofNat value), ⟨bytes, Nat.le_refl _⟩)
  | _ + 1, [] => (none, ⟨[], Nat.le_refl _⟩)
  | count + 1, b :: rest =>
    if low ≤ b && b ≤ high then
      let (c, ⟨left, h⟩) := readTail count 0x80 0xbf (value * 64 + (b.toNat - 0x80)) rest
      (c, ⟨left, Nat.le_succ_of_le h⟩)
    else (none, ⟨b :: rest, Nat.le_refl _⟩)

/-- The characters of UTF-8 bytes; `none` marks each ill-formed beginning. -/
def decode (bytes : Bytes) : List (Option Char) :=
  match bytes with
  | [] => []
  | b :: rest =>
    if b < 0x80 then some (Char.ofNat b.toNat) :: decode rest
    else
      match leadOf? b with
      | none => none :: decode rest
      | some (count, low, high, value) =>
        match readTail count low high value rest with
        | (c, ⟨left, _⟩) => c :: decode left
  termination_by bytes.length
  decreasing_by all_goals (simp only [List.length_cons]; omega)

/-- The text that well-formed UTF-8 bytes write. -/
def strict? (bytes : Bytes) : Option String := ((decode bytes).mapM id).map String.ofList

/-- The character that stands for what cannot be read. -/
def replacement : Char := '\ufffd'

/-- The text that UTF-8 bytes write, with a replacement character for each ill-formed beginning. -/
def lenient (bytes : Bytes) : String :=
  String.ofList ((decode bytes).map (·.getD replacement))

end VideoGreeting.Text
