import VideoGreeting.Text.Bytes

/-!
# Percent encoding

In the path of a request a percent sign and two hexadecimal digits stand for a byte.
-/

namespace VideoGreeting.Http.Percent

open Text (Bytes)

/-- The value of a hexadecimal digit. -/
def digit? (b : UInt8) : Option UInt8 :=
  if 0x30 ≤ b && b ≤ 0x39 then some (b - 0x30)
  else if 0x61 ≤ b && b ≤ 0x66 then some (b - 0x61 + 10)
  else if 0x41 ≤ b && b ≤ 0x46 then some (b - 0x41 + 10)
  else none

/-- The byte that two hexadecimal digits stand for. -/
def byte? (high low : UInt8) : Option UInt8 := do return (← digit? high) * 16 + (← digit? low)

/-- The bytes that an encoded sequence stands for; a percent sign without digits stands for
itself. -/
def decode : Bytes → Bytes
  | 0x25 :: high :: low :: rest =>
    match byte? high low with
    | some b => b :: decode rest
    | none => 0x25 :: decode (high :: low :: rest)
  | b :: rest => b :: decode rest
  | [] => []

/-- The text that an encoded text stands for, if it is one. -/
def decodeText? (text : String) : Option String := Text.strict? (decode (Text.encode text))

end VideoGreeting.Http.Percent
