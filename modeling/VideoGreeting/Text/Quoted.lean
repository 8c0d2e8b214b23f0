import VideoGreeting.Text.Unprinted

/-!
# Quoted text

Text inside messages is quoted so that every character can be told apart: control characters have
short names, characters without a printed form are given by number, and the quote itself is
escaped.
-/

namespace VideoGreeting.Text

/-- The hexadecimal digits of a character's number. -/
def hexOf (c : Char) : List Char := Nat.toDigits 16 c.toNat

/-- A character between quotes of the kind `quote`. -/
def quotedChar (quote c : Char) : List Char :=
  if c = '\x00' then ['\\', '0']
  else if c = '\t' then ['\\', 't']
  else if c = '\r' then ['\\', 'r']
  else if c = '\n' then ['\\', 'n']
  else if c = '\\' ∨ c = quote then ['\\', c]
  else if isUnprinted c then ['\\', 'u', '\x7b'] ++ hexOf c ++ ['\x7d']
  else [c]

/-- A single character in single quotes. -/
def quoteChar (c : Char) : String := String.ofList (['\''] ++ quotedChar '\'' c ++ ['\''])

/-- A text in double quotes. -/
def quote (s : String) : String :=
  String.ofList (['"'] ++ s.toList.flatMap (quotedChar '"') ++ ['"'])

/-- A list of texts in brackets, each in double quotes. -/
def quoteList (items : List String) : String := "[" ++ ", ".intercalate (items.map quote) ++ "]"

end VideoGreeting.Text
