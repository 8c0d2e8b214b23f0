import VideoGreeting.Number.Range

/-!
# Numbers read from text

The numerals accepted in settings and in the engine's progress lines. Nothing is skipped: a text
with a blank, a separator or any other foreign character is no numeral.
-/

namespace VideoGreeting.Number

/-- Whether a character is one of `0` to `9`. -/
def isDigit (c : Char) : Bool := '0' ≤ c && c ≤ '9'

/-- The number that a list of digits writes. -/
def digitsValue (digits : List Char) : Nat :=
  digits.foldl (fun n c => n * 10 + (c.toNat - '0'.toNat)) 0

/-- One or more digits. -/
def digits? (cs : List Char) : Option Nat :=
  if cs.isEmpty || !cs.all isDigit then none else some (digitsValue cs)

/-- A leading sign, and what follows it; `true` stands for minus. -/
def splitSign : List Char → Option Bool × List Char
  | '+' :: rest => (some false, rest)
  | '-' :: rest => (some true, rest)
  | cs => (none, cs)

/-- An unsigned numeral of at most `bound`; a plus sign may lead. -/
def readNat? (bound : Nat) (text : String) : Option Nat :=
  match splitSign text.toList with
  | (some true, _) => none
  | (_, rest) => (digits? rest).filter (· ≤ bound)

/-- A signed numeral within the range of a 64-bit word. -/
def readInt64? (text : String) : Option Int64 :=
  let (sign, rest) := splitSign text.toList
  (digits? rest).bind fun n => int64? (if sign = some true then -(n : Int) else n)

/-- ASCII letters in lower case; other characters are kept. -/
def lowerAscii (c : Char) : Char :=
  if 'A' ≤ c && c ≤ 'Z' then Char.ofNat (c.toNat + 32) else c

/-- The exponent part of a decimal: nothing, or `e` and a signed numeral. -/
def exponent? : List Char → Option Int
  | [] => some 0
  | c :: rest =>
    if lowerAscii c = 'e' then
      let (sign, digits) := splitSign rest
      (digits? digits).map fun n : Nat => if sign = some true then -(n : Int) else n
    else none

/-- The double nearest to `mantissa · 10 ^ power`. -/
def scientific (mantissa : Nat) (power : Int) : Float :=
  Float.ofScientific mantissa (power < 0) power.natAbs

/-- An unsigned decimal: digits with at most one point among them and at least one digit, then an
exponent. -/
def decimal? (cs : List Char) : Option Float :=
  let whole := cs.takeWhile isDigit
  let (places, rest) :=
    match cs.dropWhile isDigit with
    | '.' :: rest => (rest.takeWhile isDigit, rest.dropWhile isDigit)
    | rest => ([], rest)
  if whole.isEmpty && places.isEmpty then none
  else (exponent? rest).map fun power =>
    scientific (digitsValue (whole ++ places)) (power - places.length)

/-- A double: a decimal or one of the words `inf`, `infinity` and `nan` in any case, with an
optional sign. The nearest double is taken. -/
def readFloat? (text : String) : Option Float :=
  let (sign, rest) := splitSign text.toList
  let magnitude :=
    if rest.map lowerAscii = "nan".toList then some (0.0 / 0.0)
    else if rest.map lowerAscii = "inf".toList ∨ rest.map lowerAscii = "infinity".toList then
      some (1.0 / 0.0)
    else decimal? rest
  magnitude.map fun x => if sign = some true then -x else x

end VideoGreeting.Number
