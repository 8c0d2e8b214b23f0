import VideoGreeting.Number.Range

/-!
# The number a double stands for

A finite double is `± mantissa · 2 ^ exponent`. Everything that prints or rounds a double works on
that exact value, in natural-number arithmetic.
-/

namespace VideoGreeting.Number

/-- What a double stands for. Zero has mantissa `0` and keeps its sign. -/
inductive Value where
  | nan
  | infinite (negative : Bool)
  | finite (negative : Bool) (mantissa : Nat) (exponent : Int)
  deriving Repr, DecidableEq

namespace Value

/-- The value of a double. The mantissa of a nonzero double is the one its format stores. -/
def ofFloat (x : Float) : Value :=
  match x.toModel.unpack with
  | .notANumber => .nan
  | .infinity sign => .infinite (sign == .negative)
  | .zero sign => .finite (sign == .negative) 0 0
  | .finite sign mantissa exponent _ => .finite (sign == .negative) mantissa exponent

/-- Numerator of `mantissa · 2 ^ exponent`. -/
def num (mantissa : Nat) (exponent : Int) : Nat := mantissa * Nat.pow 2 exponent.toNat

/-- Denominator of `mantissa · 2 ^ exponent`, a power of two. -/
def den (exponent : Int) : Nat := Nat.pow 2 (-exponent).toNat

/-- Whether the value is a whole number. -/
def isWhole : Value → Bool
  | nan => false
  | infinite _ => false
  | finite _ m e => num m e % den e == 0

/-- The value cut off at the point, toward zero. -/
def truncate : Value → Int
  | nan => 0
  | infinite _ => 0
  | finite negative m e =>
    let whole : Int := (num m e / den e : Nat)
    if negative then -whole else whole

/-- The nearest whole number; a half goes away from zero. -/
def roundAway : Value → Int
  | nan => 0
  | infinite _ => 0
  | finite negative m e =>
    let whole : Int := ((2 * num m e + den e) / (2 * den e) : Nat)
    if negative then -whole else whole

end Value

/-- The value as a 64-bit word after `round`, which brings it to a whole number: values out of
range go to the nearer end of the range, and a value that is not a number goes to `0`. -/
def Value.toInt64With (round : Value → Int) (v : Value) : Int :=
  match v with
  | .nan => 0
  | .infinite negative => if negative then minInt64 else maxInt64
  | .finite negative m e => clampInt64 (round (.finite negative m e))

/-- Quotient rounded to the nearest whole number; a half goes to the even neighbour. -/
def roundDivEven (num den : Nat) : Nat :=
  let q := num / den
  let r := num % den
  if 2 * r < den then q
  else if den < 2 * r then q + 1
  else if q % 2 == 0 then q else q + 1

end VideoGreeting.Number
