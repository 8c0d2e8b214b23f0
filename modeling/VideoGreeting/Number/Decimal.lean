import VideoGreeting.Number.Value

/-!
# Doubles as decimal text

Two ways of writing a double, both in positional notation and both from its exact value:
`fixed` with a given number of places, and `shortest` with the fewest digits that read back.
-/

namespace VideoGreeting.Number

/-- The decimal digits of `n`, at least `width` of them. -/
def padded (width n : Nat) : List Char :=
  let digits := Nat.toDigits 10 n
  List.replicate (width - digits.length) '0' ++ digits

/-- `scaled / 10 ^ places` in positional notation; no point when there are no places. -/
def positional (places scaled : Nat) : List Char :=
  let digits := padded (places + 1) scaled
  let whole := digits.take (digits.length - places)
  if places = 0 then whole else whole ++ '.' :: digits.drop (digits.length - places)

/-- Writes the sign before the digits. -/
def signed (negative : Bool) (digits : List Char) : List Char :=
  if negative then '-' :: digits else digits

/-- The words for the two infinities. -/
def infinityText (negative : Bool) : List Char := signed negative "inf".toList

/-- The value with exactly `places` decimals; the exact value is rounded and a half goes to the
even neighbour. A negative value keeps its sign when it rounds to zero. -/
def fixed (places : Nat) : Value → List Char
  | .nan => "NaN".toList
  | .infinite negative => infinityText negative
  | .finite negative m e =>
    signed negative
      (positional places (roundDivEven (Value.num m e * Nat.pow 10 places) (Value.den e)))

/-! ## The fewest digits that read back -/

/-- The interval of numbers that round to a double, in quarters of its unit: `low` to `high`
quarters, ends included when `closed`. The gap below a power of two is half the gap above. -/
structure Rounding where
  low : Nat
  high : Nat
  closed : Bool

/-- The rounding interval of `mantissa · 2 ^ exponent`. -/
def Rounding.of (mantissa : Nat) (exponent : Int) : Rounding :=
  { low := if mantissa = Nat.pow 2 52 ∧ -1074 < exponent then 4 * mantissa - 1 else 4 * mantissa - 2
    high := 4 * mantissa + 2
    closed := mantissa % 2 == 0 }

/-- Whether `n / d` quarters lie in the interval. -/
def Rounding.contains (r : Rounding) (n d : Nat) : Bool :=
  if r.closed then r.low * d ≤ n && n ≤ r.high * d else r.low * d < n && n < r.high * d

/-- A decimal `digits · 10 ^ power`. -/
structure Decimal where
  digits : Nat
  power : Int
  deriving Repr, DecidableEq

/-- `10 ^ power` split into a factor above and a factor below the fraction bar. -/
def tenPower (power : Int) : Nat × Nat := (Nat.pow 10 power.toNat, Nat.pow 10 (-power).toNat)

/-- The better of the two neighbours of `mantissa · 2 ^ exponent` on the grid of multiples of
`10 ^ power`, among those that read back; halfway between them it is the greater one. -/
def Decimal.onGrid? (mantissa : Nat) (exponent power : Int) : Option Decimal :=
  let quarter := exponent - 2
  let (up, down) := tenPower power
  -- the value is `n / d` grid steps
  let n := Value.num (4 * mantissa) quarter * down
  let d := Value.den quarter * up
  let below := n / d
  let interval := Rounding.of mantissa exponent
  -- `k` grid steps are `k · up · den / (down · 2 ^ quarter)` quarters
  let readsBack (k : Nat) : Bool :=
    interval.contains (k * up * Value.den quarter) (Value.num 1 quarter * down)
  match readsBack below, readsBack (below + 1) with
  | true, true => some ⟨if 2 * (n % d) < d then below else below + 1, power⟩
  | true, false => some ⟨below, power⟩
  | false, true => some ⟨below + 1, power⟩
  | false, false => none

/-- How many decimal places the first nonzero digit of `num / den < 1` stands behind the point,
less one; `limit` bounds the search. -/
def leadingZeros (num den : Nat) : Nat → Nat
  | 0 => 0
  | limit + 1 => if num * 10 < den then leadingZeros (num * 10) den limit + 1 else 0

/-- The power of ten of the first digit of a nonzero value. -/
def leadingPower (mantissa : Nat) (exponent : Int) : Int :=
  let n := Value.num mantissa exponent
  let d := Value.den exponent
  if d ≤ n then ((Nat.toDigits 10 (n / d)).length : Int) - 1
  else -((leadingZeros n d 400 : Nat) : Int) - 1

/-- The decimal with the fewest digits that reads back as `mantissa · 2 ^ exponent`, and the
nearest of those. The first grid is that of the next power of ten, to which the value may round up;
seventeen digits always suffice. -/
def Decimal.shortest (mantissa : Nat) (exponent : Int) : Decimal :=
  let next := leadingPower mantissa exponent + 1
  let grids := (List.range 18).map fun (i : Nat) => next - i
  (grids.findSome? (Decimal.onGrid? mantissa exponent)).getD ⟨0, 0⟩

/-- A decimal in positional notation, without an exponent. -/
def Decimal.text (d : Decimal) : List Char :=
  if 0 ≤ d.power then positional 0 (d.digits * Nat.pow 10 d.power.toNat)
  else positional (-d.power).toNat d.digits

/-- The value with the fewest digits that read back, never with an exponent. -/
def shortest : Value → List Char
  | .nan => "NaN".toList
  | .infinite negative => infinityText negative
  | .finite negative m e =>
    if m = 0 then signed negative ['0'] else signed negative (Decimal.shortest m e).text

/-- A double with a fixed number of places. -/
def fixedText (places : Nat) (x : Float) : String := String.ofList (fixed places (.ofFloat x))

/-- A double with the fewest digits that read back. -/
def shortestText (x : Float) : String := String.ofList (shortest (.ofFloat x))

end VideoGreeting.Number
