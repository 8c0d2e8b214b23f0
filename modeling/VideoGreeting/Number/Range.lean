/-!
# What words hold

The ranges of the fixed-width numbers that settings and the engine exchange.
-/

namespace VideoGreeting.Number

/-- The greatest number that 8 bits hold. -/
def maxWord8 : Nat := 255

/-- The greatest number that 16 bits hold. -/
def maxWord16 : Nat := 65535

/-- The greatest number that 32 bits hold. -/
def maxWord32 : Nat := 4294967295

/-- The greatest number that 64 bits hold. -/
def maxWord64 : Nat := 18446744073709551615

/-- The least number that 64 bits hold with a sign. -/
def minInt64 : Int := -9223372036854775808

/-- The greatest number that 64 bits hold with a sign. -/
def maxInt64 : Int := 9223372036854775807

/-- The nearest number that 64 bits hold with a sign. -/
def clampInt64 (n : Int) : Int := max minInt64 (min maxInt64 n)

/-- The 64-bit word that is a number, if there is one. -/
def int64? (n : Int) : Option Int64 :=
  if minInt64 ≤ n ∧ n ≤ maxInt64 then some (Int64.ofInt n) else none

theorem int64?_eq_some_iff {n : Int} {x : Int64} : int64? n = some x ↔ x.toInt = n := by
  unfold int64? minInt64 maxInt64
  constructor
  · intro h
    split at h
    next hrange =>
      cases h
      exact Int64.toInt_ofInt_of_le (by omega) (by omega)
    next => cases h
  · intro h
    have hlow := x.le_toInt
    have hhigh := x.toInt_lt
    rw [← h, if_pos (by omega), Int64.ofInt_toInt]

theorem int64?_eq_none_iff {n : Int} : int64? n = none ↔ n < minInt64 ∨ maxInt64 < n := by
  unfold int64?
  constructor
  · intro h
    split at h
    next => cases h
    next hrange => omega
  · intro h
    rw [if_neg (by omega)]

/-- The difference of two 64-bit words, if it is one. -/
def subInt64? (a b : Int64) : Option Int64 := int64? (a.toInt - b.toInt)

end VideoGreeting.Number
