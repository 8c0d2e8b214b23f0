import Mathlib
import VideoGreeting.Number.Value

/-!
# The nearest whole number

What it is to be the nearest whole number to a fraction, of two that are equally near the
even one. It is said of the distance alone, and from that it follows that there is only
one, that it keeps the order of fractions, and that it tells fractions apart which lie
more than one apart.

`nearestEven_roundDivEven` says that the division of whole numbers finds it, and `nearest` is
the function on fractions that it gives.
-/

namespace VideoGreeting.Number

/-- A nearest whole number to `x`, the even one if two are equally near. -/
structure NearestEven (x : ℚ) (n : ℕ) : Prop where
  near : |(n : ℚ) - x| ≤ 1 / 2
  even : |(n : ℚ) - x| = 1 / 2 → Even n

namespace NearestEven

variable {x y : ℚ} {m n : ℕ}

theorem le_add_half (h : NearestEven x n) : (n : ℚ) ≤ x + 1 / 2 := by
  linarith [(abs_le.mp h.near).2]

theorem sub_half_le (h : NearestEven x n) : x - 1 / 2 ≤ n := by
  linarith [(abs_le.mp h.near).1]

/-- What is less than a half away is nearest. -/
theorem of_lt (h : |(n : ℚ) - x| < 1 / 2) : NearestEven x n :=
  ⟨h.le, fun heq => absurd heq h.ne⟩

theorem natCast (n : ℕ) : NearestEven n n := of_lt (by norm_num)

/-- Halfway between neighbours the even one is nearest. -/
theorem add_half (n : ℕ) : NearestEven (n + 1 / 2) (n + n % 2) := by
  constructor
  · rcases Nat.mod_two_eq_zero_or_one n with h | h
    · rw [h]
      norm_num
    · rw [h]
      push_cast
      norm_num
  · intro _
    rw [Nat.even_iff]
    omega

/-- **The order is kept.** If a greater fraction had a smaller nearest number, both would
lie halfway between two neighbours, and both neighbours would be even. -/
theorem mono (hx : NearestEven x m) (hy : NearestEven y n) (h : x ≤ y) : m ≤ n := by
  by_contra hlt
  rw [not_le] at hlt
  have hgap : (n : ℚ) + 1 ≤ m := by exact_mod_cast hlt
  have hm := hx.le_add_half
  have hn := hy.sub_half_le
  have hmeq : (m : ℚ) - x = 1 / 2 := by linarith
  have hneq : (n : ℚ) - y = -(1 / 2) := by linarith
  have hsucc : m = n + 1 := by
    have : (m : ℚ) = n + 1 := by linarith
    exact_mod_cast this
  have hmeven : Even m := hx.even (by rw [hmeq]; norm_num)
  have hneven : Even n := hy.even (by rw [hneq]; norm_num)
  rw [hsucc] at hmeven
  exact absurd hneven (Nat.even_add_one.mp hmeven)

/-- There is only one. -/
theorem unique (hm : NearestEven x m) (hn : NearestEven x n) : m = n :=
  le_antisymm (hm.mono hn le_rfl) (hn.mono hm le_rfl)

theorem lt_of_add_one_lt (hx : NearestEven x m) (hy : NearestEven y n) (h : x + 1 < y) :
    m < n := by
  have hm := hx.le_add_half
  have hn := hy.sub_half_le
  have hlt : (m : ℚ) < n := by linarith
  exact_mod_cast hlt

end NearestEven

/-- A quotient is its whole part and a proper fraction. -/
theorem div_eq_add_mod_div (a : ℕ) {b : ℕ} (hb : 0 < b) :
    (a : ℚ) / b = (a / b : ℕ) + (a % b : ℕ) / b := by
  have hcast : (b : ℚ) ≠ 0 := Nat.cast_ne_zero.mpr hb.ne'
  have hsplit : ((b * (a / b) + a % b : ℕ) : ℚ) = a := by rw [Nat.div_add_mod]
  push_cast at hsplit
  field_simp
  linarith

/-- **The rounded quotient** is nearest to the exact one. -/
theorem nearestEven_roundDivEven (a : ℕ) {b : ℕ} (hb : 0 < b) :
    NearestEven (a / b) (roundDivEven a b) := by
  have hcast : (0 : ℚ) < b := Nat.cast_pos.mpr hb
  have hr : (0 : ℚ) ≤ (a % b : ℕ) / b := by positivity
  have hr1 : ((a % b : ℕ) : ℚ) / b < 1 := by
    rw [div_lt_one hcast]
    exact_mod_cast Nat.mod_lt a hb
  -- the remainder against half of the divisor
  have hlt : ((a % b : ℕ) : ℚ) / b < 1 / 2 ↔ 2 * (a % b) < b := by
    rw [div_lt_iff₀ hcast, ← Nat.cast_lt (α := ℚ)]
    push_cast
    constructor <;> intro h <;> linarith
  have hgt : 1 / 2 < ((a % b : ℕ) : ℚ) / b ↔ b < 2 * (a % b) := by
    rw [lt_div_iff₀ hcast, ← Nat.cast_lt (α := ℚ)]
    push_cast
    constructor <;> intro h <;> linarith
  rw [div_eq_add_mod_div a hb]
  unfold roundDivEven
  dsimp only
  generalize ((a % b : ℕ) : ℚ) / b = r at hr hr1 hlt hgt
  split
  next hbelow =>
    apply NearestEven.of_lt
    rw [sub_add_cancel_left, abs_neg, abs_of_nonneg hr]
    exact hlt.mpr hbelow
  next hbelow =>
    split
    next habove =>
      apply NearestEven.of_lt
      have hhalf := hgt.mpr habove
      rw [Nat.cast_succ, abs_lt]
      constructor <;> linarith
    next habove =>
      have hhalf : r = 1 / 2 :=
        le_antisymm (not_lt.mp fun h => habove (hgt.mp h)) (not_lt.mp fun h => hbelow (hlt.mp h))
      rw [hhalf]
      split
      next heven =>
        refine ⟨?_, fun _ => Nat.even_iff.mpr (by simpa using heven)⟩
        norm_num
      next hodd =>
        refine ⟨?_, fun _ => Nat.even_add_one.mpr fun h => hodd (by simpa using Nat.even_iff.mp h)⟩
        rw [Nat.cast_succ]
        norm_num

/-- The nearest whole number to the size of a fraction. -/
def nearest (x : ℚ) : ℕ := roundDivEven x.num.natAbs x.den

theorem nearestEven_nearest (x : ℚ) : NearestEven |x| (nearest x) := by
  have hsize : |x| = (x.num.natAbs : ℚ) / x.den := by
    rw [Rat.abs_def, Rat.divInt_eq_div]
    simp
  rw [hsize]
  exact nearestEven_roundDivEven x.num.natAbs x.den_pos

end VideoGreeting.Number
