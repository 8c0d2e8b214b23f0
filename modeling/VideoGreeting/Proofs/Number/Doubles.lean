import VideoGreeting.Proofs.Number.Rounding

/-!
# The nearest double

Doubles near a number are counted in a unit, a power of two of which the number has at
least `2 ^ 52` and less than `2 ^ 53`, or in the least unit there is. Rounding a number to
a double takes the nearest whole number of units, of two that are equally near the even
one.

Nothing is said here about numbers that are too great for a double.
-/

namespace VideoGreeting.Number

/-- The exponent of the unit that doubles near a number are counted in. -/
def unitExponent (x : ℚ) : ℤ := max (Int.log 2 x - 52) (-1074)

/-- The unit that doubles near a number are counted in. -/
def unit (x : ℚ) : ℚ := 2 ^ unitExponent x

/-- The nearest double to a number that is not negative. -/
def toDouble (x : ℚ) : ℚ := nearest (x / unit x) * unit x

/-- A number with less than `2 ^ 53` units, whatever its unit. -/
def IsDouble (x : ℚ) : Prop := ∃ (m : ℕ) (e : ℤ), m < 2 ^ 53 ∧ -1074 ≤ e ∧ x = m * 2 ^ e

variable {x y : ℚ}

/-! ## Units -/

theorem unit_pos (x : ℚ) : 0 < unit x := by
  unfold unit
  positivity

theorem nearestEven_units (hx : 0 ≤ x) : NearestEven (x / unit x) (nearest (x / unit x)) := by
  have hnearest := nearestEven_nearest (x / unit x)
  rwa [abs_of_nonneg (div_nonneg hx (unit_pos x).le)] at hnearest

/-- A number has less than `2 ^ 53` units. -/
theorem lt_units (x : ℚ) : x < 2 ^ 53 * unit x := by
  have hlog : x < (2 : ℚ) ^ (Int.log 2 x + 1) := by
    exact_mod_cast Int.lt_zpow_succ_log_self (b := 2) (by decide) x
  refine hlog.trans_le ?_
  rw [unit, ← zpow_natCast, ← zpow_add₀ (by norm_num)]
  refine zpow_le_zpow_right₀ (by norm_num) ?_
  have hexponent : Int.log 2 x - 52 ≤ unitExponent x := le_max_left _ _
  push_cast
  omega

/-- Unless the unit is the least one, a number has at least `2 ^ 52` of them. -/
theorem units_le (hx : 0 < x) (hunit : -1074 < unitExponent x) : 2 ^ 52 * unit x ≤ x := by
  have hlog : (2 : ℚ) ^ Int.log 2 x ≤ x := by
    exact_mod_cast Int.zpow_log_le_self (b := 2) (by decide) hx
  have hexponent : unitExponent x = Int.log 2 x - 52 := by
    unfold unitExponent at *
    omega
  refine le_trans (le_of_eq ?_) hlog
  rw [unit, hexponent, ← zpow_natCast, ← zpow_add₀ (by norm_num)]
  congr 1
  push_cast
  ring

theorem unitExponent_mono (hx : 0 < x) (h : x ≤ y) : unitExponent x ≤ unitExponent y := by
  have hlog := Int.log_mono_right (b := 2) hx h
  unfold unitExponent
  omega

/-! ## Rounding -/

theorem toDouble_nonneg (x : ℚ) : 0 ≤ toDouble x := by
  have hunit := unit_pos x
  unfold toDouble
  positivity

theorem toDouble_zero : toDouble 0 = 0 := by
  have hnearest : nearest (0 / unit 0) = 0 := by
    have h := nearestEven_units le_rfl
    rw [zero_div] at h ⊢
    exact h.unique (by exact_mod_cast NearestEven.natCast 0)
  rw [toDouble, hnearest, Nat.cast_zero, zero_mul]

theorem nearest_le (hx : 0 ≤ x) : nearest (x / unit x) ≤ 2 ^ 53 := by
  refine (nearestEven_units hx).mono (NearestEven.natCast _) ?_
  rw [div_le_iff₀ (unit_pos x)]
  exact_mod_cast (lt_units x).le

theorem le_nearest (hx : 0 < x) (hunit : -1074 < unitExponent x) :
    2 ^ 52 ≤ nearest (x / unit x) := by
  refine (NearestEven.natCast _).mono (nearestEven_units hx.le) ?_
  rw [le_div_iff₀ (unit_pos x)]
  exact_mod_cast units_le hx hunit

/-- **Rounding keeps the order.** Numbers with the same unit are ordered like their
numbers of units, and between numbers with different units lies a power of two. -/
theorem toDouble_mono (hx : 0 ≤ x) (h : x ≤ y) : toDouble x ≤ toDouble y := by
  rcases hx.eq_or_lt with rfl | hpos
  · rw [toDouble_zero]
    exact toDouble_nonneg y
  have hunits := unitExponent_mono hpos h
  have hxunit := unit_pos x
  rcases hunits.eq_or_lt with hsame | hless
  · have hunit : unit y = unit x := by rw [unit, unit, hsame]
    have hnearest : nearest (x / unit x) ≤ nearest (y / unit y) := by
      refine (nearestEven_units hx).mono (nearestEven_units (hx.trans h)) ?_
      rw [hunit]
      gcongr
    rw [toDouble, toDouble, hunit]
    rw [hunit] at hnearest
    gcongr
  · have hleast : -1074 ≤ unitExponent x := le_max_right _ _
    have hlow : (nearest (x / unit x) : ℚ) ≤ 2 ^ 53 := by exact_mod_cast nearest_le hx
    have hhigh : (2 : ℚ) ^ 52 ≤ nearest (y / unit y) := by
      exact_mod_cast le_nearest (hpos.trans_le h) (hleast.trans_lt hless)
    have hdouble : 2 * unit x ≤ unit y := by
      rw [unit, unit, ← zpow_one_add₀ (by norm_num)]
      exact zpow_le_zpow_right₀ (by norm_num) (by omega)
    calc toDouble x ≤ 2 ^ 53 * unit x := by unfold toDouble; gcongr
      _ = 2 ^ 52 * (2 * unit x) := by ring
      _ ≤ 2 ^ 52 * unit y := by gcongr
      _ ≤ toDouble y := by
          have hyunit := unit_pos y
          unfold toDouble
          gcongr

/-- **Doubles stay.** -/
theorem toDouble_of_isDouble (h : IsDouble x) : toDouble x = x := by
  obtain ⟨m, e, hm, he, rfl⟩ := h
  rcases Nat.eq_zero_or_pos m with rfl | hpos
  · simpa using toDouble_zero
  have hcast : (0 : ℚ) < m := Nat.cast_pos.mpr hpos
  have hx : (0 : ℚ) < m * 2 ^ e := by positivity
  -- the unit divides the unit that the double is given in
  have hunit : unitExponent (m * 2 ^ e) ≤ e := by
    have hlt : (m : ℚ) * 2 ^ e < (2 : ℚ) ^ (53 + e) := by
      rw [zpow_add₀ (by norm_num)]
      have hm' : (m : ℚ) < 2 ^ (53 : ℤ) := by exact_mod_cast hm
      gcongr
    have hlog : Int.log 2 ((m : ℚ) * 2 ^ e) < 53 + e := by
      rw [← not_le, ← Int.zpow_le_iff_le_log (by decide) hx, not_le]
      exact_mod_cast hlt
    unfold unitExponent
    omega
  obtain ⟨k, hk⟩ := Int.le.dest hunit
  have hwhole : (m : ℚ) * 2 ^ e / unit (m * 2 ^ e) = (m * 2 ^ k : ℕ) := by
    rw [div_eq_iff (unit_pos _).ne', unit]
    conv_lhs => rw [← hk, zpow_add₀ (by norm_num), zpow_natCast]
    push_cast
    ring
  have hnearest : nearest ((m : ℚ) * 2 ^ e / unit (m * 2 ^ e)) = m * 2 ^ k := by
    have h := nearestEven_units hx.le
    rw [hwhole] at h ⊢
    exact h.unique (NearestEven.natCast _)
  rw [toDouble, hnearest, ← hwhole, div_mul_cancel₀ _ (unit_pos _).ne']

theorem toDouble_le_of_le (hx : 0 ≤ x) (h : x ≤ y) (hy : IsDouble y) : toDouble x ≤ y := by
  rw [← toDouble_of_isDouble hy]
  exact toDouble_mono hx h

/-! ## Errors -/

/-- Rounding is off by half a unit at most. -/
theorem abs_toDouble_sub_le (hx : 0 ≤ x) : |toDouble x - x| ≤ unit x / 2 := by
  have hunit := unit_pos x
  have hsplit : toDouble x - x = (nearest (x / unit x) - x / unit x) * unit x := by
    unfold toDouble
    field_simp
  have hnear := (nearestEven_units hx).near
  rw [hsplit, abs_mul, abs_of_pos hunit]
  nlinarith

/-- From `2 ^ -1022` on rounding is off by no more than a part in `2 ^ 53`. -/
theorem abs_toDouble_sub_le_of_normal (hx : 2 ^ (-1022 : ℤ) ≤ x) :
    |toDouble x - x| ≤ x / 2 ^ 53 := by
  have hpos : 0 < x := lt_of_lt_of_le (by positivity) hx
  have hunits : 2 ^ 52 * unit x ≤ x := by
    rcases eq_or_lt_of_le (show -1074 ≤ unitExponent x from le_max_right _ _) with hleast | hmore
    · refine le_trans (le_of_eq ?_) hx
      rw [unit, ← hleast, ← zpow_natCast, ← zpow_add₀ (by norm_num)]
      norm_num
    · exact units_le hpos hmore
  have herror := abs_toDouble_sub_le hpos.le
  rw [le_div_iff₀ (by norm_num)]
  linarith

end VideoGreeting.Number
