import VideoGreeting.Proofs.Number.FloatArithmetic

/-!
# The order of doubles

Doubles are compared by their exponents first and by their mantissas then. What is stored
of a double is canonical, so a greater exponent means a greater size, and the order of
doubles is the order of the numbers that they stand for.

Main theorem: `le_iff_of_rational?`.
-/

namespace VideoGreeting.Number

open Float.Model Float.Model.UnpackedFloat

/-! ## Sizes -/

section Sizes

variable {m m' : ℕ} {e e' : ℤ}

/-- A greater exponent means a greater size: the smaller one ends below the power of two
at which the greater one begins. -/
theorem Canonical.size_lt (h : Canonical m e) (h' : Canonical m' e') (he : e < e') :
    (m : ℚ) * 2 ^ e < m' * 2 ^ e' := by
  have hleast := h.least
  have hlow : 2 ^ 52 ≤ m' := by
    rcases h'.full with hunit | hfull
    · omega
    · exact hfull
  have hm : (m : ℚ) < 2 ^ 53 := by exact_mod_cast h.lt
  have hm' : (2 : ℚ) ^ 52 ≤ m' := by exact_mod_cast hlow
  calc (m : ℚ) * 2 ^ e < 2 ^ 53 * 2 ^ e := by gcongr
    _ = 2 ^ 52 * 2 ^ (e + 1) := by
        rw [zpow_add_one₀ (by norm_num)]
        ring
    _ ≤ m' * 2 ^ e' := by
        gcongr
        · norm_num
        · omega

/-- Sizes are compared by their exponents first and by their mantissas then. -/
theorem isLE_compare_iff (h : Canonical m e) (h' : Canonical m' e') :
    ((compare e e').then (compare m m')).isLE = true ↔ (m : ℚ) * 2 ^ e ≤ m' * 2 ^ e' := by
  rcases lt_trichotomy e e' with hlt | rfl | hgt
  · rw [Int.compare_eq_lt.mpr hlt]
    exact iff_of_true rfl (h.size_lt h' hlt).le
  · have hunit : (0 : ℚ) < 2 ^ e := by positivity
    rw [Int.compare_eq_eq.mpr rfl, mul_le_mul_iff_left₀ hunit, Nat.cast_le]
    exact Nat.isLE_compare
  · rw [Int.compare_eq_gt.mpr hgt]
    exact iff_of_false Bool.false_ne_true (not_le.mpr (h'.size_lt h hgt))

end Sizes

/-! ## Unpacked numbers -/

/-- An unpacked number of either sign, as doubles store it. -/
inductive Holds : ℚ → UnpackedFloat → Prop
  | zero (sign : Sign) : Holds 0 (.zero sign)
  | positive {m : ℕ} {e : ℤ} (hm : 0 < m) (h : Canonical m e) :
      Holds (m * 2 ^ e) (.finite .positive m e hm)
  | negative {m : ℕ} {e : ℤ} (hm : 0 < m) (h : Canonical m e) :
      Holds (-(m * 2 ^ e)) (.finite .negative m e hm)

theorem size_mul_pos {m : ℕ} (hm : 0 < m) (e : ℤ) : (0 : ℚ) < m * 2 ^ e := by
  have hcast : (0 : ℚ) < m := Nat.cast_pos.mpr hm
  positivity

/-- The comparison of unpacked numbers. -/
theorem Holds.le_iff {u v : UnpackedFloat} {p q : ℚ} (hu : Holds p u) (hv : Holds q v) :
    u.le v = true ↔ p ≤ q := by
  cases hu with
  | zero s =>
      cases hv with
      | zero s' => exact iff_of_true rfl le_rfl
      | @positive m' e' hm' h' => exact iff_of_true rfl (size_mul_pos hm' e').le
      | @negative m' e' hm' h' =>
          have hpos := size_mul_pos hm' e'
          exact iff_of_false Bool.false_ne_true (by linarith)
  | @positive m e hm h =>
      have hpos := size_mul_pos hm e
      cases hv with
      | zero s' => exact iff_of_false Bool.false_ne_true (not_le.mpr hpos)
      | positive hm' h' => exact isLE_compare_iff h h'
      | @negative m' e' hm' h' =>
          have hpos' := size_mul_pos hm' e'
          exact iff_of_false Bool.false_ne_true (by linarith)
  | @negative m e hm h =>
      have hpos := size_mul_pos hm e
      cases hv with
      | zero s' => exact iff_of_true rfl (by linarith)
      | @positive m' e' hm' h' =>
          have hpos' := size_mul_pos hm' e'
          exact iff_of_true rfl (by linarith)
      | @negative m' e' hm' h' =>
          -- below zero the greater size is the smaller number
          rw [neg_le_neg_iff, ← isLE_compare_iff h' h, ← Int.compare_swap, ← Nat.compare_swap,
            ← Ordering.swap_then]
          rfl

/-! ## Doubles -/

section Doubles

variable {x y : Float} {p q : ℚ}

theorem isFinite_iff : x.isFinite = true ↔ ∃ q, (Value.ofFloat x).rational? = some q := by
  have hfinite : x.isFinite = x.toModel.unpack.isFinite := rfl
  rw [hfinite]
  unfold Value.ofFloat
  cases x.toModel.unpack with
  | notANumber | infinity sign => simp [UnpackedFloat.isFinite, Value.rational?]
  | zero sign | finite sign m e hm => simp [UnpackedFloat.isFinite, Value.rational?]

/-- What is stored of a double that stands for a number. -/
theorem holds_of_rational? (h : (Value.ofFloat x).rational? = some q) :
    Holds q x.toModel.unpack := by
  unfold Value.ofFloat at h
  cases hx : x.toModel.unpack with
  | notANumber | infinity sign =>
      rw [hx] at h
      cases h
  | zero sign =>
      rw [hx] at h
      have hzero : q = 0 := by simpa [Value.rational?, Value.num] using h.symm
      rw [hzero]
      exact .zero sign
  | finite sign m e hm =>
      rw [hx] at h
      have hvalue := Option.some.inj h
      rw [num_div_den] at hvalue
      rw [← hvalue]
      cases sign with
      | positive => exact .positive hm (canonical_unpack hx)
      | negative => exact .negative hm (canonical_unpack hx)

/-- A double whose value is a number above zero stands for it. -/
theorem stands_of_rational? (hq : 0 < q) (h : (Value.ofFloat x).rational? = some q) :
    Stands x q := by
  have hholds := holds_of_rational? h
  unfold Stands
  generalize x.toModel.unpack = u at hholds ⊢
  cases hholds with
  | zero sign => exact absurd hq (lt_irrefl 0)
  | positive hm hcanonical => exact ⟨hcanonical, rfl⟩
  | negative hm hcanonical =>
      exact absurd hq (not_lt.mpr (neg_nonpos.mpr (size_mul_pos hm _).le))

/-- **The order of doubles** is the order of the numbers that they stand for. -/
theorem le_iff_of_rational? (hx : (Value.ofFloat x).rational? = some p)
    (hy : (Value.ofFloat y).rational? = some q) : x ≤ y ↔ p ≤ q := by
  have hunpack : x ≤ y ↔ x.toModel.unpack.le y.toModel.unpack = true := decide_eq_true_iff
  rw [hunpack]
  exact (holds_of_rational? hx).le_iff (holds_of_rational? hy)

/-- A size from `2 ^ 53` on is a whole number. -/
theorem Canonical.den_eq_one {m : ℕ} {e : ℤ} (h : Canonical m e)
    (hsize : (2 : ℚ) ^ 53 ≤ m * 2 ^ e) :
    ((m : ℚ) * 2 ^ e).den = 1 := by
  have he : 0 ≤ e := by
    by_contra hneg
    have hm : (m : ℚ) < 2 ^ 53 := by exact_mod_cast h.lt
    have hunit : (2 : ℚ) ^ e ≤ 1 := zpow_le_one_of_nonpos₀ (by norm_num) (by omega)
    have hpos : (0 : ℚ) < 2 ^ e := by positivity
    nlinarith
  obtain ⟨k, rfl⟩ := Int.eq_ofNat_of_zero_le he
  have hwhole : (m : ℚ) * 2 ^ (k : ℤ) = (m * 2 ^ k : ℕ) := by
    rw [zpow_natCast]
    push_cast
    rfl
  rw [hwhole, Rat.den_natCast]

/-- Doubles with places behind the point are smaller than `2 ^ 53`. -/
theorem abs_lt_of_den_ne_one (h : (Value.ofFloat x).rational? = some q) (hden : q.den ≠ 1) :
    |q| < 2 ^ 53 := by
  have hholds := holds_of_rational? h
  generalize x.toModel.unpack = u at hholds
  by_contra hgreat
  rw [not_lt] at hgreat
  cases hholds with
  | zero sign => exact hden rfl
  | @positive m e hm hcanonical =>
      rw [abs_of_pos (size_mul_pos hm e)] at hgreat
      exact hden (hcanonical.den_eq_one hgreat)
  | @negative m e hm hcanonical =>
      rw [abs_neg, abs_of_pos (size_mul_pos hm e)] at hgreat
      rw [Rat.neg_den] at hden
      exact hden (hcanonical.den_eq_one hgreat)

end Doubles

/-! ## Bounds -/

/-- What is stored of a double has no greater exponent than that of the greatest double. -/
theorem exponent_unpack_le {x : Float.Model} {sign : Sign} {m : ℕ} {e : ℤ} {hm : 0 < m}
    (h : x.unpack = .finite sign m e hm) : e ≤ 971 := by
  have hfield : (@unpackExponent .binary64 x.toBits.toBitVec).toNat < 2 ^ 11 := BitVec.isLt _
  unfold Float.Model.unpack UnpackedFloat.unpack at h
  dsimp only at h
  split at h
  next =>
    split at h
    · cases h
    · cases h
  next hones =>
    -- the exponent of which all bits are set is kept for what is no number
    have hne : (@unpackExponent .binary64 x.toBits.toBitVec).toNat ≠ 2047 :=
      fun heq => hones (BitVec.eq_of_toNat_eq heq)
    split at h
    next hzero =>
      split at h
      next => cases h
      next =>
        cases h
        rw [hzero]
        decide
    next hzero =>
      cases h
      show ((@unpackExponent .binary64 x.toBits.toBitVec).toNat : ℤ) -
        ((1023 : ℕ) + (52 : ℕ)) ≤ 971
      omega

/-- What a double stands for is less than the power of two beyond the greatest double. -/
theorem Stands.lt {x : Float} {q : ℚ} (h : Stands x q) : q < 2 ^ 1024 := by
  obtain ⟨-, rfl⟩ | ⟨m, e, hm, hunpack, hcanonical, rfl⟩ := Unpacks.zero_or_finite h
  · positivity
  have hm' : (m : ℚ) < 2 ^ 53 := by exact_mod_cast hcanonical.lt
  have he := exponent_unpack_le hunpack
  calc (m : ℚ) * 2 ^ e < 2 ^ 53 * 2 ^ e := by gcongr
    _ ≤ 2 ^ 53 * 2 ^ (971 : ℤ) := by
        gcongr
        norm_num
    _ = 2 ^ 1024 := by
        rw [← zpow_natCast, ← zpow_natCast, ← zpow_add₀ (by norm_num)]
        norm_num

theorem Stands.nonneg {x : Float} {q : ℚ} (h : Stands x q) : 0 ≤ q := by
  obtain ⟨-, rfl⟩ | ⟨m, e, hm, -, -, rfl⟩ := Unpacks.zero_or_finite h
  · exact le_rfl
  · positivity

end VideoGreeting.Number
