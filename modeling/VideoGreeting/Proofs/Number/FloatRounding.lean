import VideoGreeting.Proofs.Number.Doubles

/-!
# How the model of doubles rounds

The arithmetic of doubles works on mantissas that are shifted to the unit of the result,
with two bits for what is shifted out. `Brackets` says what a mantissa and its bits tell
about the number of units; a shift keeps it, and `unpacks_roundWithAccuracy` follows: the
result of an operation is the nearest double to the exact one.

`unpack_pack` says that such a result is stored without loss unless it is too great.
-/

namespace VideoGreeting.Number

open Float.Model Float.Model.UnpackedFloat

/-! ## Mantissas that are shifted -/

/-- What a mantissa with its two further bits says about a number of units. -/
structure Brackets (em : ExtendedMantissa) (y : ℚ) : Prop where
  le : (em.mantissa : ℚ) ≤ y
  lt : y < em.mantissa + 1
  roundBit : em.roundBit = true ↔ em.mantissa + 1 / 2 ≤ y
  stickyBit : em.stickyBit = true ↔ y ≠ em.mantissa ∧ y ≠ em.mantissa + 1 / 2

namespace Brackets

variable {em : ExtendedMantissa} {y : ℚ}

/-- A bit is set if anything lies behind the mantissa. -/
theorem or_bits (h : Brackets em y) : (em.roundBit || em.stickyBit) = true ↔ y ≠ em.mantissa := by
  rw [Bool.or_eq_true, h.roundBit, h.stickyBit]
  constructor
  · rintro (hround | hsticky)
    · rintro rfl
      linarith
    · exact hsticky.1
  · intro hne
    by_cases hhalf : y = em.mantissa + 1 / 2
    · exact .inl hhalf.ge
    · exact .inr ⟨hne, hhalf⟩

/-- A step of the shift halves the number of units. The bit that is shifted out becomes
the round bit. -/
theorem shiftRightOne (h : Brackets em y) : Brackets em.shiftRightOne (y / 2) := by
  have hsplit : (em.mantissa : ℚ) = 2 * (em.mantissa / 2 : ℕ) + (em.mantissa % 2 : ℕ) := by
    exact_mod_cast (Nat.div_add_mod em.mantissa 2).symm
  have hbit := Nat.mod_two_eq_zero_or_one em.mantissa
  have hle := h.le
  have hlt := h.lt
  have hor := h.or_bits
  rw [hsplit] at hle hlt hor
  refine ⟨?_, ?_, ?_, ?_⟩
  · show ((em.mantissa / 2 : ℕ) : ℚ) ≤ y / 2
    have hnonneg : (0 : ℚ) ≤ (em.mantissa % 2 : ℕ) := Nat.cast_nonneg _
    linarith
  · show y / 2 < ((em.mantissa / 2 : ℕ) : ℚ) + 1
    have hone : ((em.mantissa % 2 : ℕ) : ℚ) ≤ 1 := by
      exact_mod_cast Nat.le_of_lt_succ (Nat.mod_lt _ Nat.two_pos)
    linarith
  · show (em.mantissa % 2 != 0) = true ↔ ((em.mantissa / 2 : ℕ) : ℚ) + 1 / 2 ≤ y / 2
    rcases hbit with hbit | hbit
    · rw [hbit, Nat.cast_zero] at hlt
      rw [hbit]
      exact iff_of_false (by decide) (by linarith)
    · rw [hbit, Nat.cast_one] at hle
      rw [hbit]
      exact iff_of_true (by decide) (by linarith)
  · show (em.roundBit || em.stickyBit) = true ↔
      y / 2 ≠ ((em.mantissa / 2 : ℕ) : ℚ) ∧ y / 2 ≠ ((em.mantissa / 2 : ℕ) : ℚ) + 1 / 2
    rw [hor]
    -- of the two numbers one is the mantissa as it was, the other is out of reach
    rcases hbit with hbit | hbit
    · rw [hbit, Nat.cast_zero] at hlt ⊢
      constructor
      · exact fun hne => ⟨fun heq => hne (by linarith), fun heq => absurd hlt (by linarith)⟩
      · exact fun hne heq => hne.1 (by linarith)
    · rw [hbit, Nat.cast_one] at hle ⊢
      constructor
      · exact fun hne => ⟨fun heq => absurd hle (by linarith), fun heq => hne (by linarith)⟩
      · exact fun hne heq => hne.2 (by linarith)

theorem shiftRight (h : Brackets em y) (n : ℕ) : Brackets (em >>> n) (y / 2 ^ n) := by
  induction n with
  | zero =>
      rw [pow_zero, div_one]
      exact h
  | succ n ih =>
      rw [pow_succ, ← div_div]
      exact ih.shiftRightOne

/-- **The bits round.** -/
theorem nearestEven (h : Brackets em y) : NearestEven y em.roundedMantissa := by
  obtain ⟨m, round, sticky⟩ := em
  obtain ⟨hle, hlt, hround, hsticky⟩ := h
  dsimp only at hle hlt hround hsticky
  cases round with
  | false =>
      have hbelow : y < m + 1 / 2 := by
        rw [← not_le]
        exact fun hhalf => absurd (hround.mpr hhalf) (by decide)
      have hnear : NearestEven y m := by
        apply NearestEven.of_lt
        rw [abs_lt]
        constructor <;> linarith
      cases sticky with
      | false => exact hnear
      | true => exact hnear
  | true =>
      have hhalf := hround.mp rfl
      cases sticky with
      | false =>
          -- halfway: the remainder makes the result even
          have heq : y = m + 1 / 2 := by
            by_contra hne
            refine absurd (hsticky.mpr ⟨?_, hne⟩) (by decide)
            rintro rfl
            linarith
          rw [heq]
          exact NearestEven.add_half m
      | true =>
          obtain ⟨-, hne⟩ := hsticky.mp rfl
          have habove : m + 1 / 2 < y := lt_of_le_of_ne hhalf (Ne.symm hne)
          apply NearestEven.of_lt
          show |((m + 1 : ℕ) : ℚ) - y| < 1 / 2
          rw [Nat.cast_succ, abs_lt]
          constructor <;> linarith

/-- A whole number of units. -/
theorem exact (m : ℕ) : Brackets (.ofMantissaAndAccuracy m .exact) m := by
  show Brackets ⟨m, false, false⟩ m
  exact ⟨le_rfl, lt_add_one _, by norm_num, by simp⟩

/-- A whole number of units and a proper fraction. -/
theorem ofFraction (m : ℕ) {r d : ℕ} (h : r < d) :
    Brackets (.ofMantissaAndAccuracy m (accuracyOfFraction r d)) (m + r / d) := by
  have hcast : (0 : ℚ) < d := Nat.cast_pos.mpr (Nat.zero_lt_of_lt h)
  unfold accuracyOfFraction
  split
  next hr =>
    rw [hr, Nat.cast_zero, zero_div, add_zero]
    exact exact m
  next hr =>
    have hpos : (0 : ℚ) < r / d := div_pos (Nat.cast_pos.mpr (Nat.pos_of_ne_zero hr)) hcast
    have hlt : (r : ℚ) / d < 1 := by
      rw [div_lt_one hcast]
      exact_mod_cast h
    have hfraction : (r : ℚ) / d * d = r := div_mul_cancel₀ _ hcast.ne'
    generalize (r : ℚ) / d = f at hpos hlt hfraction
    -- the fraction against a half, as its numerator doubled against its denominator
    cases hcompare : compare (2 * r) d with
    | lt =>
        have hless : (2 * r : ℚ) < d := by exact_mod_cast Nat.compare_eq_lt.mp hcompare
        have hhalf : f < 1 / 2 := by nlinarith
        show Brackets ⟨m, false, true⟩ _
        refine ⟨by simpa using hpos.le, by simpa using hlt, ?_, ?_⟩
        · exact iff_of_false Bool.false_ne_true (by simpa using hhalf)
        · exact iff_of_true rfl ⟨by simpa using hpos.ne', by simpa using hhalf.ne⟩
    | eq =>
        have hsame : (2 * r : ℚ) = d := by exact_mod_cast Nat.compare_eq_eq.mp hcompare
        have hhalf : f = 1 / 2 := by nlinarith
        show Brackets ⟨m, true, false⟩ _
        refine ⟨by simpa using hpos.le, by simpa using hlt, ?_, ?_⟩
        · exact iff_of_true rfl (by simp [hhalf])
        · exact iff_of_false Bool.false_ne_true (by simp [hhalf])
    | gt =>
        have hmore : (d : ℚ) < 2 * r := by exact_mod_cast Nat.compare_eq_gt.mp hcompare
        have hhalf : 1 / 2 < f := by nlinarith
        show Brackets ⟨m, true, true⟩ _
        refine ⟨by simpa using hpos.le, by simpa using hlt, ?_, ?_⟩
        · exact iff_of_true rfl (by simpa using hhalf.le)
        · exact iff_of_true rfl ⟨by simpa using hpos.ne', by simpa using hhalf.ne'⟩

end Brackets

/-! ## Rounding -/

/-- A mantissa and an exponent as doubles store them. -/
structure Canonical (m : ℕ) (e : ℤ) : Prop where
  lt : m < 2 ^ 53
  least : -1074 ≤ e
  full : e = -1074 ∨ 2 ^ 52 ≤ m

/-- An unpacked number that is not negative, as doubles store it. -/
def Unpacks (q : ℚ) : UnpackedFloat → Prop
  | .zero .positive => q = 0
  | .finite .positive m e _ => Canonical m e ∧ q = m * 2 ^ e
  | _ => False

theorem Unpacks.zero_or_finite {q : ℚ} {u : UnpackedFloat} (h : Unpacks q u) :
    u = .zero .positive ∧ q = 0 ∨
      ∃ m e hm, u = .finite .positive m e hm ∧ Canonical m e ∧ q = m * 2 ^ e := by
  cases u with
  | notANumber | infinity sign => cases h
  | zero sign =>
      cases sign with
      | positive => exact .inl ⟨rfl, h⟩
      | negative => cases h
  | finite sign m e hm =>
      cases sign with
      | positive => exact .inr ⟨m, e, hm, rfl, h⟩
      | negative => cases h

theorem targetExponent_binary64 (total : ℤ) :
    Format.binary64.targetExponent total = max (total - 53) (-1074) := rfl

theorem targetExponent_eq (m : ℕ) (e : ℤ) :
    Format.binary64.targetExponent (totalExponent m e) = max (m.log2 + e - 52) (-1074) := by
  rw [targetExponent_binary64, totalExponent]
  omega

section Round

variable {m : ℕ} {e : ℤ} {x : ℚ} {accuracy : Accuracy}

/-- The logarithm of a number is read off its mantissa. -/
theorem log_eq (hm : 0 < m) (hle : (m : ℚ) * 2 ^ e ≤ x) (hlt : x < (m + 1) * 2 ^ e) :
    Int.log 2 x = m.log2 + e := by
  have hx : 0 < x := lt_of_lt_of_le (by positivity) hle
  have hlow : (2 : ℚ) ^ ((m.log2 : ℤ) + e) ≤ x := by
    refine le_trans ?_ hle
    rw [zpow_add₀ (by norm_num), zpow_natCast]
    gcongr
    exact_mod_cast Nat.log2_self_le hm.ne'
  have hhigh : x < (2 : ℚ) ^ ((m.log2 : ℤ) + e + 1) := by
    refine hlt.trans_le ?_
    rw [add_right_comm, zpow_add₀ (by norm_num)]
    gcongr
    exact_mod_cast Nat.lt_log2_self
  apply le_antisymm
  · rw [← Int.lt_add_one_iff, ← Int.lt_zpow_iff_log_lt (by decide) hx]
    exact_mod_cast hhigh
  · rw [← Int.zpow_le_iff_le_log (by decide) hx]
    exact_mod_cast hlow

/-- The exponent that is aimed at is that of the unit. -/
theorem targetExponent_eq_unitExponent (hx : 0 < x) (hle : (m : ℚ) * 2 ^ e ≤ x)
    (hlt : x < (m + 1) * 2 ^ e) (he : e ≤ unitExponent x) :
    Format.binary64.targetExponent (totalExponent m e) = unitExponent x := by
  rw [targetExponent_eq]
  rcases Nat.eq_zero_or_pos m with rfl | hm
  · -- less than one unit: the exponent is no more than the least one
    have hlog : Int.log 2 x < e := by
      rw [← Int.lt_zpow_iff_log_lt (by decide) hx]
      simpa using hlt
    unfold unitExponent at *
    simp only [Nat.log2_zero, Nat.cast_zero]
    omega
  · rw [unitExponent, log_eq hm hle hlt]

/-- What a mantissa of the right size is shifted to: itself, or half of it if it is one
too great. -/
theorem shiftToTargetExponent_of_le (hm : m ≤ 2 ^ 53) (he : -1074 ≤ e) :
    (fun (em, e) => (em.mantissa, e)) (shiftToTargetExponent .binary64 m e .exact) =
      if m < 2 ^ 53 then (m, e) else (2 ^ 52, e + 1) := by
  unfold shiftToTargetExponent
  rw [targetExponent_eq]
  split
  next hlt =>
    have hlog : m.log2 ≤ 52 := by
      rcases Nat.eq_zero_or_pos m with rfl | hpos
      · simp
      · exact Nat.le_of_lt_succ ((Nat.log2_lt hpos.ne').mpr hlt)
    have hshift : (max ((m.log2 : ℤ) + e - 52) (-1074) - e).toNat = 0 := by omega
    simp only [shiftToExponent, hshift]
    simp [HShiftRight.hShiftRight, Nat.repeat, ExtendedMantissa.ofMantissaAndAccuracy]
  next hlt =>
    obtain rfl : m = 2 ^ 53 := le_antisymm hm (not_lt.mp hlt)
    have hshift : (max (((2 ^ 53 : ℕ).log2 : ℤ) + e - 52) (-1074) - e).toNat = 1 := by
      rw [Nat.log2_two_pow]
      omega
    simp only [shiftToExponent, hshift]
    simp [HShiftRight.hShiftRight, Nat.repeat, ExtendedMantissa.ofMantissaAndAccuracy,
      ExtendedMantissa.shiftRightOne]

theorem mantissa_ofMantissaAndAccuracy (m : ℕ) (accuracy : Accuracy) :
    (ExtendedMantissa.ofMantissaAndAccuracy m accuracy).mantissa = m := by
  cases accuracy with
  | exact => rfl
  | inexact relation => cases relation <;> rfl

/-- The first shift brings a number to its unit. -/
theorem shiftToTargetExponent_eq (hx : 0 < x)
    (h : Brackets (.ofMantissaAndAccuracy m accuracy) (x / 2 ^ e)) (he : e ≤ unitExponent x) :
    ∃ em, shiftToTargetExponent .binary64 m e accuracy = (em, unitExponent x) ∧
      Brackets em (x / unit x) := by
  have hpos : (0 : ℚ) < 2 ^ e := by positivity
  have hle := h.le
  have hlt := h.lt
  rw [mantissa_ofMantissaAndAccuracy, le_div_iff₀ hpos] at hle
  rw [mantissa_ofMantissaAndAccuracy, div_lt_iff₀ hpos] at hlt
  obtain ⟨k, hk⟩ := Int.le.dest he
  have hshift : (unitExponent x - e).toNat = k := by omega
  refine ⟨ExtendedMantissa.ofMantissaAndAccuracy m accuracy >>> k, ?_, ?_⟩
  · simp only [shiftToTargetExponent, shiftToExponent,
      targetExponent_eq_unitExponent hx hle hlt he, hshift, hk]
  · have hunits : x / unit x = x / 2 ^ e / 2 ^ k := by
      rw [unit, ← hk, zpow_add₀ (by norm_num), zpow_natCast, div_div]
    rw [hunits]
    exact h.shiftRight k

/-- **Rounding.** A number that is given by its first digits, and by what they leave of it,
is rounded to the nearest double. -/
theorem unpacks_roundWithAccuracy (hx : 0 < x)
    (h : Brackets (.ofMantissaAndAccuracy m accuracy) (x / 2 ^ e)) (he : e ≤ unitExponent x) :
    Unpacks (toDouble x) (roundWithAccuracy .binary64 .positive m e accuracy) := by
  have hleast : -1074 ≤ unitExponent x := le_max_right _ _
  have hle := nearest_le hx.le
  obtain ⟨em, hfirst, hem⟩ := shiftToTargetExponent_eq hx h he
  have hrounded : em.roundedMantissa = nearest (x / unit x) :=
    hem.nearestEven.unique (nearestEven_units hx.le)
  have hsecond := shiftToTargetExponent_of_le hle hleast
  unfold roundWithAccuracy
  rw [hfirst]
  dsimp only
  rw [hrounded]
  generalize shiftToTargetExponent .binary64 (nearest (x / unit x)) (unitExponent x) .exact =
    shifted at hsecond ⊢
  obtain ⟨final, exponent⟩ := shifted
  dsimp only at hsecond ⊢
  rcases hle.lt_or_eq with hlt | heq
  · rw [if_pos hlt, Prod.mk.injEq] at hsecond
    rw [hsecond.1, hsecond.2]
    split
    next hzero =>
      show toDouble x = 0
      rw [toDouble, hzero, Nat.cast_zero, zero_mul]
    next =>
      refine ⟨⟨hlt, hleast, ?_⟩, rfl⟩
      rcases hleast.eq_or_lt with hunit | hunit
      · exact .inl hunit.symm
      · exact .inr (le_nearest hx hunit)
  · rw [heq, if_neg (lt_irrefl _), Prod.mk.injEq] at hsecond
    rw [hsecond.1, hsecond.2, dif_neg (by norm_num)]
    refine ⟨⟨by norm_num, by omega, .inr le_rfl⟩, ?_⟩
    rw [toDouble, heq, unit, zpow_add_one₀ (by norm_num)]
    push_cast
    ring

end Round

/-! ## Packing -/

theorem unpackSign_packComponents {spec : Format} (sign : Sign)
    (exponent : BitVec spec.exponentBits) (mantissa : BitVec spec.mantissaBitsWithoutImplicit) :
    unpackSign (packComponents spec sign exponent mantissa) = sign.toBitVec := by
  ext i hi
  obtain rfl : i = 0 := by omega
  simp [unpackSign, packComponents, BitVec.getLsbD_eq_getElem, BitVec.getLsbD_append,
    BitVec.getElem_append]

/-- The leading bit of a mantissa is not stored. -/
theorem toNat_leading (m : BitVec 52) : (1#1 ++ m).toNat = 2 ^ 52 + m.toNat := by
  rw [BitVec.toNat_append, ← Nat.shiftLeft_add_eq_or_of_lt m.isLt]
  rfl

section Pack

variable {m m' : ℕ} {e e' : ℤ}

theorem finite_congr {hm : 0 < m} {hm' : 0 < m'} (hmantissa : m = m') (hexponent : e = e') :
    UnpackedFloat.finite .positive m e hm = .finite .positive m' e' hm' := by
  subst hmantissa hexponent
  rfl

theorem unpack_normal (hm : 0 < m) (hlt : m < 2 ^ 53) (hfull : 2 ^ 52 ≤ m) (hleast : -1074 ≤ e)
    (hgreatest : e ≤ 971) :
    (Float.Model.pack (.finite .positive m e hm)).unpack = .finite .positive m e hm := by
  have hlog : m.log2 = 52 := (Nat.log2_eq_iff hm.ne').mpr ⟨hfull, hlt⟩
  obtain ⟨biased, hbiased⟩ : ∃ biased, (e + 1023 + 52).toNat = biased := ⟨_, rfl⟩
  have hpack : UnpackedFloat.pack .binary64 (.finite .positive m e hm) =
      packComponents .binary64 .positive (BitVec.ofNat 11 biased) (BitVec.ofNat 52 m) := by
    have hbits : 52 + 1 = Format.binary64.mantissaBits := rfl
    simp only [UnpackedFloat.pack, hlog, if_pos hbits]
    rw [if_neg, ← hbiased]
    · rfl
    · show ¬ 2048 ≤ (e + 1023 + 52).toNat + 1
      omega
  have hordinary : BitVec.ofNat 11 biased ≠ -1#11 := by
    intro heq
    have hnat := congrArg BitVec.toNat heq
    simp at hnat
    omega
  have hzero : BitVec.ofNat 11 biased ≠ 0#11 := by
    intro heq
    have hnat := congrArg BitVec.toNat heq
    simp at hnat
    omega
  have hmantissa : (1#1 ++ BitVec.ofNat 52 m).toNat = m := by
    rw [toNat_leading, BitVec.toNat_ofNat]
    omega
  have hexponent : ((BitVec.ofNat 11 biased).toNat : ℤ) - ((1023 : ℕ) + (52 : ℕ)) = e := by
    rw [BitVec.toNat_ofNat]
    omega
  show UnpackedFloat.unpack .binary64 (UnpackedFloat.pack .binary64 _) = _
  rw [hpack]
  unfold UnpackedFloat.unpack
  simp only [unpackMantissa_packComponents, unpackExponent_packComponents,
    unpackSign_packComponents, if_neg hordinary, if_neg hzero]
  exact finite_congr hmantissa hexponent

theorem unpack_subnormal (hm : 0 < m) (hlt : m < 2 ^ 52) :
    (Float.Model.pack (.finite .positive m (-1074) hm)).unpack =
      .finite .positive m (-1074) hm := by
  have hlog : m.log2 < 52 := (Nat.log2_lt hm.ne').mpr hlt
  have hpack : UnpackedFloat.pack .binary64 (.finite .positive m (-1074) hm) =
      packComponents .binary64 .positive 0#11 (BitVec.ofNat 52 m) := by
    have hbits : ¬m.log2 + 1 = Format.binary64.mantissaBits := by
      show ¬m.log2 + 1 = 53
      omega
    simp only [UnpackedFloat.pack, if_neg hbits]
    rw [if_neg]
    decide
  have hmantissa : (BitVec.ofNat 52 m).toNat = m := by
    rw [BitVec.toNat_ofNat]
    omega
  have hzero : BitVec.ofNat 52 m ≠ 0#52 := by
    intro heq
    rw [heq] at hmantissa
    exact hm.ne hmantissa
  show UnpackedFloat.unpack .binary64 (UnpackedFloat.pack .binary64 _) = _
  rw [hpack]
  unfold UnpackedFloat.unpack
  simp only [unpackMantissa_packComponents, unpackExponent_packComponents,
    unpackSign_packComponents, dif_neg hzero]
  exact finite_congr hmantissa rfl

end Pack

/-- **Packing.** What is not too great for a double is unpacked as it was packed. -/
theorem unpack_pack {u : UnpackedFloat} {q : ℚ} (h : Unpacks q u) (hlt : q < 2 ^ 1024) :
    (Float.Model.pack u).unpack = u := by
  obtain ⟨rfl, -⟩ | ⟨m, e, hm, rfl, ⟨hm53, hleast, hfull⟩, rfl⟩ := h.zero_or_finite
  · rfl
  · rcases lt_or_ge m (2 ^ 52) with hsmall | hlarge
    · obtain rfl : e = -1074 := hfull.resolve_right (not_le.mpr hsmall)
      exact unpack_subnormal hm hsmall
    · refine unpack_normal hm hm53 hlarge hleast ?_
      have hpower : (2 : ℚ) ^ (52 + e) < 2 ^ (1024 : ℤ) := by
        refine lt_of_le_of_lt ?_ (by exact_mod_cast hlt)
        rw [zpow_add₀ (by norm_num)]
        gcongr
        exact_mod_cast hlarge
      have hexponent := (zpow_lt_zpow_iff_right₀ (by norm_num)).mp hpower
      omega

end VideoGreeting.Number
