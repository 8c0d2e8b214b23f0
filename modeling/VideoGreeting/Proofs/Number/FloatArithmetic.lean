import VideoGreeting.Proofs.Number.FloatRounding
import VideoGreeting.Proofs.Timeline.Partition

/-!
# The arithmetic of doubles

A double that is not negative stands for an exact number. Products and quotients of such
doubles stand for the nearest double to the exact product or quotient, as long as it is
not too great, and whole numbers below `2 ^ 53` stand for themselves.
-/

namespace VideoGreeting.Number

open Float.Model Float.Model.UnpackedFloat

/-- A double that stands for a number, which is not negative. -/
def Stands (x : Float) (q : ℚ) : Prop := Unpacks q x.toModel.unpack

/-- What was rounded stands for the nearest double, if it is not too great for one. -/
theorem stands_pack {u : UnpackedFloat} {q : ℚ} (h : Unpacks q u) (hlt : q < 2 ^ 1024) :
    Stands (.ofModel (.pack u)) q := by
  unfold Stands
  rwa [unpack_pack h hlt]

/-! ## Values -/

theorem num_div_den (m : ℕ) (e : ℤ) : (Value.num m e : ℚ) / Value.den e = m * 2 ^ e := by
  have hsplit : e = (e.toNat : ℤ) - ((-e).toNat : ℤ) := by omega
  conv_rhs => rw [hsplit, zpow_sub₀ (by norm_num), zpow_natCast, zpow_natCast]
  simp only [Value.num, Value.den, Nat.pow_eq]
  push_cast
  ring

/-- The value of a double that stands for a number. -/
theorem Stands.rational? {x : Float} {q : ℚ} (h : Stands x q) :
    (Value.ofFloat x).rational? = some q := by
  unfold Value.ofFloat
  obtain ⟨hx, rfl⟩ | ⟨m, e, hm, hx, -, rfl⟩ := Unpacks.zero_or_finite h
  · rw [hx]
    simp [Value.rational?, Value.num]
  · rw [hx]
    exact congrArg some (num_div_den m e)

theorem Stands.isDouble {x : Float} {q : ℚ} (h : Stands x q) : IsDouble q := by
  obtain ⟨-, rfl⟩ | ⟨m, e, -, -, hcanonical, rfl⟩ := Unpacks.zero_or_finite h
  · exact ⟨0, 0, by decide, by decide, by simp⟩
  · exact ⟨m, e, hcanonical.lt, hcanonical.least, rfl⟩

/-- What is stored of a double is canonical. -/
theorem canonical_unpack {x : Float.Model} {sign : Sign} {m : ℕ} {e : ℤ} {hm : 0 < m}
    (h : x.unpack = .finite sign m e hm) : Canonical m e := by
  have hmantissa : (@unpackMantissa .binary64 x.toBits.toBitVec).toNat < 2 ^ 52 := BitVec.isLt _
  unfold Float.Model.unpack UnpackedFloat.unpack at h
  dsimp only at h
  split at h
  next =>
    split at h
    · cases h
    · cases h
  next =>
    split at h
    next hzero =>
      split at h
      next => cases h
      next =>
        -- the least unit: there is no leading bit
        cases h
        rw [hzero]
        exact ⟨by omega, le_rfl, .inl rfl⟩
    next hzero =>
      cases h
      have hpos : (@unpackExponent .binary64 x.toBits.toBitVec).toNat ≠ 0 :=
        fun heq => hzero (BitVec.eq_of_toNat_eq heq)
      have hleading := toNat_leading (@unpackMantissa .binary64 x.toBits.toBitVec)
      refine ⟨?_, ?_, .inr ?_⟩
      · rw [hleading]
        omega
      · show -1074 ≤ ((@unpackExponent .binary64 x.toBits.toBitVec).toNat : ℤ) -
          ((1023 : ℕ) + (52 : ℕ))
        omega
      · rw [hleading]
        omega

/-! ## Arithmetic -/

/-- **Products.** -/
theorem Stands.mul {x y : Float} {p q : ℚ} (hx : Stands x p) (hy : Stands y q)
    (hlt : toDouble (p * q) < 2 ^ 1024) : Stands (x * y) (toDouble (p * q)) := by
  refine stands_pack ?_ hlt
  unfold Stands at hx hy
  generalize x.toModel.unpack = u at hx ⊢
  generalize y.toModel.unpack = v at hy ⊢
  obtain ⟨rfl, rfl⟩ | ⟨m, e, hm, rfl, hcanonical, rfl⟩ := hx.zero_or_finite
  · rw [zero_mul, toDouble_zero]
    obtain ⟨rfl, -⟩ | ⟨m', e', hm', rfl, -, -⟩ := hy.zero_or_finite
    · rfl
    · rfl
  · obtain ⟨rfl, rfl⟩ | ⟨m', e', hm', rfl, hcanonical', rfl⟩ := hy.zero_or_finite
    · rw [mul_zero, toDouble_zero]
      rfl
    · have hproduct : (m : ℚ) * 2 ^ e * (m' * 2 ^ e') = (m * m' : ℕ) * 2 ^ (e + e') := by
        rw [zpow_add₀ (by norm_num)]
        push_cast
        ring
      have hpos : 0 < m * m' := Nat.mul_pos hm hm'
      have hcast : (0 : ℚ) < (m * m' : ℕ) := Nat.cast_pos.mpr hpos
      rw [hproduct]
      refine unpacks_roundWithAccuracy (by positivity) ?_ ?_
      · rw [mul_div_cancel_right₀ _ (by positivity)]
        exact Brackets.exact _
      · -- one of the factors has all its bits, or both are in the least unit
        rw [unitExponent, log_eq hpos le_rfl (by gcongr; exact lt_add_one _)]
        have hfull : 2 ^ 52 ≤ m * m' → 52 ≤ (m * m').log2 := (Nat.le_log2 hpos.ne').mpr
        have hleast := hcanonical.least
        have hleast' := hcanonical'.least
        rcases hcanonical.full with he | hbits
        · rcases hcanonical'.full with he' | hbits'
          · omega
          · have := hfull (hbits'.trans (Nat.le_mul_of_pos_left m' hm))
            omega
        · have := hfull (hbits.trans (Nat.le_mul_of_pos_right m hm'))
          omega

section Quotient

variable {m m' : ℕ} {f t : ℤ}

/-- The quotient of two mantissas, of which the first is shifted far enough. -/
theorem unpacks_quotient (hm : 0 < m) (hm' : 0 < m') (ht : t ≤ f)
    (hunit : t ≤ unitExponent (m / m' * 2 ^ f)) :
    Unpacks (toDouble (m / m' * 2 ^ f))
      (roundWithAccuracy .binary64 .positive ((m <<< (f - t).toNat) / m') t
        (accuracyOfFraction ((m <<< (f - t).toNat) % m') m')) := by
  have hcast : (0 : ℚ) < m := Nat.cast_pos.mpr hm
  have hcast' : (0 : ℚ) < m' := Nat.cast_pos.mpr hm'
  obtain ⟨k, rfl⟩ := Int.le.dest ht
  have hshift : (t + k - t).toNat = k := by omega
  refine unpacks_roundWithAccuracy (by positivity) ?_ hunit
  have hquotient : (m : ℚ) / m' * 2 ^ (t + k) / 2 ^ t = (m <<< k : ℕ) / m' := by
    rw [zpow_add₀ (by norm_num), zpow_natCast, Nat.shiftLeft_eq]
    push_cast
    field_simp
  rw [hshift, hquotient, div_eq_add_mod_div _ hm']
  exact Brackets.ofFraction _ (Nat.mod_lt _ hm')

/-- A quotient has at most one digit less than its parts tell. -/
theorem le_log_quotient (hm : 0 < m) (hm' : 0 < m') :
    (m.log2 : ℤ) - m'.log2 - 1 + f ≤ Int.log 2 ((m : ℚ) / m' * 2 ^ f) := by
  have hcast : (0 : ℚ) < m := Nat.cast_pos.mpr hm
  have hcast' : (0 : ℚ) < m' := Nat.cast_pos.mpr hm'
  rw [← Int.zpow_le_iff_le_log (by decide) (by positivity)]
  have hlow : (2 : ℚ) ^ m.log2 ≤ m := by exact_mod_cast Nat.log2_self_le hm.ne'
  have hhigh : (m' : ℚ) ≤ 2 ^ (m'.log2 + 1) := by exact_mod_cast (Nat.lt_log2_self).le
  have hsplit : (2 : ℚ) ^ ((m.log2 : ℤ) - m'.log2 - 1 + f) =
      2 ^ m.log2 / 2 ^ (m'.log2 + 1) * 2 ^ f := by
    rw [zpow_add₀ (by norm_num), sub_sub, zpow_sub₀ (by norm_num)]
    norm_cast
  rw [Nat.cast_ofNat, hsplit]
  gcongr

end Quotient

/-- **Quotients.** -/
theorem Stands.div {x y : Float} {p q : ℚ} (hx : Stands x p) (hy : Stands y q) (hq : 0 < q)
    (hlt : toDouble (p / q) < 2 ^ 1024) : Stands (x / y) (toDouble (p / q)) := by
  refine stands_pack ?_ hlt
  unfold Stands at hx hy
  generalize x.toModel.unpack = u at hx ⊢
  generalize y.toModel.unpack = v at hy ⊢
  obtain ⟨-, rfl⟩ | ⟨m', e', hm', rfl, -, rfl⟩ := hy.zero_or_finite
  · exact absurd hq (lt_irrefl _)
  obtain ⟨rfl, rfl⟩ | ⟨m, e, hm, rfl, -, rfl⟩ := hx.zero_or_finite
  · rw [zero_div, toDouble_zero]
    rfl
  · have hcast' : (0 : ℚ) < m' := Nat.cast_pos.mpr hm'
    have hquotient : (m : ℚ) * 2 ^ e / (m' * 2 ^ e') = m / m' * 2 ^ (e - e') := by
      rw [zpow_sub₀ (by norm_num)]
      field_simp
    rw [hquotient]
    refine unpacks_quotient hm hm' (min_le_left _ _) ((min_le_right _ _).trans ?_)
    have hlog := le_log_quotient (f := e - e') hm hm'
    rw [targetExponent_binary64, unitExponent, totalExponent, totalExponent]
    omega

/-! ## Whole numbers -/

theorem unpacks_round {m : ℕ} (hm : 0 < m) (e : ℤ) :
    Unpacks (toDouble (m * 2 ^ e)) (UnpackedFloat.round .binary64 .positive m e) := by
  have hcast : (0 : ℚ) < m := Nat.cast_pos.mpr hm
  have hx : (0 : ℚ) < m * 2 ^ e := by positivity
  have htarget : Format.binary64.targetExponent (totalExponent m e) =
      unitExponent (m * 2 ^ e) := by
    rw [targetExponent_eq, unitExponent, log_eq hm le_rfl (by gcongr; exact lt_add_one _)]
  unfold UnpackedFloat.round decreaseExponent
  dsimp only
  rw [htarget]
  refine unpacks_roundWithAccuracy hx ?_ (by omega)
  have hwhole (k : ℕ) : (m : ℚ) * 2 ^ e / 2 ^ (e - k) = (m <<< k : ℕ) := by
    rw [zpow_sub₀ (by norm_num), zpow_natCast, Nat.shiftLeft_eq]
    push_cast
    field_simp
  rw [hwhole]
  exact Brackets.exact _

theorem isDouble_natCast {n : ℕ} (h : n < 2 ^ 53) : IsDouble n := ⟨n, 0, h, by decide, by simp⟩

theorem unpacks_ofNat {n : ℕ} (h : n < 2 ^ 53) : Unpacks n (UnpackedFloat.ofNat .binary64 n) := by
  rcases Nat.eq_zero_or_pos n with rfl | hpos
  · exact Nat.cast_zero
  · have hround := unpacks_round hpos 0
    rw [zpow_zero, mul_one, toDouble_of_isDouble (isDouble_natCast h)] at hround
    have hcompare : compare (n : ℤ) 0 = .gt := by
      rw [Int.compare_eq_gt]
      exact_mod_cast hpos
    unfold UnpackedFloat.ofNat UnpackedFloat.ofInt UnpackedFloat.normalize
    rw [hcompare]
    exact hround

/-- **Whole numbers** below `2 ^ 53` stand for themselves. -/
theorem stands_ofNat {n : ℕ} (h : n < 2 ^ 53) : Stands (Float.ofNat n) n := by
  have hsmall : (n : ℚ) < 2 ^ 1024 := by
    have hlt : (n : ℚ) < 2 ^ 53 := by exact_mod_cast h
    exact hlt.trans (pow_lt_pow_right₀ (by norm_num) (by norm_num))
  have hword : Stands n.toUInt64.toFloat n := by
    have hn : n.toUInt64.toNat = n := Nat.mod_eq_of_lt (h.trans (by norm_num))
    show Stands (.ofModel (.pack (UnpackedFloat.ofNat .binary64 n.toUInt64.toNat))) n
    rw [hn]
    exact stands_pack (unpacks_ofNat h) hsmall
  have hone : Stands (Float.ofBits 0x3FF0000000000000) 1 := by
    show Canonical (2 ^ 52) (-52) ∧ (1 : ℚ) = (2 ^ 52 : ℕ) * 2 ^ (-52 : ℤ)
    exact ⟨⟨by decide, by decide, .inr le_rfl⟩, by norm_num⟩
  -- a whole number is read as a decimal without places, and multiplied by one
  have hproduct : Float.ofNat n = n.toUInt64.toFloat * Float.ofBits 0x3FF0000000000000 := by
    show Float.ofScientific n false 0 = _
    unfold Float.ofScientific
    rw [dif_pos ⟨h, by decide⟩]
    rfl
  have hsame : toDouble (n * 1) = n := by
    rw [mul_one]
    exact toDouble_of_isDouble (isDouble_natCast h)
  have hstands := hword.mul hone (by rwa [hsame])
  rwa [hsame, ← hproduct] at hstands

end VideoGreeting.Number
