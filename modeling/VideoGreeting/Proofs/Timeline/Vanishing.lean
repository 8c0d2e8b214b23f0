import VideoGreeting.Proofs.Timeline.Printed

/-!
# Seconds that are printed as zero

A number of seconds above zero may be printed as zero: it is if it is half a thousandth or
less. A third of a double is rounded to a double before it is printed. That does not move
it across half a thousandth, because the doubles next to three halves of a thousandth are
too far from it: so a third is printed as zero if the double itself is three halves of a
thousandth or less.

Main theorems: `readSigned?_secondsText_eq_zero_iff` and
`readSigned?_third_eq_zero_iff`.
-/

namespace VideoGreeting

open Number

variable {x : Float} {q : ℚ}

/-! ## Half a thousandth -/

/-- Half a thousandth and less have zero as their nearest thousandth. -/
theorem printed_eq_zero_iff (hq : 0 ≤ q) : printed q = 0 ↔ q ≤ 1 / 2000 := by
  have hnearest := nearestEven_thousandths hq
  have hzero : printed q = 0 ↔ nearest (q * 1000) = 0 := by
    rw [printed, div_eq_zero_iff, Nat.cast_eq_zero]
    simp
  rw [hzero]
  constructor
  · intro h
    rw [h] at hnearest
    have hhalf := hnearest.sub_half_le
    push_cast at hhalf
    linarith
  · intro h
    -- of the two neighbours of a half, zero is the even one
    refine hnearest.unique ?_
    constructor
    · rw [Nat.cast_zero, zero_sub, abs_neg, abs_of_nonneg (by positivity)]
      linarith
    · intro _
      exact Even.zero

/-- The ends of the range are not zero. -/
theorem clampRange_eq_zero_iff : clampRange q = 0 ↔ q = 0 := by
  have hlow : (minInt64 : ℚ) < 0 := by norm_num [minInt64]
  have hhigh : (0 : ℚ) < maxInt64 := by norm_num [maxInt64]
  constructor
  · intro h
    rcases max_choice (minInt64 : ℚ) (min maxInt64 q) with hend | hinner
    · rw [clampRange, hend] at h
      exact absurd h hlow.ne
    · rw [clampRange, hinner] at h
      rcases min_choice (maxInt64 : ℚ) q with hend | hq
      · rw [hend] at h
        exact absurd h hhigh.ne'
      · rwa [hq] at h
  · rintro rfl
    exact clampRange_eq_self hlow.le hhigh.le

/-- **Seconds that are printed as zero.** -/
theorem readSigned?_secondsText_eq_zero_iff (hq : 0 ≤ q)
    (h : (Value.ofFloat x).rational? = some q) :
    readSigned? (secondsText x).toList = some 0 ↔ q ≤ 1 / 2000 := by
  rw [readSigned?_secondsText h, nearThousandth_of_nonneg hq, Option.some.injEq,
    clampRange_eq_zero_iff, printed_eq_zero_iff hq]

/-- With three decimals there is no range, and the nearest thousandth is read. -/
theorem readSigned?_fixedText (hq : 0 < q) (h : (Value.ofFloat x).rational? = some q) :
    readSigned? (fixedText 3 x).toList = some (printed q) := by
  rw [fixedText, String.toList_ofList]
  cases hvalue : Value.ofFloat x with
  | nan | infinite negative =>
      rw [hvalue] at h
      cases h
  | finite negative m e =>
      rw [hvalue] at h
      obtain ⟨whole, part, htext, hwhole, hpart, hdigits, hdigit⟩ :=
        positional_eq three_ne_zero (nearest (q * 1000))
      have hsome : part ≠ [] := List.ne_nil_of_length_pos (by omega)
      have hread : readDecimal? (positional 3 (nearest (q * 1000))) = some (printed q) := by
        rw [htext, readDecimal?_point hwhole hsome hdigits, hdigit, hpart, printed]
        norm_num
      have hsign : negative = false := by
        by_contra hminus
        rw [Bool.not_eq_false] at hminus
        have hneg := Option.some.inj h
        rw [if_pos hminus] at hneg
        have hsize : (0 : ℚ) ≤ (Value.num m e : ℚ) / Value.den e := by positivity
        linarith
      rw [fixed, roundDivEven_eq_nearest h, readSigned?_signed hread, hsign]
      rfl

/-! ## Thirds -/

/-- A double with `2 ^ 52` units and more is a whole number of them. -/
theorem exists_units (h : IsDouble q) {u : ℤ} (hu : 2 ^ 52 * 2 ^ u ≤ q) :
    ∃ n : ℕ, q = n * 2 ^ u := by
  obtain ⟨m, e, hm, -, rfl⟩ := h
  have hm' : (m : ℚ) < 2 ^ 53 := by exact_mod_cast hm
  have he : u ≤ e := by
    by_contra hless
    have hunit : (2 : ℚ) ^ (e + 1) ≤ 2 ^ u := zpow_le_zpow_right₀ (by norm_num) (by omega)
    rw [zpow_add_one₀ (by norm_num)] at hunit
    have hpos : (0 : ℚ) < 2 ^ e := by positivity
    nlinarith
  obtain ⟨k, rfl⟩ := Int.le.dest he
  refine ⟨m * 2 ^ k, ?_⟩
  rw [zpow_add₀ (by norm_num), zpow_natCast]
  push_cast
  ring

/-- The doubles next to three halves of a thousandth: none is in between. -/
theorem three_halves_gap (h : IsDouble q) :
    q ≤ 3 / 2000 ∧ q ≤ 6917529027641081 * 2 ^ (-62 : ℤ) ∨
      3 / 2000 < q ∧ 6917529027641082 * 2 ^ (-62 : ℤ) ≤ q := by
  rcases le_or_gt (2 ^ 52 * 2 ^ (-62 : ℤ)) q with hlow | hlow
  · obtain ⟨n, rfl⟩ := exists_units h hlow
    rcases le_or_gt n 6917529027641081 with hn | hn
    · have hcast : (n : ℚ) ≤ 6917529027641081 := by exact_mod_cast hn
      have hle : (n : ℚ) * 2 ^ (-62 : ℤ) ≤ 6917529027641081 * 2 ^ (-62 : ℤ) := by gcongr
      exact .inl ⟨hle.trans (by norm_num), hle⟩
    · have hcast : (6917529027641082 : ℚ) ≤ n := by exact_mod_cast hn
      have hle : (6917529027641082 : ℚ) * 2 ^ (-62 : ℤ) ≤ n * 2 ^ (-62 : ℤ) := by gcongr
      exact .inr ⟨lt_of_lt_of_le (by norm_num) hle, hle⟩
  · exact .inl ⟨hlow.le.trans (by norm_num), hlow.le.trans (by norm_num)⟩

/-- Below `2 ^ -10` doubles are counted in `2 ^ -63` or less. -/
theorem unit_le (hq : 0 < q) (hlt : q < 2 ^ (-10 : ℤ)) : unit q ≤ 2 ^ (-63 : ℤ) := by
  have hlog : Int.log 2 q < -10 := by
    rw [← Int.lt_zpow_iff_log_lt (by decide) hq]
    exact_mod_cast hlt
  refine zpow_le_zpow_right₀ (by norm_num) ?_
  unfold unitExponent
  omega

/-- **Thirds stay on their side.** Rounding a third of a double to a double does not move
it across half a thousandth. -/
theorem toDouble_third_le_iff (h : IsDouble q) (hq : 0 < q) :
    toDouble (q / 3) ≤ 1 / 2000 ↔ q ≤ 3 / 2000 := by
  rcases three_halves_gap h with ⟨hle, hbelow⟩ | ⟨hlt, habove⟩
  · refine iff_of_true ?_ hle
    -- the greatest third that comes into question is more than half a unit below
    obtain ⟨greatest, hgreatest⟩ : ∃ y : ℚ, y = 6917529027641081 / 3 * 2 ^ (-62 : ℤ) := ⟨_, rfl⟩
    have hpos : 0 < greatest := by
      rw [hgreatest]
      positivity
    have hthird : q / 3 ≤ greatest := by
      rw [hgreatest, div_mul_eq_mul_div]
      gcongr
    have hunit : unit greatest ≤ 2 ^ (-63 : ℤ) := by
      apply unit_le hpos
      rw [hgreatest]
      norm_num
    have herror := (abs_le.mp (abs_toDouble_sub_le hpos.le)).2
    calc toDouble (q / 3) ≤ toDouble greatest := toDouble_mono (by positivity) hthird
      _ ≤ greatest + unit greatest / 2 := by linarith
      _ ≤ greatest + 2 ^ (-63 : ℤ) / 2 := by gcongr
      _ ≤ 1 / 2000 := by
          rw [hgreatest]
          norm_num
  · refine iff_of_false ?_ (not_le.mpr hlt)
    have hdouble : IsDouble (4611686018427388 * 2 ^ (-63 : ℤ)) :=
      ⟨4611686018427388, -63, by norm_num, by norm_num, by norm_num⟩
    have hthird : (4611686018427388 : ℚ) * 2 ^ (-63 : ℤ) ≤ q / 3 := by
      rw [le_div_iff₀ (by norm_num)]
      refine le_trans (le_of_eq ?_) habove
      norm_num
    have hmono := toDouble_mono (by positivity) hthird
    rw [toDouble_of_isDouble hdouble] at hmono
    rw [not_le]
    exact lt_of_lt_of_le (by norm_num) hmono

/-- A third of a double stands for the third of its number, rounded. -/
theorem stands_third (h : Stands x q) : Stands (x / 3.0) (toDouble (q / 3)) := by
  have hthree : Stands 3.0 3 := by
    show Canonical (3 * 2 ^ 51) (-51) ∧ (3 : ℚ) = (3 * 2 ^ 51 : ℕ) * 2 ^ (-51 : ℤ)
    exact ⟨⟨by decide, by decide, .inr (by decide)⟩, by norm_num⟩
  have hq := h.nonneg
  refine h.div hthree (by norm_num) ?_
  exact (toDouble_le_of_le (by positivity) (by linarith) h.isDouble).trans_lt h.lt

/-- **Thirds that are printed as zero.** -/
theorem readSigned?_third_eq_zero_iff (hq : 0 < q) (h : (Value.ofFloat x).rational? = some q) :
    readSigned? (secondsText (x / 3.0)).toList = some 0 ↔ q ≤ 3 / 2000 := by
  have hstands := stands_of_rational? hq h
  rw [readSigned?_secondsText_eq_zero_iff (toDouble_nonneg _) (stands_third hstands).rational?,
    toDouble_third_le_iff hstands.isDouble hq]

end VideoGreeting
