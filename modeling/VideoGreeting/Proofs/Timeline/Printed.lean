import VideoGreeting.Proofs.Number.FloatOrder
import VideoGreeting.Proofs.Timeline.Seconds

/-!
# How near printed seconds are

Every finite number of seconds is printed as a plain decimal. What is read back is the
nearest thousandth, of numbers of either sign, brought into the range of 64 bits with a
sign. So it is within half a thousandth as long as the number is in that range, and no
greater number is printed smaller, in the range or out of it.

Main theorem: `secondsText_near`. Beyond the range the text is not near the number:
`not_secondsText_near`.
-/

namespace VideoGreeting

open Number

/-! ## Plain decimals -/

/-- A minus sign or none, digits, and then nothing or a point and one to three places, of
which the last is not zero. -/
inductive IsPlain : List Char → Prop
  | whole (negative : Bool) {digits : List Char} (hne : digits ≠ [])
      (h : ∀ c ∈ digits, isDigit c = true) : IsPlain (signed negative digits)
  | point (negative : Bool) {digits places : List Char} (hne : digits ≠ [])
      (hsome : places ≠ []) (hfew : places.length ≤ 3) (hlast : places.getLast? ≠ some '0')
      (h : ∀ c ∈ digits ++ places, isDigit c = true) :
      IsPlain (signed negative (digits ++ '.' :: places))

/-- The number that a decimal writes, with a minus sign or without. -/
def readSigned? : List Char → Option ℚ
  | '-' :: cs => (readDecimal? cs).map (- ·)
  | cs => readDecimal? cs

/-- No sign is read as part of the digits. -/
theorem readDecimal?_minus (cs : List Char) : readDecimal? ('-' :: cs) = none := by
  have hminus (cs : List Char) : digits? ('-' :: cs) = none := by simp [digits?, isDigit]
  unfold readDecimal?
  rcases hsplit : Text.splitOnce '.' ('-' :: cs) with _ | ⟨before, after⟩
  · rw [hminus]
    rfl
  · have htext := Text.splitOnce_eq_some hsplit
    cases before with
    | nil => cases htext
    | cons c before =>
        obtain ⟨rfl, -⟩ := List.cons.inj htext
        dsimp only
        rw [hminus]
        rfl

/-- What is read behind a sign. -/
theorem readSigned?_signed {cs : List Char} {q : ℚ} (h : readDecimal? cs = some q)
    (negative : Bool) :
    readSigned? (signed negative cs) = some (if negative then -q else q) := by
  cases negative with
  | true =>
      show (readDecimal? cs).map (- ·) = some (-q)
      rw [h]
      rfl
  | false =>
      show readSigned? cs = some q
      unfold readSigned?
      split
      next => rw [readDecimal?_minus] at h; cases h
      next => exact h

/-- The minus sign is no zero and no point, so it stays. -/
theorem trimDecimals_signed (negative : Bool) (cs : List Char) :
    trimDecimals (signed negative cs) = signed negative (trimDecimals cs) := by
  have hminus (p : Char → Bool) (hp : p '-' = false) (cs : List Char) :
      ('-' :: cs).rdropWhile p = '-' :: cs.rdropWhile p := by
    induction cs using List.reverseRecOn with
    | nil => simp [List.rdropWhile, hp]
    | append_singleton cs c ih =>
        rw [← List.cons_append]
        by_cases hc : p c = true
        · rw [List.rdropWhile_concat_pos _ _ _ hc, List.rdropWhile_concat_pos _ _ _ hc, ih]
        · rw [List.rdropWhile_concat_neg _ _ _ hc, List.rdropWhile_concat_neg _ _ _ hc]
          rfl
  cases negative with
  | false => rfl
  | true =>
      show trimDecimals ('-' :: cs) = '-' :: trimDecimals cs
      rw [trimDecimals_eq, trimDecimals_eq, hminus _ (by decide), hminus _ (by decide)]

/-! ## Thousandths of either sign -/

/-- The nearest thousandth, of numbers of either sign. -/
def nearThousandth (q : ℚ) : ℚ := if q < 0 then -printed q else printed q

theorem nearest_neg (x : ℚ) : nearest (-x) = nearest x := by
  rw [nearest, nearest, Rat.neg_num, Rat.neg_den, Int.natAbs_neg]

theorem printed_neg (q : ℚ) : printed (-q) = printed q := by
  rw [printed, printed, neg_mul, nearest_neg]

theorem printed_nonneg (q : ℚ) : 0 ≤ printed q := by
  unfold printed
  positivity

theorem nearThousandth_of_nonneg {q : ℚ} (hq : 0 ≤ q) : nearThousandth q = printed q :=
  if_neg (not_lt.mpr hq)

theorem nearThousandth_neg (q : ℚ) : nearThousandth (-q) = -nearThousandth q := by
  unfold nearThousandth
  rw [printed_neg]
  rcases lt_trichotomy q 0 with hneg | rfl | hpos
  · rw [if_neg (by linarith), if_pos hneg, neg_neg]
  · have hzero := printed_natCast 0
    rw [Nat.cast_zero] at hzero
    simp [hzero]
  · rw [if_pos (by linarith), if_neg (by linarith)]

/-- It is no more than half a thousandth away. -/
theorem abs_nearThousandth_sub_le (q : ℚ) : |nearThousandth q - q| ≤ 1 / 2000 := by
  have hnonneg {q : ℚ} (hq : 0 ≤ q) : |nearThousandth q - q| ≤ 1 / 2000 := by
    have hnear := abs_le.mp (nearestEven_thousandths hq).near
    rw [nearThousandth_of_nonneg hq, printed, abs_le]
    constructor <;> linarith
  rcases le_total 0 q with hq | hq
  · exact hnonneg hq
  · have hneg := hnonneg (neg_nonneg.mpr hq)
    rwa [nearThousandth_neg, neg_sub_neg, abs_sub_comm] at hneg

/-- **The order of numbers is kept**, below zero as above it. -/
theorem nearThousandth_mono : Monotone nearThousandth := by
  intro p q h
  rcases le_or_gt 0 p with hp | hp
  · rw [nearThousandth_of_nonneg hp, nearThousandth_of_nonneg (hp.trans h)]
    exact printed_mono hp h
  have hlow : nearThousandth p = -printed p := if_pos hp
  rcases le_or_gt 0 q with hq | hq
  · rw [hlow, nearThousandth_of_nonneg hq]
    have hp' := printed_nonneg p
    have hq' := printed_nonneg q
    linarith
  · rw [hlow, nearThousandth, if_pos hq, neg_le_neg_iff, ← printed_neg q, ← printed_neg p]
    exact printed_mono (by linarith) (by linarith)

/-- Whole numbers stay. -/
theorem nearThousandth_intCast (n : ℤ) : nearThousandth n = n := by
  obtain ⟨k, rfl | rfl⟩ := n.eq_nat_or_neg
  · rw [Int.cast_natCast, nearThousandth_of_nonneg k.cast_nonneg, printed_natCast]
  · rw [Int.cast_neg, Int.cast_natCast, nearThousandth_neg,
      nearThousandth_of_nonneg k.cast_nonneg, printed_natCast]

/-! ## The number that is read off -/

/-- A number brought into the range of 64 bits with a sign. -/
def clampRange (q : ℚ) : ℚ := max minInt64 (min maxInt64 q)

theorem clampRange_mono : Monotone clampRange := by
  intro p q h
  exact max_le_max_left _ (min_le_min_left _ h)

theorem clampRange_intCast (n : ℤ) : clampRange n = clampInt64 n := by
  unfold clampRange clampInt64
  push_cast
  rfl

theorem clampRange_eq_self {q : ℚ} (hlow : minInt64 ≤ q) (hhigh : q ≤ maxInt64) :
    clampRange q = q := by
  rw [clampRange, min_eq_right hhigh, max_eq_right hlow]

/-- Whole numbers as text. -/
theorem toList_toString (n : ℤ) :
    (toString n).toList = signed (decide (n < 0)) (Nat.toDigits 10 n.natAbs) := by
  rw [Int.toString_eq_repr]
  cases n with
  | ofNat k =>
      show (Nat.repr k).toList = signed (decide ((k : ℤ) < 0)) (Nat.toDigits 10 k)
      rw [decide_eq_false (by omega)]
      simp [signed]
  | negSucc k =>
      show ("-" ++ Nat.repr (k + 1)).toList =
        signed (decide (Int.negSucc k < 0)) (Nat.toDigits 10 (k + 1))
      rw [decide_eq_true (Int.negSucc_lt_zero k)]
      simp [signed]

/-- What seconds are read as: whole ones exactly unless 64 bits do not hold them, and
others as their nearest thousandth. -/
theorem readSigned?_exactSeconds (q : ℚ) :
    readSigned? (exactSeconds q) =
      some (if q.den = 1 then (clampInt64 q.num : ℚ) else nearThousandth q) := by
  unfold exactSeconds
  split
  next =>
    have hread : readDecimal? (Nat.toDigits 10 (clampInt64 q.num).natAbs) =
        some ((clampInt64 q.num).natAbs : ℚ) := by
      rw [readDecimal?_digits Nat.toDigits_ne_nil fun _ => isDigit_of_mem_toDigits,
        digitsValue_toDigits]
    have habs : ((clampInt64 q.num).natAbs : ℚ) = |(clampInt64 q.num : ℚ)| := by
      rw [Nat.cast_natAbs, Int.cast_abs]
    rw [toList_toString, readSigned?_signed hread, habs]
    generalize clampInt64 q.num = n
    rcases lt_or_ge n 0 with hneg | hpos
    · rw [if_pos (decide_eq_true hneg), abs_of_neg (Int.cast_lt_zero.mpr hneg), neg_neg]
    · rw [if_neg (by simpa using hpos), abs_of_nonneg (Int.cast_nonneg hpos)]
  next =>
    have hprinted : printed q = (nearest (q * 1000) : ℚ) / 10 ^ 3 := by norm_num [printed]
    rw [trimDecimals_signed, readSigned?_signed (readDecimal?_positional three_ne_zero _),
      nearThousandth, hprinted]
    simp only [decide_eq_true_eq]

/-- Seconds are plain decimals. -/
theorem isPlain_exactSeconds (q : ℚ) : IsPlain (exactSeconds q) := by
  unfold exactSeconds
  split
  next =>
    rw [toList_toString]
    exact .whole _ Nat.toDigits_ne_nil fun _ => isDigit_of_mem_toDigits
  next =>
    obtain ⟨whole, part, htext, hwhole, hpart, hdigits, -⟩ :=
      positional_eq three_ne_zero (nearest (q * 1000))
    obtain ⟨places, k, rfl, hlast, htrim⟩ := trimDecimals_places hdigits
    rw [trimDecimals_signed, htext, htrim]
    rw [← List.append_assoc] at hdigits
    obtain ⟨hdigits, -⟩ := List.forall_mem_append.mp hdigits
    split
    next hnone =>
      subst hnone
      rw [List.append_nil] at hdigits
      exact .whole _ hwhole hdigits
    next hsome =>
      refine .point _ hwhole hsome ?_ hlast hdigits
      rw [List.length_append] at hpart
      omega

theorem clampRange_of_den_eq_one {q : ℚ} (h : q.den = 1) :
    clampRange (nearThousandth q) = clampInt64 q.num := by
  have hnum : (q.num : ℚ) = q := (Rat.den_eq_one_iff q).mp h
  rw [← clampRange_intCast, ← nearThousandth_intCast, hnum]

/-! ## Doubles -/

section Doubles

variable {x y : Float} {p q : ℚ}

/-- A double with places is far within the range, and so is its nearest thousandth. -/
theorem clampRange_of_den_ne_one (h : (Value.ofFloat x).rational? = some q) (hpart : q.den ≠ 1) :
    clampRange (nearThousandth q) = nearThousandth q := by
  obtain ⟨hlow, hhigh⟩ := abs_lt.mp (abs_lt_of_den_ne_one h hpart)
  obtain ⟨hlow', hhigh'⟩ := abs_le.mp (abs_nearThousandth_sub_le q)
  apply clampRange_eq_self
  · norm_num [minInt64]
    linarith
  · norm_num [maxInt64]
    linarith

/-- The seconds of a double are read as the nearest thousandth within the range. -/
theorem readSigned?_secondsText (h : (Value.ofFloat x).rational? = some q) :
    readSigned? (secondsText x).toList = some (clampRange (nearThousandth q)) := by
  rw [secondsText, String.toList_ofList, seconds_eq_exactSeconds h, readSigned?_exactSeconds]
  refine congrArg some ?_
  split
  next hwhole => exact (clampRange_of_den_eq_one hwhole).symm
  next hpart => exact (clampRange_of_den_ne_one h hpart).symm

/-- A number in the range is read within half a thousandth, and no other number is. -/
theorem abs_clampRange_sub_le_iff (h : (Value.ofFloat x).rational? = some q) :
    |clampRange (nearThousandth q) - q| ≤ 1 / 2000 ↔ -2 ^ 63 ≤ q ∧ q < 2 ^ 63 := by
  by_cases hwhole : q.den = 1
  · obtain ⟨n, rfl⟩ : ∃ n : ℤ, q = n := ⟨q.num, ((Rat.den_eq_one_iff q).mp hwhole).symm⟩
    have hrange : (-2 ^ 63 : ℚ) ≤ n ∧ (n : ℚ) < 2 ^ 63 ↔ clampInt64 n = n := by
      rw [clampInt64, minInt64, maxInt64]
      norm_cast
      omega
    rw [nearThousandth_intCast, clampRange_intCast, hrange]
    -- whole numbers less than one apart are the same
    constructor
    · intro hnear
      have hless : |((clampInt64 n - n : ℤ) : ℚ)| < 1 := by
        push_cast
        linarith
      have hsame : |clampInt64 n - n| < 1 := by exact_mod_cast hless
      exact sub_eq_zero.mp (Int.abs_lt_one_iff.mp hsame)
    · intro hsame
      rw [hsame, sub_self]
      norm_num
  · obtain ⟨hlow, hhigh⟩ := abs_lt.mp (abs_lt_of_den_ne_one h hwhole)
    rw [clampRange_of_den_ne_one h hwhole]
    refine iff_of_true (abs_nearThousandth_sub_le q) ⟨?_, ?_⟩ <;> linarith

/-- What a text tells of the number it was printed for: it is a plain decimal, and it
reads as a number that is near exactly in the range, and that is the number itself or the
nearer end of the range if the number is whole. -/
structure TextOf (q : ℚ) (text : List Char) (v : ℚ) : Prop where
  plain : IsPlain text
  reads : readSigned? text = some v
  near_iff : |v - q| ≤ 1 / 2000 ↔ -2 ^ 63 ≤ q ∧ q < 2 ^ 63
  whole : q.den = 1 → v = clampInt64 q.num

/-- **Printed seconds.** A finite number of seconds is printed within half a thousandth if
it is in the range of 64 bits, exactly if it is also whole, and never as a greater number
than one that is printed for a greater number of seconds. -/
theorem secondsText_near (hx : x.isFinite = true) :
    ∃ q v, (Value.ofFloat x).rational? = some q ∧ TextOf q (secondsText x).toList v ∧
      ∀ y : Float, y.isFinite = true →
        ∃ w, readSigned? (secondsText y).toList = some w ∧ (x ≤ y → v ≤ w) := by
  obtain ⟨q, hq⟩ := isFinite_iff.mp hx
  refine ⟨q, clampRange (nearThousandth q), hq, ⟨?_, readSigned?_secondsText hq,
    abs_clampRange_sub_le_iff hq, clampRange_of_den_eq_one⟩, ?_⟩
  · rw [secondsText, String.toList_ofList, seconds_eq_exactSeconds hq]
    exact isPlain_exactSeconds q
  · intro y hy
    obtain ⟨p, hp⟩ := isFinite_iff.mp hy
    refine ⟨_, readSigned?_secondsText hp, ?_⟩
    intro hle
    apply clampRange_mono
    apply nearThousandth_mono
    exact (le_iff_of_rational? hq hp).mp hle

/-- It holds of seven and a half seconds. -/
theorem secondsText_near_half :
    (7.5 : Float).isFinite = true ∧
      ∃ q v, (Value.ofFloat 7.5).rational? = some q ∧ TextOf q (secondsText 7.5).toList v ∧
        ∀ y : Float, y.isFinite = true →
          ∃ w, readSigned? (secondsText y).toList = some w ∧ (7.5 ≤ y → v ≤ w) := by
  have hfinite : (7.5 : Float).isFinite = true := by decide +kernel
  exact ⟨hfinite, secondsText_near hfinite⟩

/-- Not every finite number of seconds is printed within half a thousandth: 64 bits with a
sign do not hold ten to the nineteenth. -/
theorem not_secondsText_near : ¬ ∀ x : Float, x.isFinite = true →
    ∃ q v, (Value.ofFloat x).rational? = some q ∧ readSigned? (secondsText x).toList = some v ∧
      |v - q| ≤ 1 / 2000 := by
  intro h
  have hvalue : (Value.ofFloat 1e19).rational? = some (10 ^ 19) := by decide +kernel
  obtain ⟨q, v, hq, hread, hnear⟩ := h 1e19 (isFinite_iff.mpr ⟨_, hvalue⟩)
  obtain rfl := Option.some.inj (hvalue.symm.trans hq)
  obtain rfl := Option.some.inj ((readSigned?_secondsText hvalue).symm.trans hread)
  have hrange := ((abs_clampRange_sub_le_iff hvalue).mp hnear).2
  norm_num at hrange

end Doubles

end VideoGreeting
