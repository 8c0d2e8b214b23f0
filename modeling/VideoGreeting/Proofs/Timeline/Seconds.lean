import VideoGreeting.Proofs.Number.Decimals
import VideoGreeting.Proofs.Number.Rounding
import VideoGreeting.Proofs.Timeline.Partition

/-!
# What seconds are read as

Seconds are written in two ways, whole ones and others. Both depend only on the number
that is written, so they are stated for exact numbers first, `exactSeconds`, and
`seconds_eq_exactSeconds` says that doubles are written like the number they stand for.

Main theorem: `readDecimal?_exactSeconds`. Whichever way it is written, a number is read
as its nearest thousandth, and so the order of numbers is kept across both ways.
-/

namespace VideoGreeting

open Number

/-- The number that is read off a number of seconds: its nearest thousandth. -/
def printed (q : ℚ) : ℚ := nearest (q * 1000) / 1000

/-- Seconds as text, of an exact number. -/
def exactSeconds (q : ℚ) : List Char :=
  if q.den = 1 then (toString (clampInt64 q.num)).toList
  else trimDecimals (signed (decide (q < 0)) (positional 3 (nearest (q * 1000))))

/-! ## Thousandths -/

theorem nearestEven_thousandths {q : ℚ} (hq : 0 ≤ q) :
    NearestEven (q * 1000) (nearest (q * 1000)) := by
  have hnearest := nearestEven_nearest (q * 1000)
  rwa [abs_of_nonneg (by positivity)] at hnearest

/-- The order of numbers is kept. -/
theorem printed_mono {p q : ℚ} (hp : 0 ≤ p) (h : p ≤ q) : printed p ≤ printed q := by
  have hle : nearest (p * 1000) ≤ nearest (q * 1000) :=
    (nearestEven_thousandths hp).mono (nearestEven_thousandths (hp.trans h)) (by linarith)
  unfold printed
  gcongr

/-- Numbers that are more than a thousandth apart stay apart. -/
theorem printed_lt {p q : ℚ} (hp : 0 ≤ p) (h : p + 1 / 1000 < q) : printed p < printed q := by
  have hlt : nearest (p * 1000) < nearest (q * 1000) :=
    (nearestEven_thousandths hp).lt_of_add_one_lt (nearestEven_thousandths (by linarith))
      (by linarith)
  unfold printed
  gcongr

/-- Whole numbers are read as they are. -/
theorem printed_natCast (n : ℕ) : printed n = n := by
  have hthousandths : nearest (n * 1000) = n * 1000 := by
    refine (nearestEven_thousandths n.cast_nonneg).unique ?_
    exact_mod_cast NearestEven.natCast (n * 1000)
  rw [printed, hthousandths]
  push_cast
  field_simp

/-! ## Doubles -/

section Finite

theorem den_pos (e : ℤ) : 0 < Value.den e := Nat.pow_pos Nat.two_pos

variable {negative : Bool} {m : ℕ} {e : ℤ} {q : ℚ}

/-- The size of the number that a finite value stands for. -/
theorem abs_of_rational? (h : (Value.finite negative m e).rational? = some q) :
    |q| = (Value.num m e : ℚ) / Value.den e := by
  have hnonneg : (0 : ℚ) ≤ (Value.num m e : ℚ) / Value.den e := by positivity
  rw [← Option.some.inj h]
  split <;> simp only [abs_neg, abs_of_nonneg hnonneg]

/-- A value is whole if its number is. -/
theorem isWhole_iff (h : (Value.finite negative m e).rational? = some q) :
    (Value.finite negative m e).isWhole = true ↔ q.den = 1 := by
  have hden : Value.den e ≠ 0 := (den_pos e).ne'
  have habs : |q|.den = q.den := by
    rcases abs_choice q with hq | hq
    · rw [hq]
    · rw [hq, Rat.neg_den]
  rw [Value.isWhole, beq_iff_eq, ← Nat.dvd_iff_mod_eq_zero,
    ← Rat.den_div_natCast_eq_one_iff _ _ hden, ← abs_of_rational? h, habs]

/-- Nothing is cut off a whole number. -/
theorem truncate_eq_num (h : (Value.finite negative m e).rational? = some q)
    (hwhole : q.den = 1) : (Value.finite negative m e).truncate = q.num := by
  have hden : (Value.den e : ℚ) ≠ 0 := Nat.cast_ne_zero.mpr (den_pos e).ne'
  have hdvd : Value.den e ∣ Value.num m e := by
    have hiff := (isWhole_iff h).mpr hwhole
    rwa [Value.isWhole, beq_iff_eq, ← Nat.dvd_iff_mod_eq_zero] at hiff
  have hq : q = ((Value.finite negative m e).truncate : ℤ) := by
    rw [← Option.some.inj h, Value.truncate, ← Nat.cast_div hdvd hden]
    cases negative with
    | false => exact (Int.cast_natCast _).symm
    | true => simp only [if_pos, Int.cast_neg, Int.cast_natCast]
  conv_rhs => rw [hq, Rat.num_intCast]

/-- A number that is not whole has the sign of its value. -/
theorem decide_lt_zero (h : (Value.finite negative m e).rational? = some q)
    (hpart : q.den ≠ 1) : decide (q < 0) = negative := by
  have hpos : 0 < |q| := by
    rw [abs_pos]
    rintro rfl
    exact hpart rfl
  rw [abs_of_rational? h] at hpos
  rw [← Option.some.inj h]
  cases negative with
  | false => simpa using hpos.le
  | true => simpa using hpos

theorem roundDivEven_eq_nearest (h : (Value.finite negative m e).rational? = some q) :
    roundDivEven (Value.num m e * Nat.pow 10 3) (Value.den e) = nearest (q * 1000) := by
  refine (nearestEven_roundDivEven _ (den_pos e)).unique ?_
  have hfraction : ((Value.num m e * Nat.pow 10 3 : ℕ) : ℚ) / Value.den e = |q * 1000| := by
    rw [abs_mul, abs_of_rational? h]
    push_cast
    norm_num
    ring
  rw [hfraction]
  exact nearestEven_nearest _

end Finite

/-- **Doubles are written like the number they stand for.** -/
theorem seconds_eq_exactSeconds {v : Value} {q : ℚ} (h : v.rational? = some q) :
    seconds v = exactSeconds q := by
  cases v with
  | nan | infinite negative => cases h
  | finite negative m e =>
      unfold seconds exactSeconds
      by_cases hwhole : q.den = 1
      · rw [if_pos ((isWhole_iff h).mpr hwhole), if_pos hwhole, truncate_eq_num h hwhole]
      · rw [if_neg (mt (isWhole_iff h).mp hwhole), if_neg hwhole, decide_lt_zero h hwhole,
          fixed, roundDivEven_eq_nearest h]

/-! ## Reading -/

/-- **Seconds read back.** A number that is not negative and fits into 64 bits is read as
its nearest thousandth. -/
theorem readDecimal?_exactSeconds {q : ℚ} (hq : 0 ≤ q) (hlt : q < 2 ^ 63) :
    readDecimal? (exactSeconds q) = some (printed q) := by
  unfold exactSeconds
  split
  next hden =>
    obtain ⟨n, rfl⟩ : ∃ n : ℕ, q = n := by
      have hnum := Rat.den_eq_one_iff q |>.mp hden
      have hpos : 0 ≤ q.num := Rat.num_nonneg.mpr hq
      refine ⟨q.num.toNat, ?_⟩
      rw [← hnum]
      exact_mod_cast (Int.toNat_of_nonneg hpos).symm
    have hclamp : clampInt64 (n : ℚ).num = n := by
      have hn : n < 2 ^ 63 := by exact_mod_cast hlt
      rw [Rat.num_natCast, clampInt64, minInt64, maxInt64]
      omega
    rw [hclamp, readDecimal?_natCast, printed_natCast]
  next =>
    have hsign : decide (q < 0) = false := decide_eq_false (not_lt.mpr hq)
    rw [hsign, signed, if_neg Bool.false_ne_true, readDecimal?_positional (by decide), printed]
    norm_num

end VideoGreeting
