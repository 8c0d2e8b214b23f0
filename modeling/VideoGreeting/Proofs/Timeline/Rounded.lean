import VideoGreeting.Proofs.Number.FloatArithmetic
import VideoGreeting.Proofs.Timeline.Gates

/-!
# Windows of doubles

The bounds of the windows of a reel are reckoned with doubles: a product and a quotient,
each rounded, and for the last bound the length itself. `roundedBound` is the number that
a bound stands for. It does not go down from bound to bound, at the last one because a
product is rounded up by less than the length; so the gates of the windows take turns.

Main theorem: `takeTurns_windows`.
-/

namespace VideoGreeting.Timeline

open Number

/-- The number that a bound of the windows of a length stands for. -/
def roundedBound (length : ℚ) (n i : ℕ) : ℚ :=
  if i = n then length else toDouble (toDouble (i * length) / n)

variable {length : ℚ} {n i : ℕ}

/-! ## The order of the bounds -/

/-- A positive double is at least the least unit. -/
theorem least_le_of_isDouble (h : IsDouble length) (hlength : 0 < length) :
    2 ^ (-1074 : ℤ) ≤ length := by
  obtain ⟨m, e, -, he, rfl⟩ := h
  have hm : (1 : ℚ) ≤ m := by
    rw [Nat.one_le_cast]
    exact Nat.pos_of_ne_zero fun hzero => by simp [hzero] at hlength
  calc (2 : ℚ) ^ (-1074 : ℤ) ≤ 2 ^ e := zpow_le_zpow_right₀ (by norm_num) he
    _ ≤ m * 2 ^ e := le_mul_of_one_le_left (by positivity) hm

/-- A product is rounded up by no more than the length. -/
theorem toDouble_mul_le (h : IsDouble length) (hlength : 0 < length) (hi : i < 2 ^ 53) :
    toDouble (i * length) ≤ (i + 1) * length := by
  rcases Nat.eq_zero_or_pos i with rfl | hpos
  · rw [Nat.cast_zero, zero_mul, toDouble_zero]
    positivity
  have hcast : (0 : ℚ) < i := Nat.cast_pos.mpr hpos
  have hproduct : 0 < i * length := by positivity
  have herror := (abs_le.mp (abs_toDouble_sub_le hproduct.le)).2
  have hhalf : unit (i * length) / 2 ≤ length := by
    rcases eq_or_lt_of_le (show -1074 ≤ unitExponent (i * length) from le_max_right _ _) with
      hleast | hmore
    · have hlow := least_le_of_isDouble h hlength
      rw [unit, ← hleast]
      linarith
    · have hunits := units_le hproduct hmore
      have hlt : (i : ℚ) < 2 ^ 53 := by exact_mod_cast hi
      nlinarith
  linarith

/-- **The bounds do not go down.** -/
theorem roundedBound_le_succ (h : IsDouble length) (hlength : 0 < length) (hn : n < 2 ^ 53)
    (hi : i < n) : roundedBound length n i ≤ roundedBound length n (i + 1) := by
  have hcast : (0 : ℚ) < n := Nat.cast_pos.mpr (Nat.zero_lt_of_lt hi)
  have hproduct := toDouble_nonneg (i * length)
  unfold roundedBound
  rw [if_neg hi.ne]
  split
  next hlast =>
    refine toDouble_le_of_le (by positivity) ?_ h
    rw [div_le_iff₀ hcast]
    calc toDouble (i * length) ≤ (i + 1) * length := toDouble_mul_le h hlength (hi.trans hn)
      _ = length * n := by
          rw [← hlast]
          push_cast
          ring
  next =>
    refine toDouble_mono (by positivity) ?_
    gcongr
    refine toDouble_mono (by positivity) ?_
    gcongr
    exact i.le_succ

theorem roundedBound_nonneg (hlength : 0 < length) (n i : ℕ) : 0 ≤ roundedBound length n i := by
  unfold roundedBound
  split
  · exact hlength.le
  · exact toDouble_nonneg _

theorem roundedBound_le (h : IsDouble length) (hlength : 0 < length) (hn : n < 2 ^ 53)
    (hi : i ≤ n) : roundedBound length n i ≤ length := by
  induction hi using Nat.decreasingInduction with
  | self => exact (if_pos rfl).le
  | of_succ i hi ih => exact (roundedBound_le_succ h hlength hn hi).trans ih

theorem roundedBound_zero (hn : n ≠ 0) : roundedBound length n 0 = 0 := by
  rw [roundedBound, if_neg hn.symm]
  simp [toDouble_zero]

/-! ## What the bounds stand for -/

/-- **The bounds of doubles** stand for these numbers. -/
theorem stands_bound {duration : Float} (h : Stands duration length) (hlength : 0 < length)
    (hlt : length < 2 ^ 63) (hn : n < 2 ^ 53) (hi : i ≤ n) :
    Stands (bound duration n i) (roundedBound length n i) := by
  unfold bound roundedBound
  split
  next => exact h
  next hne =>
    have hin : i < n := lt_of_le_of_ne hi hne
    have hcast : (0 : ℚ) < n := Nat.cast_pos.mpr (Nat.zero_lt_of_lt hin)
    have hcast' : (i : ℚ) < 2 ^ 53 := by exact_mod_cast hin.trans hn
    have hproduct : toDouble (i * length) ≤ 2 ^ 116 := by
      refine toDouble_le_of_le (by positivity) ?_ ⟨1, 116, by decide, by decide, by norm_num⟩
      nlinarith
    have hquotient : toDouble (toDouble (i * length) / n) ≤ length := by
      have hle := roundedBound_le h.isDouble hlength hn hi
      rwa [roundedBound, if_neg hne] at hle
    have hgreatest : (2 : ℚ) ^ 116 < 2 ^ 1024 := pow_lt_pow_right₀ (by norm_num) (by norm_num)
    refine ((stands_ofNat (hin.trans hn)).mul h ?_).div (stands_ofNat hn) hcast ?_
    · exact hproduct.trans_lt hgreatest
    · refine (hquotient.trans_lt hlt).trans ?_
      exact pow_lt_pow_right₀ (by norm_num) (by norm_num)

theorem isPositive_of_stands {duration : Float} (h : Stands duration length)
    (hlength : 0 < length) : isPositive duration = true := by
  have hfinite : duration.isFinite = duration.toModel.unpack.isFinite := rfl
  rw [isPositive, Bool.and_eq_true, decide_eq_true_iff, zero_lt_iff, hfinite]
  obtain ⟨-, rfl⟩ | ⟨m, e, hm, hunpack, -, -⟩ := Unpacks.zero_or_finite h
  · exact absurd hlength (lt_irrefl _)
  · rw [hunpack]
    exact ⟨rfl, rfl⟩

/-- **The windows of a reel.** Their gates take turns, up to what is read off the length. -/
theorem takeTurns_windows {duration : Float} (h : Stands duration length)
    (hlength : 0 < length) (hlt : length < 2 ^ 63) (hn : n ≠ 0) (hcount : n < 2 ^ 53) :
    TakeTurns (fun i => printed (roundedBound length n i)) (printed length)
      ((windows duration n).map Window.expression) := by
  have hlast : roundedBound length n n = length := if_pos rfl
  have hread : ∀ i ≤ n, readDecimal? (seconds (.ofFloat (bound duration n i))) =
      some (printed (roundedBound length n i)) := by
    intro i hi
    rw [seconds_eq_exactSeconds (stands_bound h hlength hlt hcount hi).rational?]
    exact readDecimal?_exactSeconds (roundedBound_nonneg hlength n i)
      ((roundedBound_le h.isDouble hlength hcount hi).trans_lt hlt)
  have hfirst : printed (roundedBound length n 0) = 0 := by
    rw [roundedBound_zero hn]
    exact printed_natCast 0
  have hmono : ∀ i < n,
      printed (roundedBound length n i) ≤ printed (roundedBound length n (i + 1)) := fun i hi =>
    printed_mono (roundedBound_nonneg hlength n i)
      (roundedBound_le_succ h.isDouble hlength hcount hi)
  have hturns := @takeTurns_of_reads Float (fun x => seconds (.ofFloat x)) (bound duration n) _ n
    hread hfirst hmono
  rwa [hlast] at hturns

/-! ## How far the bounds are off -/

/-- A rounded product, divided, is off by a small part of the quotient. -/
theorem abs_div_sub_le {x : ℚ} (hx : 2 ^ (-1022 : ℤ) ≤ x) (hn : 0 < n) :
    |toDouble x / n - x / n| ≤ x / n / 2 ^ 53 := by
  have hcast : (0 : ℚ) < n := Nat.cast_pos.mpr hn
  have herror := abs_toDouble_sub_le_of_normal hx
  calc |toDouble x / n - x / n| = |toDouble x - x| / n := by
        rw [← sub_div, abs_div, abs_of_pos hcast]
    _ ≤ x / 2 ^ 53 / n := by gcongr
    _ = x / n / 2 ^ 53 := by ring

/-- A bound is off by a small part of the length. -/
theorem abs_roundedBound_sub_le (hlength : 0 < length) (hwide : 2 / 1000 ≤ length / n)
    (hi : i ≤ n) : |roundedBound length n i - i * length / n| ≤ length / 2 ^ 51 := by
  have hn : 0 < n := by
    refine Nat.pos_of_ne_zero ?_
    rintro rfl
    norm_num at hwide
  have hcast : (0 : ℚ) < n := Nat.cast_pos.mpr hn
  unfold roundedBound
  split
  next hlast =>
    rw [hlast, mul_div_cancel_left₀ _ hcast.ne', sub_self, abs_zero]
    positivity
  next hne =>
    rcases Nat.eq_zero_or_pos i with rfl | hpos
    · simp only [Nat.cast_zero, zero_mul, zero_div, toDouble_zero, sub_self, abs_zero]
      positivity
    have hi1 : (1 : ℚ) ≤ i := Nat.one_le_cast.mpr hpos
    have hin : (i : ℚ) ≤ n := Nat.cast_le.mpr hi
    have hn1 : (1 : ℚ) ≤ n := Nat.one_le_cast.mpr hn
    have hleast : (2 : ℚ) ^ (-1022 : ℤ) ≤ 1 / 1000 := by
      calc (2 : ℚ) ^ (-1022 : ℤ) ≤ 2 ^ (-10 : ℤ) := zpow_le_zpow_right₀ (by norm_num) (by norm_num)
        _ ≤ 1 / 1000 := by norm_num
    -- the exact bound lies between a window and the length
    have hlow : 2 / 1000 ≤ i * length / n := by
      refine hwide.trans ?_
      gcongr
      exact le_mul_of_one_le_left hlength.le hi1
    have hhigh : i * length / n ≤ length := by
      rw [div_le_iff₀ hcast, mul_comm]
      gcongr
    have hproduct : i * length / n ≤ i * length := div_le_self (by positivity) hn1
    have hfirst := abs_div_sub_le (x := i * length) (by linarith) hn
    have hbounds := abs_le.mp hfirst
    have hsecond := abs_toDouble_sub_le_of_normal (x := toDouble (i * length) / n) (by linarith)
    calc |toDouble (toDouble (i * length) / n) - i * length / n|
        ≤ |toDouble (toDouble (i * length) / n) - toDouble (i * length) / n| +
          |toDouble (i * length) / n - i * length / n| := abs_sub_le _ _ _
      _ ≤ length / 2 ^ 51 := by linarith

/-- Windows of two thousandths and more are not printed as empty, unless the length is so
great that doubles are too coarse for them. -/
theorem printed_roundedBound_lt (hlength : 0 < length) (hgreat : length ≤ 2 ^ 40)
    (hwide : 2 / 1000 ≤ length / n) (hi : i < n) :
    printed (roundedBound length n i) < printed (roundedBound length n (i + 1)) := by
  have hlow := (abs_le.mp (abs_roundedBound_sub_le hlength hwide hi.le)).2
  have hhigh := (abs_le.mp (abs_roundedBound_sub_le hlength hwide (Nat.succ_le_of_lt hi))).1
  have hgap : ((i + 1 : ℕ) : ℚ) * length / n = i * length / n + length / n := by
    push_cast
    ring
  exact printed_lt (roundedBound_nonneg hlength n i) (by linarith)

end VideoGreeting.Timeline
