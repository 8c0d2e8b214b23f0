import Mathlib
import VideoGreeting.Timeline

/-!
# The windows divide the reel

The windows of a reel lie between bounds, each of which ends one window and begins the
next. `chain` says what follows from that alone: neighbours meet, in any arithmetic,
and where the bounds do not go down, every instant between the first and the last lies
in one window and no other instant lies in any.

With doubles a bound may be rounded onto the next, and only the meeting is left. With
exact numbers the bounds go up, and the windows divide the reel. Main theorem:
`plan_partitions`.
-/

namespace VideoGreeting

/-! ## Doubles and zero -/

namespace Number

open Float.Model (UnpackedFloat)

/-- The number that a value stands for, if it stands for one. -/
def Value.rational? : Value → Option ℚ
  | nan => none
  | infinite _ => none
  | finite negative m e =>
    let size : ℚ := num m e / den e
    some (if negative then -size else size)

theorem unpack_zero : (0.0 : Float).toModel.unpack = .zero .positive := rfl

theorem zero_lt_iff (x : Float) :
    0.0 < x ↔ (UnpackedFloat.zero .positive).lt x.toModel.unpack = true := by
  rw [← unpack_zero]
  exact decide_eq_true_iff

theorem le_zero_iff (x : Float) :
    x ≤ 0.0 ↔ x.toModel.unpack.le (UnpackedFloat.zero .positive) = true := by
  rw [← unpack_zero]
  exact decide_eq_true_iff

/-- The size of a value that is not zero. -/
theorem size_pos {m : Nat} (hm : 0 < m) (e : Int) :
    (0 : ℚ) < (Value.num m e : ℚ) / Value.den e := by
  have hnum : 0 < Value.num m e := Nat.mul_pos hm (Nat.pow_pos Nat.two_pos)
  have hden : 0 < Value.den e := Nat.pow_pos Nat.two_pos
  exact div_pos (Nat.cast_pos.mpr hnum) (Nat.cast_pos.mpr hden)

end Number

namespace Timeline

/-! ## Lengths -/

section Length

open Float.Model (UnpackedFloat)

/-- A double is no length if it is not a number, infinite, zero or negative. -/
theorem isPositive_eq_false_iff (x : Float) :
    isPositive x = false ↔ x.isNaN = true ∨ x.isInf = true ∨ x ≤ 0.0 := by
  have hfinite : x.isFinite = x.toModel.unpack.isFinite := rfl
  have hnan : x.isNaN = x.toModel.unpack.isNaN := rfl
  have hinf : x.isInf = x.toModel.unpack.isInf := rfl
  rw [isPositive, Bool.and_eq_false_iff, decide_eq_false_iff_not, Number.zero_lt_iff,
    Number.le_zero_iff, hfinite, hnan, hinf]
  cases x.toModel.unpack with
  | notANumber => simp [UnpackedFloat.isFinite, UnpackedFloat.isNaN]
  | infinity sign => simp [UnpackedFloat.isFinite, UnpackedFloat.isInf]
  | zero sign => simp [UnpackedFloat.lt, UnpackedFloat.le, UnpackedFloat.compare]
  | finite sign m e hm =>
      cases sign with
      | positive | negative =>
          simp [UnpackedFloat.lt, UnpackedFloat.le, UnpackedFloat.compare,
            UnpackedFloat.isFinite, UnpackedFloat.isNaN, UnpackedFloat.isInf]

/-- A length is a number above zero. -/
theorem rational?_of_isPositive {x : Float} (h : isPositive x = true) :
    ∃ q, (Number.Value.ofFloat x).rational? = some q ∧ 0 < q := by
  have hfinite : x.isFinite = x.toModel.unpack.isFinite := rfl
  rw [isPositive, Bool.and_eq_true, decide_eq_true_iff, Number.zero_lt_iff, hfinite] at h
  unfold Number.Value.ofFloat
  cases hx : x.toModel.unpack with
  | notANumber => simp [hx, UnpackedFloat.isFinite] at h
  | infinity sign => simp [hx, UnpackedFloat.isFinite] at h
  | zero sign => simp [hx, UnpackedFloat.lt, UnpackedFloat.compare] at h
  | finite sign m e hm =>
      cases sign with
      | positive => exact ⟨_, rfl, Number.size_pos hm e⟩
      | negative => simp [hx, UnpackedFloat.lt, UnpackedFloat.compare] at h

end Length

/-! ## Bounds and what lies between them -/

section Chain

variable {α : Type}

/-- The windows between neighbouring bounds. -/
def chain (b : Nat → α) (n : Nat) : List (Window α) :=
  (List.range n).map fun i => ⟨b i, b (i + 1)⟩

theorem chain_succ (b : Nat → α) (n : Nat) :
    chain b (n + 1) = chain b n ++ [⟨b n, b (n + 1)⟩] := by
  rw [chain, List.range_succ, List.map_append]
  rfl

theorem getElem?_chain {b : Nat → α} {n i : Nat} :
    (chain b n)[i]? = if i < n then some ⟨b i, b (i + 1)⟩ else none := by
  unfold chain
  by_cases hi : i < n
  · simp [hi]
  · simp [hi]

/-- Windows that meet, the last of which ends at `stop`. -/
structure Meets (n : Nat) (stop : α) (windows : List (Window α)) : Prop where
  count : windows.length = n
  neighbours : ∀ i w w', windows[i]? = some w → windows[i + 1]? = some w' → w.stop = w'.start
  last : windows.getLast?.map (·.stop) = some stop

theorem meets_chain (b : Nat → α) {n : Nat} (hn : n ≠ 0) : Meets n (b n) (chain b n) where
  count := by simp [chain]
  neighbours i w w' hw hw' := by
    rw [getElem?_chain, Option.ite_none_right_eq_some] at hw hw'
    rw [← Option.some.inj hw.2, ← Option.some.inj hw'.2]
  last := by
    obtain ⟨m, rfl⟩ := Nat.exists_eq_succ_of_ne_zero hn
    rw [chain_succ, List.getLast?_concat]
    rfl

/-- **Every instant is in one window.** Between bounds that do not go down, an instant
from the first on and before the last lies in one window, and any other in none. -/
theorem countP_chain [LinearOrder α] {b : Nat → α} (hb : Monotone b) (n : Nat) (t : α) :
    (chain b n).countP (·.contains t) = if b 0 ≤ t ∧ t < b n then 1 else 0 := by
  induction n with
  | zero =>
      have hempty : ¬(b 0 ≤ t ∧ t < b 0) := fun h => absurd h.2 (not_lt.mpr h.1)
      rw [if_neg hempty]
      rfl
  | succ n ih =>
      have hlow : b 0 ≤ b n := hb (Nat.zero_le n)
      have hhigh : b n ≤ b (n + 1) := hb (Nat.le_succ n)
      rw [chain_succ, List.countP_append, ih, List.countP_singleton]
      -- the instant is before the new window, in it or behind it
      rcases lt_or_ge t (b n) with hbefore | hfrom
      · have hnot : ¬b n ≤ t := not_le.mpr hbefore
        simp [Window.contains, hbefore, hnot, hbefore.trans_le hhigh]
      · have hnot : ¬t < b n := not_lt.mpr hfrom
        simp [Window.contains, hfrom, hnot, hlow.trans hfrom]

end Chain

/-! ## The windows of a reel -/

theorem windows_eq_chain {α : Type} [NatCast α] [Mul α] [Div α] (duration : α) (n : Nat) :
    windows duration n = chain (bound duration n) n := rfl

section Exact

variable {length : ℚ} {n : Nat}

/-- In exact arithmetic the last bound is like the others. -/
theorem bound_eq (hn : n ≠ 0) (length : ℚ) (i : Nat) : bound length n i = i * length / n := by
  have hcast : (n : ℚ) ≠ 0 := Nat.cast_ne_zero.mpr hn
  unfold bound
  split
  next hi =>
    rw [hi]
    field_simp
  next => rfl

theorem bound_strictMono (hn : n ≠ 0) (hlength : 0 < length) :
    StrictMono (bound length n) := by
  have hcast : (0 : ℚ) < n := Nat.cast_pos.mpr (Nat.pos_of_ne_zero hn)
  intro i j hij
  rw [bound_eq hn, bound_eq hn]
  gcongr

/-- Windows that divide the time from zero up to, and without, `length` into `n` equal
parts. -/
structure Divides (n : Nat) (length : ℚ) (windows : List (Window ℚ)) : Prop where
  meets : Meets n length windows
  first : windows.head?.map (·.start) = some 0
  window : ∀ i < n, windows[i]? = some ⟨i * length / n, (i + 1) * length / n⟩
  nonempty : ∀ w ∈ windows, w.start < w.stop
  once : ∀ t, windows.countP (·.contains t) = if 0 ≤ t ∧ t < length then 1 else 0

/-- **The windows of a length.** -/
theorem divides_windows (hn : n ≠ 0) (hlength : 0 < length) :
    Divides n length (windows length n) := by
  have hzero : bound length n 0 = 0 := by simp [bound_eq hn]
  have hlast : bound length n n = length := if_pos rfl
  have hmono := bound_strictMono hn hlength
  rw [windows_eq_chain]
  constructor
  · have hmeets := meets_chain (bound length n) hn
    rwa [hlast] at hmeets
  · rw [List.head?_eq_getElem?, getElem?_chain, if_pos (Nat.pos_of_ne_zero hn)]
    exact congrArg some hzero
  · intro i hi
    rw [getElem?_chain, if_pos hi, bound_eq hn, bound_eq hn, Nat.cast_succ]
  · intro w hw
    obtain ⟨i, -, rfl⟩ := List.mem_map.mp hw
    exact hmono (Nat.lt_succ_self i)
  · intro t
    rw [countP_chain hmono.monotone, hzero, hlast]

end Exact

/-- A timeline is turned down for want of clips or of a length. -/
theorem plan_eq_error_iff (duration : Float) (n : Nat) :
    (∃ fault, plan duration n = .error fault) ↔ n = 0 ∨ isPositive duration = false := by
  unfold plan
  by_cases hn : n = 0
  · simp [hn]
  · by_cases hduration : isPositive duration = true
    · simp [hn, hduration]
    · simp [hn, hduration]

/-- **The windows divide the reel.** There are windows unless there is no clip, or the
duration is not a number, infinite, zero or negative. There is one for each clip,
neighbours share their bound bit for bit, and the last ends with the reel. Reckoned with
exact numbers, as from the exact duration, they divide the time of the reel. -/
theorem plan_partitions (duration : Float) (n : Nat) :
    ((∃ fault, plan duration n = .error fault) ↔
      n = 0 ∨ duration.isNaN = true ∨ duration.isInf = true ∨ duration ≤ 0.0) ∧
    (∀ planned, plan duration n = .ok planned →
      Meets n duration planned ∧
        ∃ length, (Number.Value.ofFloat duration).rational? = some length ∧
          Divides n length (windows length n)) ∧
    ∀ length : ℚ, n ≠ 0 → 0 < length → Divides n length (windows length n) := by
  refine ⟨?_, ?_, fun length hn hlength => divides_windows hn hlength⟩
  · rw [plan_eq_error_iff, isPositive_eq_false_iff]
  · intro planned hplan
    obtain ⟨hn, hduration, rfl⟩ := plan_eq_ok_iff.mp hplan
    obtain ⟨length, hexact, hlength⟩ := rational?_of_isPositive hduration
    have hmeets := meets_chain (bound duration n) hn
    rw [show bound duration n n = duration from if_pos rfl] at hmeets
    exact ⟨hmeets, length, hexact, divides_windows hn hlength⟩

theorem plan_partitions_sevenths :
    plan 29.97 7 = .ok (windows 29.97 7) ∧ Meets 7 29.97 (windows 29.97 7) ∧
      Divides 7 (2997 / 100) (windows (2997 / 100 : ℚ) 7) := by
  have hplan : plan 29.97 7 = .ok (windows 29.97 7) :=
    plan_eq_ok_iff.mpr ⟨by decide, by decide +kernel, rfl⟩
  have hpartitions := plan_partitions 29.97 7
  exact ⟨hplan, (hpartitions.2.1 _ hplan).1, hpartitions.2.2 _ (by decide) (by norm_num)⟩

/-- Half of the least double is rounded to zero, so the first window is empty. -/
example : (window (5e-324 : Float) 2 0).contains 0.0 = false := by decide +kernel

end Timeline

end VideoGreeting
