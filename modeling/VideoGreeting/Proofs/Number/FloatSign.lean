import VideoGreeting.Proofs.Number.FloatOrder

/-!
# Doubles that are not below zero

Rounding and packing keep the sign of a number, also of one that is too great for a
double and becomes infinite. So a product of two doubles that are not below zero is not
below zero either, and neither is the word that it is cut down to.
-/

namespace VideoGreeting.Number

open Float.Model Float.Model.UnpackedFloat

/-- A number that is not below zero, or no number at all. A zero has either sign. -/
def NotNegative : UnpackedFloat → Prop
  | .infinity s | .finite s _ _ _ => s = .positive
  | .zero _ | .notANumber => True

theorem notNegative_unpack {bits : BitVec 64}
    (h : @unpackSign .binary64 bits = Sign.positive.toBitVec) :
    NotNegative (UnpackedFloat.unpack .binary64 bits) := by
  unfold UnpackedFloat.unpack
  dsimp only
  rw [h]
  split
  · split
    · rfl
    · trivial
  · split
    · split
      · trivial
      · rfl
    · rfl

/-- Packing keeps the sign. -/
theorem notNegative_pack {u : UnpackedFloat} (h : NotNegative u) :
    NotNegative (Float.Model.pack u).unpack := by
  cases u with
  | notANumber => trivial
  | zero s => cases s <;> trivial
  | infinity s =>
      obtain rfl : s = .positive := h
      exact notNegative_unpack (unpackSign_packComponents _ _ _)
  | finite s m e hm =>
      obtain rfl : s = .positive := h
      refine notNegative_unpack ?_
      show unpackSign (UnpackedFloat.pack .binary64 (.finite .positive m e hm)) = _
      unfold UnpackedFloat.pack
      dsimp only
      split
      · exact unpackSign_packComponents _ _ _
      · split
        · exact unpackSign_packComponents _ _ _
        · exact unpackSign_packComponents _ _ _

theorem notNegative_roundWithAccuracy (m : ℕ) (e : ℤ) (accuracy : Accuracy) :
    NotNegative (roundWithAccuracy .binary64 .positive m e accuracy) := by
  unfold roundWithAccuracy
  dsimp only
  split
  · trivial
  · rfl

theorem notNegative_mul {u v : UnpackedFloat} (hu : NotNegative u) (hv : NotNegative v) :
    NotNegative (UnpackedFloat.mul .binary64 u v) := by
  cases u with
  | notANumber => trivial
  | zero s => cases v <;> trivial
  | infinity s =>
      obtain rfl : s = .positive := hu
      cases v with
      | notANumber | zero => trivial
      | infinity s' | finite s' =>
          obtain rfl : s' = .positive := hv
          rfl
  | finite s m e hm =>
      obtain rfl : s = .positive := hu
      cases v with
      | notANumber | zero => trivial
      | infinity s' =>
          obtain rfl : s' = .positive := hv
          rfl
      | finite s' m' e' hm' =>
          obtain rfl : s' = .positive := hv
          exact notNegative_roundWithAccuracy _ _ _

variable {x y : Float}

theorem lt_zero_iff (x : Float) :
    x < 0.0 ↔ x.toModel.unpack.lt (UnpackedFloat.zero .positive) = true := by
  rw [← unpack_zero]
  exact decide_eq_true_iff

theorem notNegative_of_not_lt (h : ¬x < 0.0) : NotNegative x.toModel.unpack := by
  rw [lt_zero_iff] at h
  generalize x.toModel.unpack = u at h ⊢
  cases u with
  | notANumber | zero s => trivial
  | infinity s => cases s with
    | positive => rfl
    | negative => exact absurd rfl h
  | finite s m e hm => cases s with
    | positive => rfl
    | negative => exact absurd rfl h

theorem not_lt_zero_of_zero_lt (h : 0.0 < x) : ¬x < 0.0 := by
  rw [zero_lt_iff] at h
  rw [lt_zero_iff]
  generalize x.toModel.unpack = u at h
  cases u with
  | notANumber | zero s => cases h
  | infinity s => cases s with
    | positive => exact nofun
    | negative => cases h
  | finite s m e hm => cases s with
    | positive => exact nofun
    | negative => cases h

/-- **Products** of doubles that are not below zero. -/
theorem NotNegative.mul (hx : NotNegative x.toModel.unpack) (hy : NotNegative y.toModel.unpack) :
    NotNegative (x * y).toModel.unpack :=
  notNegative_pack (notNegative_mul hx hy)

/-- The word next to a double that is not below zero. -/
theorem toInt64With_nonneg (h : NotNegative x.toModel.unpack) :
    0 ≤ (Value.ofFloat x).toInt64With Value.roundAway := by
  unfold Value.ofFloat
  generalize x.toModel.unpack = u at h ⊢
  cases u with
  | notANumber => decide
  | zero s => cases s <;> decide
  | infinity s =>
      obtain rfl : s = .positive := h
      decide
  | finite s m e hm =>
      obtain rfl : s = .positive := h
      show 0 ≤ clampInt64 (((2 * Value.num m e + Value.den e) / (2 * Value.den e) : ℕ) : ℤ)
      exact le_max_of_le_right (le_min (by decide) (Int.natCast_nonneg _))

end VideoGreeting.Number
