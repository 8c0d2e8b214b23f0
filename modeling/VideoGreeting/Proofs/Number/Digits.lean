import Mathlib
import VideoGreeting.Number.Numeral

/-!
# Digits

Decimal digits are digits, and they read back as the number.
-/

namespace VideoGreeting.Number

theorem isDigit_of_mem_toDigits {n : Nat} {c : Char}
    (h : c ∈ Nat.toDigits 10 n) : isDigit c = true := by
  have hdigit := Nat.isDigit_of_mem_toDigits (by decide) (by decide) h
  simpa [Char.isDigit, isDigit, Char.le_def] using hdigit

theorem all_isDigit_toDigits (n : Nat) :
    (Nat.toDigits 10 n).all isDigit = true :=
  List.all_eq_true.mpr fun _ hc => isDigit_of_mem_toDigits hc

/-- Digits written in decimal read back as the number. -/
theorem digits?_toDigits (n : Nat) : digits? (Nat.toDigits 10 n) = some n := by
  have hvalue : digitsValue (Nat.toDigits 10 n) = n := by
    have h := Nat.ofDigitChars_ten_toDigits (n := n)
    rw [Nat.ofDigitChars_eq_foldl] at h
    simpa only [digitsValue, Nat.mul_comm] using h
  rw [digits?, all_isDigit_toDigits, hvalue]
  simp

end VideoGreeting.Number
