import VideoGreeting.Proofs.Number.Digits
import VideoGreeting.Proofs.Text.Pieces
import VideoGreeting.Timeline

/-!
# The characters of numerals

Whatever number is written into a graph, finite or not and with or without
decimals, its text is made of letters, digits, points and minus signs.
-/

namespace VideoGreeting.Number

/-- The characters that numerals are made of. -/
def isNumeral (c : Char) : Bool := c.isAlphanum || c == '.' || c == '-'

/-! ## Whole numbers -/

theorem isNumeral_of_isDigit {c : Char} (h : c.isDigit = true) : isNumeral c = true := by
  simp [isNumeral, Char.isAlphanum, h]

theorem isNumeral_of_mem_toDigits {n : Nat} {c : Char} (h : c ∈ Nat.toDigits 10 n) :
    isNumeral c = true :=
  isNumeral_of_isDigit (Nat.isDigit_of_mem_toDigits (by decide) (by decide) h)

theorem isNumeral_of_mem_nat {n : Nat} {c : Char} (h : c ∈ (toString n).toList) :
    isNumeral c = true := by
  rw [Nat.toString_eq_repr, Nat.toList_repr] at h
  exact isNumeral_of_mem_toDigits h

theorem isNumeral_of_mem_int {n : Int} {c : Char} (h : c ∈ (toString n).toList) :
    isNumeral c = true := by
  rw [Int.toString_eq_repr, Int.repr_eq_if] at h
  split at h
  next => exact isNumeral_of_mem_nat h
  next =>
    rw [String.toList_append, List.mem_append] at h
    rcases h with hminus | hdigit
    · simp at hminus
      rw [hminus]
      decide
    · exact isNumeral_of_mem_nat hdigit

/-! ## Decimals -/

theorem isNumeral_of_mem_padded {width n : Nat} {c : Char} (h : c ∈ padded width n) :
    isNumeral c = true := by
  rcases List.mem_append.mp h with hzero | hdigit
  · rw [List.eq_of_mem_replicate hzero]
    decide
  · exact isNumeral_of_mem_toDigits hdigit

theorem isNumeral_of_mem_positional {places n : Nat} {c : Char}
    (h : c ∈ positional places n) : isNumeral c = true := by
  unfold positional at h
  dsimp only at h
  split at h
  next => exact isNumeral_of_mem_padded (List.mem_of_mem_take h)
  next =>
    rcases List.mem_append.mp h with hwhole | hrest
    · exact isNumeral_of_mem_padded (List.mem_of_mem_take hwhole)
    · rcases List.mem_cons.mp hrest with rfl | hplaces
      · decide
      · exact isNumeral_of_mem_padded (List.mem_of_mem_drop hplaces)

theorem isNumeral_of_mem_signed {negative : Bool} {digits : List Char} {c : Char}
    (hdigits : c ∈ digits → isNumeral c = true) (h : c ∈ signed negative digits) :
    isNumeral c = true := by
  unfold signed at h
  split at h
  next =>
    rcases List.mem_cons.mp h with rfl | hdigit
    · decide
    · exact hdigits hdigit
  next => exact hdigits h

theorem isNumeral_of_mem_fixed {places : Nat} {v : Value} {c : Char}
    (h : c ∈ fixed places v) : isNumeral c = true := by
  cases v with
  | nan => exact List.all_eq_true.mp (show "NaN".toList.all isNumeral from by decide) c h
  | infinite negative =>
      refine isNumeral_of_mem_signed (fun hword => ?_) h
      exact List.all_eq_true.mp (show "inf".toList.all isNumeral from by decide) c hword
  | finite negative m e =>
      exact isNumeral_of_mem_signed isNumeral_of_mem_positional h

/-! ## Seconds -/

theorem mem_of_mem_trimDecimals {cs : List Char} {c : Char} (h : c ∈ trimDecimals cs) :
    c ∈ cs := by
  have hdrop := List.mem_reverse.mp h
  have hpoint := (List.dropWhile_sublist _).subset hdrop
  exact List.mem_reverse.mp ((List.dropWhile_sublist _).subset hpoint)

/-- **Seconds are numerals**, whatever the double. -/
theorem isNumeral_of_mem_secondsText {x : Float} {c : Char}
    (h : c ∈ (secondsText x).toList) : isNumeral c = true := by
  rw [secondsText, String.toList_ofList, seconds] at h
  split at h
  next => exact isNumeral_of_mem_int h
  next => exact isNumeral_of_mem_fixed (mem_of_mem_trimDecimals h)

end VideoGreeting.Number
