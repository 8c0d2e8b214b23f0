import VideoGreeting.Number.Decimal

/-!
# Identifiers

Identifiers come from a source outside of the service. What the service relies on is part of the
type: none is given out twice, and each is made of letters, digits and minus signs, so it holds
neither a slash nor a point.
-/

namespace VideoGreeting.Service

/-- A source of identifiers, which are given out in the order of their numbers. -/
structure Identifiers where
  text : Nat → String
  distinct : ∀ m n, text m = text n → m = n
  plain : ∀ n, ∀ c ∈ (text n).toList, c.isAlphanum = true ∨ c = '-'

namespace Identifiers

/-- What stands before the number. -/
def numberedFront : String := "00000000-0000-4000-8000-"

/-- A number in five groups of digits. -/
def numberedText (n : Nat) : String := numberedFront ++ String.ofList (Number.padded 12 n)

theorem toList_numberedText (n : Nat) :
    (numberedText n).toList = numberedFront.toList ++ Number.padded 12 n :=
  String.toList_append.trans (congrArg _ String.toList_ofList)

/-- Leading zeros do not count. -/
theorem ofDigitChars_padded (width n : Nat) :
    Nat.ofDigitChars 10 (Number.padded width n) 0 = n := by
  have hzeros (k : Nat) : Nat.ofDigitChars 10 (List.replicate k '0') 0 = 0 := by
    induction k with
    | zero => rfl
    | succ k ih => exact ih
  have hdigits : Nat.ofDigitChars 10 (Nat.toDigits 10 n) 0 = n := Nat.ofDigitChars_ten_toDigits
  unfold Number.padded Nat.ofDigitChars at *
  dsimp only
  rw [List.foldl_append, hzeros, hdigits]

theorem numberedText_distinct (m n : Nat) (h : numberedText m = numberedText n) : m = n := by
  have hlists := congrArg String.toList h
  rw [toList_numberedText, toList_numberedText] at hlists
  have hnumbers := congrArg (Nat.ofDigitChars 10 · 0) (List.append_cancel_left hlists)
  rwa [ofDigitChars_padded, ofDigitChars_padded] at hnumbers

theorem isAlphanum_of_mem_padded {width n : Nat} {c : Char} (h : c ∈ Number.padded width n) :
    c.isAlphanum = true := by
  unfold Number.padded at h
  rcases List.mem_append.mp h with hzero | hdigit
  · rw [List.eq_of_mem_replicate hzero]
    rfl
  · have hdecimal := Nat.isDigit_of_mem_toDigits (by decide) (by decide) hdigit
    rw [Char.isAlphanum, hdecimal, Bool.or_true]

theorem numberedText_plain (n : Nat) :
    ∀ c ∈ (numberedText n).toList, c.isAlphanum = true ∨ c = '-' := by
  have hfront : numberedFront.toList.all (fun c => c.isAlphanum || c == '-') = true := by
    decide
  intro c hc
  rw [toList_numberedText, List.mem_append] at hc
  rcases hc with hfixed | hnumber
  · simpa using List.all_eq_true.mp hfront c hfixed
  · exact .inl (isAlphanum_of_mem_padded hnumber)

/-- The source that counts. -/
def numbered : Identifiers where
  text := numberedText
  distinct := numberedText_distinct
  plain := numberedText_plain

/-- No identifier holds a mark other than the minus sign. -/
theorem notMem_text (ids : Identifiers) {mark : Char} (hmark : mark.isAlphanum = false)
    (hminus : mark ≠ '-') (n : Nat) : mark ∉ (ids.text n).toList := by
  intro hmem
  rcases ids.plain n mark hmem with halnum | rfl
  · rw [hmark] at halnum
    cases halnum
  · exact hminus rfl

end Identifiers

end VideoGreeting.Service
