import VideoGreeting.Proofs.Number.Digits
import VideoGreeting.Proofs.Text.Pieces
import VideoGreeting.Timeline

/-!
# Decimals read back

A reader of decimals, and what it makes of the texts that are written in positional
notation: the zeros that are dropped at the end, and the point if nothing is left behind
it, do not change the number.

Main theorem: `readDecimal?_positional`.
-/

namespace VideoGreeting.Number

/-- The number that a decimal writes: digits, or digits on both sides of a point. -/
def readDecimal? (cs : List Char) : Option ℚ :=
  match Text.splitOnce '.' cs with
  | none => (digits? cs).map fun (n : ℕ) => (n : ℚ)
  | some (whole, part) => do
    let n ← digits? whole
    let k ← digits? part
    some (n + k / 10 ^ part.length)

/-! ## Digits -/

theorem digitsValue_concat (cs : List Char) (c : Char) :
    digitsValue (cs ++ [c]) = digitsValue cs * 10 + (c.toNat - '0'.toNat) := by
  simp [digitsValue]

theorem digitsValue_append (cs cs' : List Char) :
    digitsValue (cs ++ cs') = digitsValue cs * 10 ^ cs'.length + digitsValue cs' := by
  induction cs' using List.reverseRecOn with
  | nil => simp [digitsValue]
  | append_singleton cs' c ih =>
      rw [← List.append_assoc, digitsValue_concat, ih, digitsValue_concat, List.length_append,
        List.length_singleton, pow_succ]
      ring

theorem digitsValue_zeros (k : ℕ) : digitsValue (List.replicate k '0') = 0 := by
  induction k with
  | zero => rfl
  | succ k ih => rw [List.replicate_succ', digitsValue_concat, ih]; rfl

theorem digits?_eq_some {cs : List Char} (hne : cs ≠ []) (h : ∀ c ∈ cs, isDigit c = true) :
    digits? cs = some (digitsValue cs) := by
  simp [digits?, hne, List.all_eq_true.mpr h]

theorem point_notMem {cs : List Char} (h : ∀ c ∈ cs, isDigit c = true) : '.' ∉ cs := fun hmem =>
  absurd (h _ hmem) (by decide)

/-! ## Reading -/

theorem readDecimal?_digits {cs : List Char} (hne : cs ≠ []) (h : ∀ c ∈ cs, isDigit c = true) :
    readDecimal? cs = some (digitsValue cs : ℚ) := by
  have hsplit : Text.splitOnce '.' cs = none := by
    rcases hcase : Text.splitOnce '.' cs with _ | ⟨before, after⟩
    · rfl
    · refine absurd ?_ (point_notMem h)
      rw [Text.splitOnce_eq_some hcase]
      simp
  rw [readDecimal?, hsplit, digits?_eq_some hne h]
  rfl

/-- Behind a point stand tenths, hundredths and so on. -/
theorem readDecimal?_point {whole part : List Char} (hwhole : whole ≠ []) (hpart : part ≠ [])
    (h : ∀ c ∈ whole ++ part, isDigit c = true) :
    readDecimal? (whole ++ '.' :: part) =
      some ((digitsValue (whole ++ part) : ℚ) / 10 ^ part.length) := by
  obtain ⟨hw, hp⟩ := List.forall_mem_append.mp h
  rw [readDecimal?, Text.splitOnce_append (point_notMem hw), digitsValue_append]
  dsimp only
  rw [digits?_eq_some hwhole hw, digits?_eq_some hpart hp]
  refine congrArg some ?_
  push_cast
  field_simp

/-! ## What is dropped at the end -/

theorem trimDecimals_eq (cs : List Char) :
    trimDecimals cs = (cs.rdropWhile (· == '0')).rdropWhile (· == '.') := by
  simp [trimDecimals, List.rdropWhile]

/-- Every text ends in some zeros, before which there is none. -/
theorem exists_zeros (cs : List Char) :
    ∃ front k, cs = front ++ List.replicate k '0' ∧ front.getLast? ≠ some '0' := by
  induction cs using List.reverseRecOn with
  | nil => exact ⟨[], 0, rfl, by simp⟩
  | append_singleton cs c ih =>
      by_cases hc : c = '0'
      · obtain ⟨front, k, rfl, hfront⟩ := ih
        refine ⟨front, k + 1, ?_, hfront⟩
        rw [hc, List.replicate_succ', List.append_assoc]
      · exact ⟨cs ++ [c], 0, by simp, by simpa using hc⟩

theorem trimDecimals_zeros (cs : List Char) (k : ℕ) :
    trimDecimals (cs ++ List.replicate k '0') = trimDecimals cs := by
  induction k with
  | zero => simp
  | succ k ih =>
      rw [← ih, trimDecimals_eq, trimDecimals_eq, List.replicate_succ', ← List.append_assoc,
        List.rdropWhile_concat_pos _ _ _ rfl]

/-- Nothing is dropped behind a digit that is not zero. -/
theorem trimDecimals_concat {c : Char} (hc : isDigit c = true) (hzero : c ≠ '0')
    (cs : List Char) : trimDecimals (cs ++ [c]) = cs ++ [c] := by
  have hpoint : c ≠ '.' := by
    rintro rfl
    exact absurd hc (by decide)
  rw [trimDecimals_eq, List.rdropWhile_concat_neg _ _ _ (by simpa using hzero),
    List.rdropWhile_concat_neg _ _ _ (by simpa using hpoint)]

/-- The point is dropped when nothing is left behind it, and zeros before it stay. -/
theorem trimDecimals_point {whole : List Char} (h : ∀ c ∈ whole, isDigit c = true) :
    trimDecimals (whole ++ ['.']) = whole := by
  rw [trimDecimals_eq, List.rdropWhile_concat_neg _ _ _ (by decide),
    List.rdropWhile_concat_pos _ _ _ rfl, List.rdropWhile_eq_self_iff]
  intro hne hlast
  refine point_notMem h ?_
  rw [← beq_iff_eq.mp hlast]
  exact List.getLast_mem hne

/-- The zeros at the end of the places go, and the point with them if no place is left. -/
theorem trimDecimals_places {whole part : List Char} (h : ∀ c ∈ whole ++ part, isDigit c = true) :
    ∃ places k, part = places ++ List.replicate k '0' ∧ places.getLast? ≠ some '0' ∧
      trimDecimals (whole ++ '.' :: part) =
        if places = [] then whole else whole ++ '.' :: places := by
  obtain ⟨places, k, rfl, hlast⟩ := exists_zeros part
  refine ⟨places, k, rfl, hlast, ?_⟩
  rw [← List.append_assoc] at h
  obtain ⟨hdigits, -⟩ := List.forall_mem_append.mp h
  rw [← List.cons_append, ← List.append_assoc, trimDecimals_zeros]
  rcases List.eq_nil_or_concat' places with rfl | ⟨places, c, rfl⟩
  · rw [List.append_nil] at hdigits
    rw [if_pos rfl, trimDecimals_point hdigits]
  · have hc : isDigit c = true := hdigits c (by simp)
    rw [if_neg (by simp), ← List.cons_append, ← List.append_assoc,
      trimDecimals_concat hc (by simpa using hlast)]

/-- **Dropping zeros changes nothing.** A decimal without the zeros at its end is the
same number. -/
theorem readDecimal?_trimDecimals {whole part : List Char} (hwhole : whole ≠ [])
    (h : ∀ c ∈ whole ++ part, isDigit c = true) :
    readDecimal? (trimDecimals (whole ++ '.' :: part)) =
      some ((digitsValue (whole ++ part) : ℚ) / 10 ^ part.length) := by
  obtain ⟨places, k, rfl, -, htrim⟩ := trimDecimals_places h
  rw [← List.append_assoc] at h
  obtain ⟨hdigits, -⟩ := List.forall_mem_append.mp h
  -- the zeros at the end divide both sides of the fraction by a power of ten
  have hvalue : (digitsValue (whole ++ (places ++ List.replicate k '0')) : ℚ) /
      10 ^ (places ++ List.replicate k '0').length =
        (digitsValue (whole ++ places) : ℚ) / 10 ^ places.length := by
    rw [← List.append_assoc, digitsValue_append, digitsValue_zeros, List.length_append,
      List.length_replicate, pow_add]
    push_cast
    field_simp
    ring
  rw [hvalue, htrim]
  split
  next hnone =>
    subst hnone
    rw [List.append_nil] at hdigits
    rw [readDecimal?_digits hwhole hdigits]
    simp
  next hsome => rw [readDecimal?_point hwhole hsome hdigits]

/-! ## Positional notation -/

theorem digitsValue_toDigits (n : ℕ) : digitsValue (Nat.toDigits 10 n) = n := by
  have hread := digits?_toDigits n
  rw [digits?_eq_some (Nat.toDigits_ne_nil) fun _ hc => isDigit_of_mem_toDigits hc] at hread
  exact Option.some.inj hread

theorem digitsValue_padded (width n : ℕ) : digitsValue (padded width n) = n := by
  rw [padded, digitsValue_append, digitsValue_zeros, digitsValue_toDigits, zero_mul, zero_add]

theorem isDigit_of_mem_padded {width n : ℕ} {c : Char} (h : c ∈ padded width n) :
    isDigit c = true := by
  rcases List.mem_append.mp h with hzero | hdigit
  · rw [List.eq_of_mem_replicate hzero]
    decide
  · exact isDigit_of_mem_toDigits hdigit

theorem le_length_padded (width n : ℕ) : width ≤ (padded width n).length := by
  rw [padded, List.length_append, List.length_replicate]
  omega

/-- Positional notation with places has digits on both sides of its point. -/
theorem positional_eq {places : ℕ} (hplaces : places ≠ 0) (n : ℕ) :
    ∃ whole part, positional places n = whole ++ '.' :: part ∧ whole ≠ [] ∧
      part.length = places ∧ (∀ c ∈ whole ++ part, isDigit c = true) ∧
      digitsValue (whole ++ part) = n := by
  have hlength := le_length_padded (places + 1) n
  have hdigits : ∀ c ∈ padded (places + 1) n, isDigit c = true := fun _ => isDigit_of_mem_padded
  have hvalue := digitsValue_padded (places + 1) n
  unfold positional
  dsimp only
  rw [if_neg hplaces]
  generalize padded (places + 1) n = digits at hlength hdigits hvalue
  refine ⟨_, _, rfl, ?_, ?_, ?_, ?_⟩
  · rw [Ne, List.take_eq_nil_iff, not_or]
    exact ⟨by omega, List.ne_nil_of_length_pos (by omega)⟩
  · rw [List.length_drop, Nat.sub_sub_self (by omega)]
  · rwa [List.take_append_drop]
  · rwa [List.take_append_drop]

/-- **Decimals read back.** What is written with some places, and without the zeros at
its end, is read as it was meant. -/
theorem readDecimal?_positional {places : ℕ} (hplaces : places ≠ 0) (n : ℕ) :
    readDecimal? (trimDecimals (positional places n)) = some ((n : ℚ) / 10 ^ places) := by
  obtain ⟨whole, part, htext, hwhole, hpart, hdigits, hvalue⟩ := positional_eq hplaces n
  rw [htext, readDecimal?_trimDecimals hwhole hdigits, hvalue, hpart]

example : readDecimal? (trimDecimals (positional 3 3250)) = some (13 / 4) := by decide +kernel

/-- Whole numbers read back. -/
theorem readDecimal?_natCast (n : ℕ) :
    readDecimal? (toString (n : ℤ)).toList = some (n : ℚ) := by
  have htext : (toString (n : ℤ)).toList = Nat.toDigits 10 n := by
    simp [Int.toString_eq_repr, Int.repr_eq_if]
  rw [htext, readDecimal?_digits Nat.toDigits_ne_nil fun _ => isDigit_of_mem_toDigits,
    digitsValue_toDigits]

end VideoGreeting.Number
