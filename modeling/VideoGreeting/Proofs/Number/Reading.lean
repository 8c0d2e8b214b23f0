import Mathlib
import VideoGreeting.Number.Numeral

/-!
# Numbers read from text

A number is read exactly from the texts that write it. What these are is said without the
readers: a whole number is a sign and digits; a double is a sign and a decimal, digits
with a point among them and an exponent behind them, or one of three words.
-/

namespace VideoGreeting.Number

/-! ## Digits and signs -/

theorem all_isDigit_iff {cs : List Char} :
    cs.all isDigit = true ↔ ∀ c ∈ cs, '0' ≤ c ∧ c ≤ '9' := by
  simp [isDigit]

/-- Digits, at least one, that write a number. -/
structure AreDigits (digits : List Char) (n : Nat) : Prop where
  ne_nil : digits ≠ []
  decimal : ∀ c ∈ digits, '0' ≤ c ∧ c ≤ '9'
  value : Nat.ofDigitChars 10 digits 0 = n

theorem digitsValue_eq (cs : List Char) : digitsValue cs = Nat.ofDigitChars 10 cs 0 := by
  unfold digitsValue Nat.ofDigitChars
  exact congrArg (List.foldl · 0 cs) (funext₂ fun n c => by rw [Nat.mul_comm])

theorem digits?_eq_some_iff {cs : List Char} {n : Nat} : digits? cs = some n ↔ AreDigits cs n := by
  unfold digits?
  rw [digitsValue_eq]
  constructor
  · intro h
    split at h
    next => cases h
    next hcs =>
      simp only [Bool.or_eq_true, Bool.not_eq_true', not_or, List.isEmpty_iff,
        Bool.not_eq_false] at hcs
      exact ⟨hcs.1, all_isDigit_iff.mp hcs.2, Option.some.inj h⟩
  · rintro ⟨hne, hdecimal, hn⟩
    rw [if_neg, hn]
    simp [hne, all_isDigit_iff.mpr hdecimal]

/-- What stands before the digits, if anything does, is a sign. -/
theorem splitSign_cases (cs : List Char) :
    (∃ rest, cs = '+' :: rest ∧ splitSign cs = (some false, rest)) ∨
    (∃ rest, cs = '-' :: rest ∧ splitSign cs = (some true, rest)) ∨
    ((∀ rest, cs ≠ '+' :: rest ∧ cs ≠ '-' :: rest) ∧ splitSign cs = (none, cs)) := by
  fun_cases splitSign cs with
  | case1 rest => exact .inl ⟨rest, rfl, rfl⟩
  | case2 rest => exact .inr (.inl ⟨rest, rfl, rfl⟩)
  | case3 cs hplus hminus => exact .inr (.inr ⟨fun rest => ⟨hplus rest, hminus rest⟩, rfl⟩)

section Signs

variable {α : Type} {Writes : List Char → α → Prop}

/-- The text is what writes something, behind a plus sign or without one. -/
def Plus (Writes : List Char → α → Prop) (cs : List Char) (a : α) : Prop :=
  Writes cs a ∨ ∃ rest, cs = '+' :: rest ∧ Writes rest a

/-- The text is what writes something, behind a minus sign. -/
def Minus (Writes : List Char → α → Prop) (cs : List Char) (a : α) : Prop :=
  ∃ rest, cs = '-' :: rest ∧ Writes rest a

/-- A sign is split off what writes something, if that does not begin with a sign. -/
theorem splitSign_writes (hsign : ∀ sign ∈ ['+', '-'], ∀ rest a, ¬Writes (sign :: rest) a)
    (cs : List Char) (a : α) :
    (Plus Writes cs a ↔ (splitSign cs).1 ≠ some true ∧ Writes (splitSign cs).2 a) ∧
      (Minus Writes cs a ↔ (splitSign cs).1 = some true ∧ Writes (splitSign cs).2 a) := by
  unfold Plus Minus
  rcases splitSign_cases cs with ⟨rest, rfl, hsplit⟩ | ⟨rest, rfl, hsplit⟩ | ⟨hnone, hsplit⟩
  · have hbare := hsign '+' (by simp) rest a
    rw [hsplit]
    simp [hbare]
  · have hbare := hsign '-' (by simp) rest a
    rw [hsplit]
    simp [hbare]
  · have hplus (rest : List Char) : ¬cs = '+' :: rest := (hnone rest).1
    have hminus (rest : List Char) : ¬cs = '-' :: rest := (hnone rest).2
    rw [hsplit]
    simp [hplus, hminus]

end Signs

/-! ## Whole numbers -/

theorem AreDigits.not_sign {sign : Char} (hsign : sign ∈ ['+', '-']) (rest : List Char) (n : Nat) :
    ¬AreDigits (sign :: rest) n := by
  intro h
  have hdigit := h.decimal sign List.mem_cons_self
  revert hdigit
  rcases List.mem_pair.mp hsign with rfl | rfl
  · decide
  · decide

/-- The text is a number, before which a plus sign may stand. -/
def WritesNat (text : String) (n : Nat) : Prop := Plus AreDigits text.toList n

/-- The text is a number, before which either sign may stand. -/
def WritesInt (cs : List Char) (z : Int) : Prop :=
  ∃ n : Nat, (Plus AreDigits cs n ∧ z = n) ∨ (Minus AreDigits cs n ∧ z = -n)

theorem readNat?_eq_some_iff {bound n : Nat} {text : String} :
    readNat? bound text = some n ↔ WritesNat text n ∧ n ≤ bound := by
  rw [WritesNat, (splitSign_writes (fun _ => AreDigits.not_sign) _ n).1]
  unfold readNat?
  split
  next rest hsplit => simp [hsplit]
  next sign rest hsign hsplit =>
    rw [hsplit, and_iff_right (show (sign, rest).1 ≠ some true from hsign),
      Option.filter_eq_some_iff, digits?_eq_some_iff, decide_eq_true_iff]

/-- The number behind a sign, with the sign. -/
theorem signed_eq_some_iff {cs : List Char} {z : Int} :
    (digits? (splitSign cs).2).map
        (fun n : Nat => if (splitSign cs).1 = some true then -(n : Int) else n) = some z ↔
      WritesInt cs z := by
  rw [Option.map_eq_some_iff]
  refine exists_congr fun n => ?_
  obtain ⟨hplus, hminus⟩ := splitSign_writes (fun _ => AreDigits.not_sign) cs n
  rw [hplus, hminus, digits?_eq_some_iff]
  by_cases hsign : (splitSign cs).1 = some true
  · simp [hsign, eq_comm]
  · simp [hsign, eq_comm]

theorem readInt64?_eq_some_iff {x : Int64} {text : String} :
    readInt64? text = some x ↔ WritesInt text.toList x.toInt := by
  rw [← signed_eq_some_iff, Option.map_eq_some_iff]
  unfold readInt64?
  rw [Option.bind_eq_some_iff]
  exact exists_congr fun n => and_congr_right fun _ => int64?_eq_some_iff.trans eq_comm

/-! ## Decimals -/

/-- Nothing, or the letter of an exponent and a number. -/
inductive WritesExponent : List Char → Int → Prop
  | absent : WritesExponent [] 0
  | power {letter : Char} {digits : List Char} {z : Int} :
      letter = 'e' ∨ letter = 'E' → WritesInt digits z → WritesExponent (letter :: digits) z

theorem lowerAscii_eq_e_iff (c : Char) : lowerAscii c = 'e' ↔ c = 'e' ∨ c = 'E' := by
  unfold lowerAscii
  split
  next hupper =>
    simp only [Bool.and_eq_true, decide_eq_true_eq] at hupper
    obtain ⟨hlow, hhigh⟩ : 65 ≤ c.toNat ∧ c.toNat ≤ 90 := hupper
    have hvalid : (c.toNat + 32).isValidChar := .inl (by omega)
    have hother : c ≠ 'e' := by
      rintro rfl
      exact absurd hhigh (by decide)
    rw [or_iff_right hother, ← Char.toNat_inj, ← Char.toNat_inj, Char.toNat_ofNat, if_pos hvalid]
    show c.toNat + 32 = 101 ↔ c.toNat = 69
    omega
  next hlower =>
    refine (or_iff_left ?_).symm
    rintro rfl
    exact hlower (by decide)

theorem exponent?_eq_some_iff {cs : List Char} {z : Int} :
    exponent? cs = some z ↔ WritesExponent cs z := by
  cases cs with
  | nil =>
      constructor
      · intro h
        obtain rfl := Option.some.inj h
        exact .absent
      · rintro ⟨⟩
        rfl
  | cons c digits =>
      rw [exponent?]
      constructor
      · intro h
        obtain ⟨hletter, hdigits⟩ := Option.ite_none_right_eq_some.mp h
        exact .power ((lowerAscii_eq_e_iff c).mp hletter) (signed_eq_some_iff.mp hdigits)
      · rintro (_ | ⟨hletter, hdigits⟩)
        rw [if_pos ((lowerAscii_eq_e_iff c).mpr hletter)]
        exact signed_eq_some_iff.mpr hdigits

/-- Digits with at most one point among them, at least one, and maybe an exponent: the double
nearest to what they write. -/
def WritesDecimal (cs : List Char) (x : Float) : Prop :=
  ∃ (whole places exponent : List Char) (mantissa : Nat) (power : Int),
    (cs = whole ++ exponent ∧ places = [] ∨ cs = whole ++ '.' :: (places ++ exponent)) ∧
    AreDigits (whole ++ places) mantissa ∧ WritesExponent exponent power ∧
    x = scientific mantissa (power - places.length)

/-- An exponent does not begin with a digit or a point. -/
theorem WritesExponent.head_ne {cs : List Char} {z : Int} (h : WritesExponent cs z) :
    ∀ c ∈ cs.head?, isDigit c = false ∧ c ≠ '.' := by
  cases h with
  | absent => exact nofun
  | power hletter _ =>
      intro c hc
      obtain rfl := Option.some.inj hc
      rcases hletter with rfl | rfl
      · decide
      · decide

theorem span_digits {digits rest : List Char} (hdigits : digits.all isDigit = true)
    (hrest : ∀ c ∈ rest.head?, isDigit c = false) :
    (digits ++ rest).takeWhile isDigit = digits ∧ (digits ++ rest).dropWhile isDigit = rest := by
  have hall := List.all_eq_true.mp hdigits
  rw [List.takeWhile_append_of_pos hall, List.dropWhile_append_of_pos hall]
  cases rest with
  | nil => simp
  | cons c rest => simp [hrest c rfl]

/-- What is read of digits on both sides of the point and of what stands behind them. -/
theorem scientific_eq_some_iff {whole places rest : List Char} {x : Float}
    (hwhole : whole.all isDigit = true) (hplaces : places.all isDigit = true) :
    (if (whole.isEmpty && places.isEmpty) = true then none
      else (exponent? rest).map fun power =>
        scientific (digitsValue (whole ++ places)) (power - places.length)) = some x ↔
    ∃ mantissa power, AreDigits (whole ++ places) mantissa ∧ WritesExponent rest power ∧
      x = scientific mantissa (power - places.length) := by
  have hdecimal : ∀ c ∈ whole ++ places, '0' ≤ c ∧ c ≤ '9' :=
    all_isDigit_iff.mp (by rw [List.all_append, hwhole, hplaces]; rfl)
  constructor
  · intro h
    split at h
    next => cases h
    next hne =>
      obtain ⟨power, hpower, rfl⟩ := Option.map_eq_some_iff.mp h
      refine ⟨_, power, ⟨?_, hdecimal, rfl⟩, exponent?_eq_some_iff.mp hpower, ?_⟩
      · simpa [← List.append_eq_nil_iff] using hne
      · rw [digitsValue_eq]
  · rintro ⟨mantissa, power, ⟨hne, -, hvalue⟩, hpower, rfl⟩
    rw [if_neg, exponent?_eq_some_iff.mpr hpower, digitsValue_eq, hvalue]
    · rfl
    · simpa [← List.append_eq_nil_iff] using hne

theorem decimal?_eq_some_iff {cs : List Char} {x : Float} :
    decimal? cs = some x ↔ WritesDecimal cs x := by
  unfold decimal?
  constructor
  · intro h
    have hspan := List.takeWhile_append_dropWhile (p := isDigit) (l := cs)
    have hwhole := List.all_takeWhile (p := isDigit) (l := cs)
    generalize cs.takeWhile isDigit = whole at h hspan hwhole
    generalize cs.dropWhile isDigit = behind at h hspan
    split at h
    next places rest hbehind =>
      split at hbehind
      next after =>
        obtain ⟨rfl, rfl⟩ := Prod.mk.inj hbehind
        obtain ⟨mantissa, power, hdigits, hpower, hx⟩ :=
          (scientific_eq_some_iff hwhole List.all_takeWhile).mp h
        refine ⟨whole, _, _, mantissa, power, .inr ?_, hdigits, hpower, hx⟩
        rw [List.takeWhile_append_dropWhile, hspan]
      next =>
        obtain ⟨rfl, rfl⟩ := Prod.mk.inj hbehind
        obtain ⟨mantissa, power, hdigits, hpower, hx⟩ :=
          (scientific_eq_some_iff hwhole rfl).mp h
        exact ⟨whole, _, _, mantissa, power, .inl ⟨hspan.symm, rfl⟩, hdigits, hpower, hx⟩
  · rintro ⟨whole, places, exponent, mantissa, power, hcs, hdigits, hexponent, rfl⟩
    obtain ⟨hwhole, hplaces⟩ : whole.all isDigit = true ∧ places.all isDigit = true := by
      simpa using all_isDigit_iff.mpr hdigits.decimal
    have hhead := hexponent.head_ne
    have hread := (scientific_eq_some_iff hwhole hplaces).mpr
      ⟨mantissa, power, hdigits, hexponent, rfl⟩
    rcases hcs with ⟨rfl, rfl⟩ | rfl
    · obtain ⟨htake, hdrop⟩ := span_digits hwhole fun c hc => (hhead c hc).1
      rw [htake, hdrop]
      split
      next places rest hbehind =>
        split at hbehind
        next after => exact absurd rfl (hhead '.' rfl).2
        next =>
          obtain ⟨rfl, rfl⟩ := Prod.mk.inj hbehind
          exact hread
    · have hpoint : ∀ c ∈ ('.' :: (places ++ exponent)).head?, isDigit c = false := by
        intro c hc
        obtain rfl := Option.some.inj hc
        decide
      obtain ⟨htake, hdrop⟩ := span_digits hwhole hpoint
      obtain ⟨htake', hdrop'⟩ := span_digits hplaces fun c hc => (hhead c hc).1
      simp only [htake, hdrop, htake', hdrop']
      exact hread

/-- A decimal begins with a digit or the point. -/
theorem WritesDecimal.head {cs : List Char} {x : Float} (h : WritesDecimal cs x) :
    ∃ c rest, cs = c :: rest ∧ (('0' ≤ c ∧ c ≤ '9') ∨ c = '.') := by
  obtain ⟨whole, places, exponent, mantissa, power, hcs, hdigits, -, -⟩ := h
  cases whole with
  | cons c whole =>
      have hc := hdigits.decimal c List.mem_cons_self
      rcases hcs with ⟨rfl, -⟩ | rfl
      · exact ⟨c, _, rfl, .inl hc⟩
      · exact ⟨c, _, rfl, .inl hc⟩
  | nil =>
      rcases hcs with ⟨-, rfl⟩ | rfl
      · exact absurd rfl hdigits.ne_nil
      · exact ⟨'.', _, rfl, .inr rfl⟩

/-! ## Doubles -/

/-- What writes a double, a sign apart. -/
inductive WritesMagnitude (cs : List Char) : Float → Prop
  | nan : cs.map lowerAscii = "nan".toList → WritesMagnitude cs (0.0 / 0.0)
  | infinite : cs.map lowerAscii = "inf".toList ∨ cs.map lowerAscii = "infinity".toList →
      WritesMagnitude cs (1.0 / 0.0)
  | decimal {x : Float} : WritesDecimal cs x → WritesMagnitude cs x

/-- The text is a double, before which either sign may stand. -/
def WritesDouble (text : String) (x : Float) : Prop :=
  ∃ y, (Plus WritesMagnitude text.toList y ∧ x = y) ∨ (Minus WritesMagnitude text.toList y ∧ x = -y)

theorem WritesMagnitude.not_sign {sign : Char} (hsign : sign ∈ ['+', '-']) (rest : List Char)
    (x : Float) : ¬WritesMagnitude (sign :: rest) x := by
  intro h
  rcases List.mem_pair.mp hsign with rfl | rfl
  all_goals
    cases h with
    | nan hword => exact absurd (List.cons.inj hword).1 (by decide)
    | infinite hword =>
        rcases hword with hword | hword
        · exact absurd (List.cons.inj hword).1 (by decide)
        · exact absurd (List.cons.inj hword).1 (by decide)
    | decimal hdecimal =>
        obtain ⟨c, _, hcs, hc⟩ := hdecimal.head
        obtain rfl := (List.cons.inj hcs).1
        exact absurd hc (by decide)

/-- No word begins like a decimal. -/
theorem WritesDecimal.map_lowerAscii_ne {cs : List Char} {x : Float} (h : WritesDecimal cs x)
    {letter : Char} (hletter : 'A' ≤ letter) (word : List Char) :
    cs.map lowerAscii ≠ letter :: word := by
  obtain ⟨c, rest, rfl, hc⟩ := h.head
  have hlow : c < 'A' := by
    rcases hc with ⟨-, hnine⟩ | rfl
    · exact lt_of_le_of_lt hnine (by decide)
    · decide
  have hsame : lowerAscii c = c := by
    rw [lowerAscii, if_neg]
    simp [hlow]
  intro hword
  have hhead : c = letter := by rw [← hsame, (List.cons.inj hword).1]
  exact absurd hletter (not_le.mpr (hhead ▸ hlow))

theorem magnitude_eq_some_iff {cs : List Char} {x : Float} :
    (if cs.map lowerAscii = "nan".toList then some (0.0 / 0.0)
      else if cs.map lowerAscii = "inf".toList ∨ cs.map lowerAscii = "infinity".toList then
        some (1.0 / 0.0)
      else decimal? cs) = some x ↔ WritesMagnitude cs x := by
  constructor
  · intro h
    split_ifs at h with hnan hinf
    · obtain rfl := Option.some.inj h
      exact .nan hnan
    · obtain rfl := Option.some.inj h
      exact .infinite hinf
    · exact .decimal (decimal?_eq_some_iff.mp h)
  · intro h
    cases h with
    | nan hword => rw [if_pos hword]
    | infinite hword =>
        rw [if_neg, if_pos hword]
        rcases hword with hword | hword
        · rw [hword]
          decide
        · rw [hword]
          decide
    | decimal hdecimal =>
        rw [if_neg, if_neg]
        · exact decimal?_eq_some_iff.mpr hdecimal
        · rintro (hword | hword)
          · exact hdecimal.map_lowerAscii_ne (by decide) _ hword
          · exact hdecimal.map_lowerAscii_ne (by decide) _ hword
        · exact fun hword => hdecimal.map_lowerAscii_ne (by decide) _ hword

theorem readFloat?_eq_some_iff {text : String} {x : Float} :
    readFloat? text = some x ↔ WritesDouble text x := by
  unfold readFloat? WritesDouble
  rw [Option.map_eq_some_iff]
  refine exists_congr fun y => ?_
  obtain ⟨hplus, hminus⟩ :=
    splitSign_writes (fun _ => WritesMagnitude.not_sign) text.toList y
  rw [hplus, hminus, magnitude_eq_some_iff]
  by_cases hsign : (splitSign text.toList).1 = some true
  · simp [hsign, eq_comm]
  · simp [hsign, eq_comm]

end VideoGreeting.Number
