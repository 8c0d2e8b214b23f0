import VideoGreeting.Proofs.FilterGraph.Labels
import VideoGreeting.Proofs.Number.Decimals

/-!
# Labels read back

The labels of a reel are put together from words, numbers and names of stages, and the
name of a stage may be any text. Still no two things have one label, because what a
label stands for can be read off it: a digit at its start tells the inputs of the
engine, and the digits behind `image-` end where the label ends or at the dash before a
stage. Main theorem: `labels_apart`.
-/

namespace VideoGreeting.FilterGraph

/-! ## What labels stand for -/

/-- What the labels of a reel stand for. -/
inductive Meaning where
  | background
  | image (clip : Nat)
  | imageStage (clip : Nat) (stage : String)
  | inputVideo (n : Nat)
  | inputAudio (n : Nat)
  deriving Repr, DecidableEq

/-- The label of a thing. -/
def Meaning.label : Meaning → Label
  | background => .background
  | image clip => .image clip
  | imageStage clip stage => .imageStage clip stage
  | inputVideo n => .inputVideo n
  | inputAudio n => .inputAudio n

/-- Whether a thing is a stream of an engine input. -/
def Meaning.isInput : Meaning → Bool
  | inputVideo _ | inputAudio _ => true
  | _ => false

/-! ## Numbers at the start -/

/-- The number at the start of a text, and what follows its digits. -/
def leadingNumber? (cs : List Char) : Option (Nat × List Char) :=
  (Number.digits? (cs.takeWhile Number.isDigit)).map (·, cs.dropWhile Number.isDigit)

/-- The digits of a number end where something else follows. -/
theorem leadingNumber?_toDigits (n : Nat) (rest : List Char)
    (h : ∀ c ∈ rest.head?, Number.isDigit c = false) :
    leadingNumber? (Nat.toDigits 10 n ++ rest) = some (n, rest) := by
  have hdigits : ∀ c ∈ Nat.toDigits 10 n, Number.isDigit c = true :=
    fun c hc => Number.isDigit_of_mem_toDigits hc
  have hrest : rest.takeWhile Number.isDigit = [] ∧ rest.dropWhile Number.isDigit = rest := by
    cases rest with
    | nil => exact ⟨rfl, rfl⟩
    | cons c cs =>
        have hc : Number.isDigit c = false := h c rfl
        simp [hc]
  rw [leadingNumber?, List.takeWhile_append_of_pos hdigits, List.dropWhile_append_of_pos hdigits,
    hrest.1, hrest.2, List.append_nil, Number.digits?_toDigits]
  rfl

theorem leadingNumber?_cons_eq_none {c : Char} (h : Number.isDigit c = false)
    (cs : List Char) : leadingNumber? (c :: cs) = none := by
  simp [leadingNumber?, h, Number.digits?]

/-! ## Reading labels -/

/-- What is named by the characters behind `image-`: a clip, or a stage of its image. -/
def Meaning.ofImage? (cs : List Char) : Option Meaning :=
  match leadingNumber? cs with
  | some (clip, []) => some (.image clip)
  | some (clip, '-' :: stage) => some (.imageStage clip (String.ofList stage))
  | _ => none

/-- What is named by a word: the composite, or what belongs to a clip. -/
def Meaning.ofWord? : List Char → Option Meaning
  | 'i' :: 'm' :: 'a' :: 'g' :: 'e' :: '-' :: rest => ofImage? rest
  | word => if word = "background".toList then some .background else none

/-- What is named by a number and what follows it. -/
def Meaning.ofInput? (n : Nat) : List Char → Option Meaning
  | [':', 'v'] => some (.inputVideo n)
  | [':', 'a'] => some (.inputAudio n)
  | _ => none

/-- What a label stands for, read off its name. -/
def Meaning.ofName? (name : List Char) : Option Meaning :=
  match leadingNumber? name with
  | some (n, rest) => ofInput? n rest
  | none => ofWord? name

theorem Meaning.ofName?_image (rest : List Char) :
    ofName? ("image-".toList ++ rest) = ofImage? rest := by
  have hnone : leadingNumber? ("image-".toList ++ rest) = none :=
    leadingNumber?_cons_eq_none (by decide) _
  rw [ofName?, hnone]
  rfl

theorem Meaning.ofName?_input (n : Nat) {kind : List Char}
    (h : ∀ c ∈ kind.head?, Number.isDigit c = false) :
    ofName? (Nat.toDigits 10 n ++ kind) = ofInput? n kind := by
  rw [ofName?, leadingNumber?_toDigits n kind h]

/-- **Labels read back.** -/
theorem Meaning.ofName?_label (m : Meaning) : ofName? m.label.name.toList = some m := by
  cases m with
  | background => decide
  | image clip =>
      have hclip := leadingNumber?_toDigits clip [] (by simp)
      rw [List.append_nil] at hclip
      rw [label, Label.toList_image, ofName?_image, ofImage?, hclip]
  | imageStage clip stage =>
      have hclip := leadingNumber?_toDigits clip ('-' :: stage.toList) (by simp; decide)
      rw [label, Label.toList_imageStage, List.append_assoc, ofName?_image, ofImage?, hclip]
      simp
  | inputVideo n =>
      rw [label, Label.toList_inputVideo, ofName?_input n (by simp; decide), ofInput?]
  | inputAudio n =>
      rw [label, Label.toList_inputAudio, ofName?_input n (by simp; decide), ofInput?]

/-! ## Pads -/

/-- The name of a pad: digits, at least one, a colon, and `v` or `a`. -/
def IsPadName (name : List Char) : Prop :=
  ∃ digits kind, digits ≠ [] ∧ (∀ c ∈ digits, '0' ≤ c ∧ c ≤ '9') ∧ (kind = 'v' ∨ kind = 'a') ∧
    name = digits ++ [':', kind]

theorem Label.isPad_iff {l : Label} : l.isPad = true ↔ IsPadName l.name.toList := by
  have hall : ∀ digits : List Char, digits.all Number.isDigit = true ↔
      ∀ c ∈ digits, '0' ≤ c ∧ c ≤ '9' := by
    simp [Number.isDigit]
  unfold isPad
  constructor
  · intro h
    rcases hsplit : Text.splitOnce ':' l.name.toList with _ | ⟨digits, kind⟩
    · rw [hsplit] at h
      cases h
    · simp only [hsplit, Bool.and_eq_true, Bool.or_eq_true, beq_iff_eq, hall] at h
      obtain ⟨⟨hne, hdigits⟩, hkind⟩ := h
      have hname := Text.splitOnce_eq_some hsplit
      have hne : digits ≠ [] := by simpa using hne
      rcases hkind with rfl | rfl
      · exact ⟨digits, 'v', hne, hdigits, .inl rfl, hname⟩
      · exact ⟨digits, 'a', hne, hdigits, .inr rfl, hname⟩
  · rintro ⟨digits, kind, hne, hdigits, hkind, hname⟩
    -- the first colon is the one behind the digits
    have hcolon : ':' ∉ digits := fun hmem => absurd (hdigits ':' hmem) (by decide)
    rw [hname, Text.splitOnce_append hcolon]
    simp [hne, (hall digits).mpr hdigits, hkind]

/-- **Labels apart.** Different things have different labels, whatever the numbers are and
whatever text names a stage. A label is a pad of the engine exactly if its name is one or
more digits, a colon, and `v` or `a`; so the labels of the inputs are pads, and no
others. -/
theorem labels_apart :
    Function.Injective Meaning.label ∧
      (∀ l : Label, l.isPad = true ↔ IsPadName l.name.toList) ∧
      ∀ m : Meaning, m.label.isPad = m.isInput := by
  refine ⟨fun m m' h => ?_, fun l => Label.isPad_iff, fun m => ?_⟩
  · rw [← Option.some_inj, ← m.ofName?_label, ← m'.ofName?_label, h]
  · cases m <;> simp [Meaning.label, Meaning.isInput]

end VideoGreeting.FilterGraph
