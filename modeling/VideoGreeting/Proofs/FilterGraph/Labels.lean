import VideoGreeting.FilterGraph.Label
import VideoGreeting.Proofs.Number.Digits
import VideoGreeting.Proofs.Text.Pieces

/-!
# Labels apart

The labels of a graph are put together from numbers and words. Whether a label
is a pad of the engine, and which labels differ, is read off the first
character and the first colon.
-/

namespace VideoGreeting.FilterGraph.Label

/-! ## The text of labels -/

theorem toList_image (i : Nat) :
    (image i).name.toList = "image-".toList ++ Nat.toDigits 10 i := by
  simp [image]

theorem toList_imageStage (i : Nat) (stage : String) :
    (imageStage i stage).name.toList =
      "image-".toList ++ Nat.toDigits 10 i ++ '-' :: stage.toList := by
  simp [imageStage]

theorem toList_inputVideo (n : Nat) :
    (inputVideo n).name.toList = Nat.toDigits 10 n ++ [':', 'v'] := by
  simp [inputVideo]

theorem toList_inputAudio (n : Nat) :
    (inputAudio n).name.toList = Nat.toDigits 10 n ++ [':', 'a'] := by
  simp [inputAudio]

/-! ## Pads -/

/-- The index of an input ends at its colon. -/
theorem splitOnce_toDigits (n : Nat) (kind : List Char) :
    Text.splitOnce ':' (Nat.toDigits 10 n ++ ':' :: kind) =
      some (Nat.toDigits 10 n, kind) := by
  apply Text.splitOnce_append
  intro h
  exact absurd (Number.isDigit_of_mem_toDigits h) (by decide)

/-- A label that begins with something other than a digit is no pad. -/
theorem isPad_eq_false {l : Label} {c : Char} {cs : List Char}
    (hname : l.name.toList = c :: cs) (hc : Number.isDigit c = false) :
    l.isPad = false := by
  unfold isPad
  split
  next index kind hsplit =>
    have heq := Text.splitOnce_eq_some hsplit
    rw [hname] at heq
    cases index with
    | nil => rfl
    | cons d ds =>
        rw [List.cons_append, List.cons.injEq] at heq
        simp [← heq.1, hc]
  next => rfl

@[simp] theorem isPad_inputVideo (n : Nat) : (inputVideo n).isPad = true := by
  rw [isPad, toList_inputVideo, splitOnce_toDigits]
  simp [Number.all_isDigit_toDigits]

@[simp] theorem isPad_inputAudio (n : Nat) : (inputAudio n).isPad = true := by
  rw [isPad, toList_inputAudio, splitOnce_toDigits]
  simp [Number.all_isDigit_toDigits]

@[simp] theorem isPad_background : background.isPad = false :=
  isPad_eq_false (show background.name.toList = 'b' :: "ackground".toList from rfl)
    (by decide)

@[simp] theorem isPad_image (i : Nat) : (image i).isPad = false :=
  isPad_eq_false (toList_image i) (by decide)

@[simp] theorem isPad_imageStage (i : Nat) (stage : String) :
    (imageStage i stage).isPad = false :=
  isPad_eq_false (toList_imageStage i stage) (by decide)

/-! ## Different labels -/

/-- Labels that begin differently differ. -/
theorem ne_of_head?_ne {l m : Label}
    (h : l.name.toList.head? ≠ m.name.toList.head?) : l ≠ m := by
  rintro rfl
  exact h rfl

@[simp] theorem image_ne_background (i : Nat) : image i ≠ background := by
  apply ne_of_head?_ne
  rw [toList_image]
  simp [background]

@[simp] theorem imageStage_ne_background (i : Nat) (stage : String) :
    imageStage i stage ≠ background := by
  apply ne_of_head?_ne
  rw [toList_imageStage]
  simp [background]

end VideoGreeting.FilterGraph.Label
