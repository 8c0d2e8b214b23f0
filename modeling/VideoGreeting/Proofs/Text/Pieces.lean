import Mathlib
import VideoGreeting.Text.Blank

/-!
# Pieces of a text

What splitting a text at a mark gives back when the text was put together with
that mark, that nothing is lost by splitting, and what stripping leaves of a
text.
-/

namespace VideoGreeting.Text

@[simp] theorem toString_self (s : String) : toString s = s := rfl

/-! ## Splitting once -/

/-- A mark that is not among the characters before it is the first one. -/
theorem splitOnce_append {mark : Char} {before : List Char}
    (h : mark ∉ before) (after : List Char) :
    splitOnce mark (before ++ mark :: after) = some (before, after) := by
  induction before with
  | nil => simp [splitOnce]
  | cons c before ih =>
      rw [List.mem_cons, not_or] at h
      rw [List.cons_append, splitOnce, if_neg (Ne.symm h.1), ih h.2]
      rfl

theorem splitOnce_eq_some {mark : Char} : ∀ {cs before after : List Char},
    splitOnce mark cs = some (before, after) → cs = before ++ mark :: after
  | c :: cs, before, after, h => by
      rw [splitOnce] at h
      split at h
      next hc =>
        cases h
        rw [hc]
        rfl
      next =>
        obtain ⟨⟨front, back⟩, hrest, heq⟩ := Option.map_eq_some_iff.mp h
        cases heq
        rw [splitOnce_eq_some hrest]
        rfl

/-! ## Splitting everywhere -/

variable {p : Char → Bool}

theorem splitBy_ne_nil (cs : List Char) : splitBy p cs ≠ [] := by
  cases cs with
  | nil => exact List.cons_ne_nil _ _
  | cons c cs =>
      rw [splitBy]
      by_cases hc : p c = true
      · rw [if_pos hc]
        exact List.cons_ne_nil _ _
      · rw [if_neg hc]
        cases splitBy p cs <;> exact List.cons_ne_nil _ _

/-- A text without marks is one piece. -/
theorem splitBy_of_forall {cs : List Char} (h : ∀ c ∈ cs, p c = false) :
    splitBy p cs = [cs] := by
  induction cs with
  | nil => rfl
  | cons c cs ih =>
      obtain ⟨hc, hcs⟩ := List.forall_mem_cons.mp h
      rw [splitBy, hc, if_neg Bool.false_ne_true, ih hcs]

/-- At a mark the pieces before end and those after begin. -/
theorem splitBy_append_cons {mark : Char} (hmark : p mark = true) (before after : List Char) :
    splitBy p (before ++ mark :: after) = splitBy p before ++ splitBy p after := by
  induction before with
  | nil => simp [splitBy, hmark]
  | cons c before ih =>
      rw [List.cons_append, splitBy, splitBy]
      by_cases hc : p c = true
      · rw [if_pos hc, if_pos hc, ih, List.cons_append]
      · obtain ⟨piece, pieces, hpieces⟩ :=
          List.exists_cons_of_ne_nil (splitBy_ne_nil (p := p) before)
        rw [if_neg hc, if_neg hc, ih, hpieces]
        rfl

/-- Splitting is what lists call splitting at elements. -/
theorem splitBy_eq_splitOnP (cs : List Char) : splitBy p cs = cs.splitOnP p := by
  induction cs with
  | nil => rfl
  | cons c cs ih =>
      obtain ⟨piece, pieces, hpieces⟩ :=
        List.exists_cons_of_ne_nil (splitBy_ne_nil (p := p) cs)
      rw [splitBy, List.splitOnP_cons_eq_if_modifyHead, ← ih, hpieces]
      rfl

/-- Nothing is lost by splitting at a mark. -/
theorem intercalate_splitBy (mark : Char) (cs : List Char) :
    [mark].intercalate (splitBy (· == mark) cs) = cs := by
  rw [splitBy_eq_splitOnP]
  exact List.intercalate_splitOn mark

/-- The characters of the pieces are those of the text that are no marks. -/
theorem of_mem_splitBy {cs piece : List Char} {c : Char} (hpiece : piece ∈ splitBy p cs)
    (hc : c ∈ piece) : c ∈ cs ∧ p c = false := by
  induction cs generalizing piece with
  | nil =>
      obtain rfl := List.mem_singleton.mp hpiece
      cases hc
  | cons first cs ih =>
      obtain ⟨head, pieces, hpieces⟩ :=
        List.exists_cons_of_ne_nil (splitBy_ne_nil (p := p) cs)
      rw [splitBy, hpieces] at hpiece
      rw [hpieces] at ih
      by_cases hfirst : p first = true
      · rw [if_pos hfirst, List.mem_cons] at hpiece
        rcases hpiece with rfl | hpiece
        · cases hc
        · exact (ih hpiece hc).imp_left (List.mem_cons_of_mem _)
      · rw [if_neg hfirst, List.mem_cons] at hpiece
        rcases hpiece with rfl | hpiece
        · rcases List.mem_cons.mp hc with rfl | hc
          · exact ⟨List.mem_cons_self, by simpa using hfirst⟩
          · exact (ih List.mem_cons_self hc).imp_left (List.mem_cons_of_mem _)
        · exact (ih (List.mem_cons_of_mem _ hpiece) hc).imp_left (List.mem_cons_of_mem _)

theorem mem_of_mem_splitBy {cs piece : List Char} {c : Char} (hpiece : piece ∈ splitBy p cs)
    (hc : c ∈ piece) : c ∈ cs :=
  (of_mem_splitBy hpiece hc).1

/-- Pieces are found again in the text that they are joined to. -/
theorem splitBy_intercalate {mark : Char} {pieces : List (List Char)}
    (h : ∀ piece ∈ pieces, mark ∉ piece) (hne : pieces ≠ []) :
    splitBy (· == mark) ([mark].intercalate pieces) = pieces := by
  rw [splitBy_eq_splitOnP]
  exact List.splitOn_intercalate mark h hne

theorem stripBy_cons_of_neg {c : Char} (hc : p c = false) (cs : List Char) :
    stripBy p (c :: cs) = c :: stripEndBy p cs := by
  rw [stripBy, List.dropWhile_cons_of_neg (by simp [hc]), List.reverse_cons, List.dropWhile_append]
  split
  next hall =>
    simp [stripEndBy, List.isEmpty_iff.mp hall, hc]
  next => simp [stripEndBy]

theorem stripEndBy_cons (c : Char) (cs : List Char) :
    stripEndBy p (c :: cs) =
      if stripEndBy p cs = [] ∧ p c = true then [] else c :: stripEndBy p cs := by
  unfold stripEndBy
  rw [List.reverse_cons, List.dropWhile_append]
  by_cases hall : (cs.reverse.dropWhile p) = []
  · by_cases hc : p c = true
    · simp [hall, hc]
    · simp [hall, hc]
  · simp [hall]

/-- It does not matter which end is stripped first. -/
theorem dropWhile_stripEndBy (cs : List Char) :
    (stripEndBy p cs).dropWhile p = stripBy p cs := by
  induction cs with
  | nil => rfl
  | cons c cs ih =>
      rw [stripEndBy_cons]
      by_cases hc : p c = true
      · have hstrip : stripBy p (c :: cs) = stripBy p cs := by
          rw [stripBy, List.dropWhile_cons_of_pos hc, stripBy]
        rw [hstrip, ← ih]
        split
        next hall => simp [hall.1]
        next => rw [List.dropWhile_cons_of_pos hc]
      · rw [if_neg (by simp [hc]), List.dropWhile_cons_of_neg hc,
          stripBy_cons_of_neg (by simpa using hc)]

/-- Only a text of the characters that are stripped is stripped altogether. -/
theorem stripBy_eq_nil_iff (cs : List Char) : stripBy p cs = [] ↔ ∀ c ∈ cs, p c = true := by
  induction cs with
  | nil => simp [stripBy]
  | cons c cs ih =>
      by_cases hc : p c = true
      · have hstrip : stripBy p (c :: cs) = stripBy p cs := by
          rw [stripBy, List.dropWhile_cons_of_pos hc, stripBy]
        rw [hstrip, ih, List.forall_mem_cons, and_iff_right hc]
      · rw [stripBy_cons_of_neg (by simpa using hc)]
        simp [hc]

theorem stripBy_reverse (cs : List Char) : stripBy p cs.reverse = (stripBy p cs).reverse := by
  rw [← dropWhile_stripEndBy, stripEndBy, List.reverse_reverse, stripBy, List.reverse_reverse]

theorem stripEndBy_eq_self_iff (cs : List Char) :
    stripEndBy p cs = cs ↔ ∀ c, cs.getLast? = some c → p c = false := by
  show cs.rdropWhile p = cs ↔ _
  rw [List.rdropWhile_eq_self_iff]
  constructor
  · intro h c hc
    obtain ⟨hne, rfl⟩ := List.mem_getLast?_eq_getLast hc
    simpa using h hne
  · intro h hne
    simpa using h _ (List.getLast?_eq_some_getLast hne)

/-- Nothing is stripped from a text with other characters at its ends. -/
theorem stripBy_eq_self_iff (cs : List Char) :
    stripBy p cs = cs ↔
      (∀ c, cs.head? = some c → p c = false) ∧ ∀ c, cs.getLast? = some c → p c = false := by
  cases cs with
  | nil => simp [stripBy]
  | cons c cs =>
      by_cases hc : p c = true
      · have hlength : (stripBy p (c :: cs)).length < (c :: cs).length := by
          rw [stripBy, List.dropWhile_cons_of_pos hc, List.length_reverse]
          refine Nat.lt_succ_of_le ((List.dropWhile_sublist _).length_le.trans ?_)
          rw [List.length_reverse]
          exact (List.dropWhile_sublist _).length_le
        constructor
        · intro h
          rw [h] at hlength
          exact absurd hlength (lt_irrefl _)
        · intro h
          exact absurd hc (by simp [h.1 c rfl])
      · have hc' : p c = false := by simpa using hc
        have hend : stripEndBy p (c :: cs) = stripBy p (c :: cs) := by
          rw [stripBy, List.dropWhile_cons_of_neg hc, stripEndBy]
        rw [← hend, stripEndBy_eq_self_iff]
        simp [hc']

end VideoGreeting.Text
