import VideoGreeting.Text.Blank
import VideoGreeting.Text.Bytes

/-!
# Lines of bytes and of texts, and pieces of bytes
-/

namespace VideoGreeting.Text

/-- A line without the carriage return at its end. -/
def chomp (line : Bytes) : Bytes :=
  match line.reverse with
  | 0x0d :: rest => rest.reverse
  | _ => line

/-- The lines of a byte sequence, after `current`, which was read of the first line in reverse. A
line feed ends a line, together with a carriage return before it; what follows the last line feed is
a line if there is anything. -/
def linesFrom : (current : Bytes) → Bytes → List Bytes
  | [], [] => []
  | current, [] => [current.reverse]
  | current, b :: rest =>
    if b = 0x0a then chomp current.reverse :: linesFrom [] rest
    else linesFrom (b :: current) rest

/-- The lines of a byte sequence. -/
def lines (bytes : Bytes) : List Bytes := linesFrom [] bytes

/-- The bytes up to the last line feed. -/
def endedLines (bytes : Bytes) : Bytes := (bytes.reverse.dropWhile (· != 0x0a)).reverse

/-- A line of a text without the carriage return at its end. -/
def chompText (line : List Char) : List Char :=
  match line.reverse with
  | '\r' :: rest => rest.reverse
  | _ => line

/-- The lines of a text. They end like those of bytes: a carriage return at the end of the text,
which no line feed follows, belongs to the last line. -/
def textLines (cs : List Char) : List (List Char) :=
  let pieces := splitBy (· == '\n') cs
  pieces.dropLast.map chompText ++ (pieces.getLast?.filter (!·.isEmpty)).toList

/-- The bytes before the first occurrence of `mark`, and those after it. -/
def breakOn (mark : Bytes) : Bytes → Option (Bytes × Bytes)
  | [] => if mark.isEmpty then some ([], []) else none
  | b :: rest =>
    if mark.isPrefixOf (b :: rest) then some ([], (b :: rest).drop mark.length)
    else (breakOn mark rest).map fun (before, after) => (b :: before, after)

/-- Nothing but one occurrence of the mark lies between the two parts. -/
theorem breakOn_eq_some {mark bytes before after : Bytes}
    (h : breakOn mark bytes = some (before, after)) : bytes = before ++ mark ++ after := by
  induction bytes generalizing before with
  | nil =>
    cases mark with
    | nil =>
      simp [breakOn] at h
      simp [h]
    | cons => simp [breakOn] at h
  | cons b rest ih =>
    rw [breakOn] at h
    split at h
    next hmark =>
      obtain ⟨tail, htail⟩ := List.isPrefixOf_iff_prefix.1 hmark
      simp only [Option.some.injEq, Prod.mk.injEq] at h
      obtain ⟨rfl, rfl⟩ := h
      rw [← htail]
      simp
    next =>
      cases hrest : breakOn mark rest with
      | none => simp [hrest] at h
      | some pair =>
        obtain ⟨front, back⟩ := pair
        simp only [hrest, Option.map_some, Option.some.injEq, Prod.mk.injEq] at h
        obtain ⟨rfl, rfl⟩ := h
        rw [ih hrest]
        simp

/-- What follows a mark is shorter than the whole by at least the mark. -/
theorem length_after_breakOn {mark bytes before after : Bytes}
    (h : breakOn mark bytes = some (before, after)) :
    after.length + mark.length ≤ bytes.length := by
  rw [breakOn_eq_some h]
  simp
  omega

end VideoGreeting.Text
