import VideoGreeting.Proofs.Engine.Reports

/-!
# A line that is no text

Reading a log ends at the first line that is not UTF-8, as if the log ended there. So
one bad byte costs every line behind it: the reports that they end, and the complaints
that should tell what went wrong. What is read is right as far as it goes. The reports
are the first of those that all texts of the log give, and they are all of them only if
no report ends behind the bad line.

Main theorem: `read_until_unreadable`. That a bad byte costs only its own line is
refuted in `not_only_its_line`.
-/

namespace VideoGreeting.Engine.Log

open Text (Bytes)

/-- The lines of a log that are texts, those behind a bad one included. -/
def texts (bytes : Bytes) : List String := (Text.lines bytes).filterMap Text.strict?

theorem texts_of_holds {bytes : Bytes} {lines : List String} (h : Holds bytes lines) :
    texts bytes = lines := by
  have hmap := congrArg (List.filterMap id) h
  simpa [texts, List.filterMap_map, Function.comp_def] using hmap

/-- A log is made of texts, or there is a first line that is none. -/
theorem holds_or_unreadable (bytes : Bytes) :
    (∃ lines, Holds bytes lines) ∨
      ∃ (front : List Bytes) (bad : Bytes) (rest : List Bytes) (read : List String),
        Text.lines bytes = front ++ bad :: rest ∧ front.map Text.strict? = read.map some ∧
          Text.strict? bad = none := by
  unfold Holds
  induction Text.lines bytes with
  | nil => exact .inl ⟨[], rfl⟩
  | cons line lines ih =>
      cases hline : Text.strict? line with
      | none => exact .inr ⟨[], line, lines, [], rfl, rfl, hline⟩
      | some text =>
          rcases ih with ⟨read, hread⟩ | ⟨front, bad, rest, read, hsplit, hread, hbad⟩
          · exact .inl ⟨text :: read, by rw [List.map_cons, hline, hread, List.map_cons]⟩
          · refine .inr ⟨line :: front, bad, rest, text :: read, ?_, ?_, hbad⟩
            · rw [hsplit, List.cons_append]
            · rw [List.map_cons, hline, hread, List.map_cons]

section Split

variable {bytes : Bytes} {front rest : List Bytes} {bad : Bytes} {read : List String}

/-- Reading ends before the first line that is no text. -/
theorem ofBytes_of_unreadable (hsplit : Text.lines bytes = front ++ bad :: rest)
    (hread : front.map Text.strict? = read.map some) (hbad : Text.strict? bad = none) :
    ofBytes bytes = ofLines read := by
  have hlines : readableLines bytes = read := by
    rw [readableLines, hsplit, List.map_append, hread, List.map_cons, hbad,
      List.takeWhile_append_of_pos (by simp)]
    simp
  rw [ofBytes, hlines]

theorem texts_of_unreadable (hsplit : Text.lines bytes = front ++ bad :: rest)
    (hread : front.map Text.strict? = read.map some) (hbad : Text.strict? bad = none) :
    texts bytes = read ++ rest.filterMap Text.strict? := by
  have hfront : front.filterMap Text.strict? = read := by
    have hmap := congrArg (List.filterMap id) hread
    simpa [List.filterMap_map, Function.comp_def] using hmap
  rw [texts, hsplit, List.filterMap_append, hfront, List.filterMap_cons_none hbad]

end Split

/-- More lines add the reports that they end. -/
theorem reports_append (lines more : List String) :
    ∃ later, (ofLines (lines ++ more)).reports = (ofLines lines).reports ++ later ∧
      later.length = more.countP (EndsReport ·) := by
  obtain ⟨ends, hends⟩ : ∃ ends, reportEnds (lines ++ more) = reportEnds lines ++ ends :=
    ⟨_, reportEnds_append lines more⟩
  have hlength := length_reportEnds (lines ++ more)
  rw [hends, List.length_append, length_reportEnds, List.countP_append] at hlength
  refine ⟨ends.map told, ?_, ?_⟩
  · rw [ofLines_eq, ofLines_eq, hends, List.map_append]
  · rw [List.length_map]
    exact Nat.add_left_cancel hlength

/-- **Reading ends at the first line that is no text.** A log of texts is read to its end.
Any other is read as if it ended before its first bad line: of the texts behind that line
each end of a report and each complaint is lost, and nothing is lost only if they end no
report. -/
theorem read_until_unreadable (bytes : Bytes) :
    (∃ lines, Holds bytes lines ∧ texts bytes = lines ∧ ofBytes bytes = ofLines lines) ∨
      ∃ (front : List Bytes) (bad : Bytes) (rest : List Bytes) (read lost : List String),
        Text.lines bytes = front ++ bad :: rest ∧ front.map Text.strict? = read.map some ∧
        Text.strict? bad = none ∧ texts bytes = read ++ lost ∧
        ofBytes bytes = ofLines read ∧
        (ofBytes bytes).tail = (read.filter (IsComplaint ·)).rtake 40 ∧
        (∃ later, (ofLines (texts bytes)).reports = (ofBytes bytes).reports ++ later ∧
          later.length = lost.countP (EndsReport ·)) ∧
        ((ofBytes bytes).reports = (ofLines (texts bytes)).reports ↔
          ∀ line ∈ lost, ¬EndsReport line) := by
  rcases holds_or_unreadable bytes with
    ⟨lines, hlines⟩ | ⟨front, bad, rest, read, hsplit, hread, hbad⟩
  · exact .inl ⟨lines, hlines, texts_of_holds hlines, ofBytes_of_holds hlines⟩
  · right
    have hlog := ofBytes_of_unreadable hsplit hread hbad
    have htexts := texts_of_unreadable hsplit hread hbad
    obtain ⟨later, hlater, hlength⟩ := reports_append read (rest.filterMap Text.strict?)
    rw [← htexts, ← hlog] at hlater
    refine ⟨front, bad, rest, read, _, hsplit, hread, hbad, htexts, hlog, ?_,
      ⟨later, hlater, hlength⟩, ?_⟩
    · rw [hlog, ofLines_eq]
    · rw [hlater, List.self_eq_append_right, ← List.length_eq_zero_iff, hlength,
        List.countP_eq_zero]
      simp

/-- A byte that is no UTF-8, on a line of its own, before the end of a report. -/
def badByteFirst : Bytes := [0xff, 0x0a] ++ Text.encode "progress=end\n"

/-- A bad byte costs more than its own line. -/
theorem not_only_its_line :
    ¬∀ bytes : Bytes,
      (ofBytes bytes).reports = (ofLines (texts bytes)).reports ∧
        (ofBytes bytes).tail = ((texts bytes).filter (IsComplaint ·)).rtake 40 := by
  intro h
  have hlength := congrArg List.length (h badByteFirst).1
  revert hlength
  decide +kernel

end VideoGreeting.Engine.Log
