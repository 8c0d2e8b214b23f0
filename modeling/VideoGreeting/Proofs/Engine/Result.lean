import VideoGreeting.Proofs.Engine.Reports
import VideoGreeting.Proofs.Text.Lines

/-!
# The result of a run

A run that fails is told by its complaints: the kept ones in one text, and the last one
for a message. The message is looked for in that text, where lines may end in other
places than they did in the log. It is the last complaint all the same, since no
complaint holds a line feed and none is empty.

Main theorem: `result_of_run`. That a run that starts and does not exit with status 0
fails by its complaints or by its time is refuted in `not_engineFailed_otherwise`: waiting
for its end can fail.
-/

namespace VideoGreeting.Engine

open Text (Bytes)

/-! ## What is kept of the complaints -/

/-- The last of the last elements is the last of all. -/
theorem getLast?_rtake_succ {α : Type} (as : List α) (n : Nat) :
    (as.rtake (n + 1)).getLast? = as.getLast? := by
  rw [List.rtake_eq_reverse_take_reverse, List.getLast?_reverse, List.head?_take,
    if_neg (Nat.succ_ne_zero n), List.head?_reverse]

namespace Log

variable {bytes : Bytes} {lines : List String}

/-- The texts of a log hold no line feed. -/
theorem Holds.lineFeed_notMem (h : Holds bytes lines) {line : String} (hline : line ∈ lines) :
    '\n' ∉ line.toList := by
  have hmem : some line ∈ (Text.lines bytes).map Text.strict? := by
    rw [h]
    exact List.mem_map_of_mem hline
  obtain ⟨written, hwritten, hread⟩ := List.mem_map.mp hmem
  exact Text.lineFeed_notMem_of_strict? (Text.lineFeed_notMem_lines hwritten) hread

/-- What is kept of a log of texts is found again in the text of its tail. -/
theorem getLast?_textLines_tailText (h : Holds bytes lines) :
    (Text.textLines (ofLines lines).tailText.toList).getLast? =
      (lines.filter (IsComplaint ·)).getLast?.map String.toList := by
  have hkept : ∀ line ∈ (ofLines lines).tail, line ∈ lines ∧ IsComplaint line := by
    intro line hline
    rw [ofLines_eq] at hline
    simpa using List.mem_filter.mp (List.mem_of_mem_drop hline)
  rw [tailText, String.toList_intercalate]
  show (Text.textLines (['\n'].intercalate _)).getLast? = _
  rw [Text.getLast?_textLines_intercalate, List.getLast?_map, ofLines_eq, getLast?_rtake_succ]
  · simp only [List.forall_mem_map]
    exact fun line hline => h.lineFeed_notMem (hkept line hline).1
  · simp only [List.forall_mem_map]
    intro line hline
    obtain ⟨-, c, hc, -⟩ := (hkept line hline).2
    exact List.ne_nil_of_mem hc

/-- The message is the last complaint. -/
theorem lastLine_ofLines (h : Holds bytes lines) :
    (ofLines lines).lastLine =
      (lines.filter (IsComplaint ·)).getLast?.getD "FFmpeg exited with non-zero status" := by
  rw [lastLine, getLast?_textLines_tailText h, Option.map_map]
  simp [Function.comp_def]

/-- There is a text of complaints if there is a complaint. -/
theorem diagnostics?_ofLines (h : Holds bytes lines) :
    (ofLines lines).diagnostics? =
      if lines.filter (IsComplaint ·) = [] then none
      else some ("\n".intercalate ((lines.filter (IsComplaint ·)).rtake 40)) := by
  have htext : (ofLines lines).tailText =
      "\n".intercalate ((lines.filter (IsComplaint ·)).rtake 40) := by
    rw [tailText, ofLines_eq]
  have hempty : (ofLines lines).tailText.isEmpty = true ↔ lines.filter (IsComplaint ·) = [] := by
    rw [String.isEmpty_iff]
    constructor
    · intro hnone
      have hlast := getLast?_textLines_tailText h
      rw [hnone] at hlast
      have hlast' : (lines.filter (IsComplaint ·)).getLast? = none :=
        Option.map_eq_none_iff.mp hlast.symm
      exact List.getLast?_eq_none_iff.mp hlast'
    · intro hnone
      rw [htext, hnone]
      rfl
  rw [htext] at hempty
  simp only [diagnostics?, htext, hempty]

end Log

/-! ## Runs -/

namespace Program

/-- **A run is told as it was.** It is a success exactly if the program was started and
exited with status 0, whatever it wrote; a program that cannot be found or started reports
nothing; a fault of starting it or of waiting for its end is told as it is; and a program
that has not ended when its time is up is stopped for that. When the program ended badly,
its complaints are told: the last forty in one text, if there is one, the last for a
message, and the exit code unless a signal killed it. -/
theorem result_of_run (timeout : Option Nat) :
    (∀ program : Program, (program.run timeout).result = some (.ok ()) ↔
      ∃ log output, program = .present log output (.exited 0)) ∧
    (Program.absent.run timeout).result = some (.error .engineMissing) ∧
    Program.absent.reports timeout = [] ∧
    (∀ fault, ((unstartable fault).run timeout).result = some (.error (.disk fault)) ∧
      (unstartable fault).reports timeout = []) ∧
    (∀ log output fault, ((present log output (.lost fault)).run timeout).result =
      some (.error (.disk fault))) ∧
    (∀ log output, ((present log output .never).run timeout).result =
      timeout.map fun seconds => .error (.timedOut seconds)) ∧
    ∀ bytes lines output, Log.Holds bytes lines →
      ∃ message diagnostics,
        message = (lines.filter (IsComplaint ·)).getLast?.getD
          "FFmpeg exited with non-zero status" ∧
        diagnostics = (if lines.filter (IsComplaint ·) = [] then none
          else some ("\n".intercalate ((lines.filter (IsComplaint ·)).rtake 40))) ∧
        (∀ code ≠ 0, ((present bytes output (.exited code)).run timeout).result =
          some (.error (.engineFailed message diagnostics (some code)))) ∧
        ((present bytes output .killed).run timeout).result =
          some (.error (.engineFailed message diagnostics none)) := by
  refine ⟨?_, rfl, rfl, fun fault => ⟨rfl, rfl⟩, fun log output fault => rfl,
    fun log output => rfl, ?_⟩
  · intro program
    constructor
    · intro h
      cases program with
      | absent => cases h
      | unstartable fault => cases h
      | present log output ending =>
          cases ending with
          | never =>
              obtain ⟨seconds, -, hseconds⟩ := Option.map_eq_some_iff.mp h
              cases hseconds
          | killed => cases h
          | lost fault => cases h
          | exited code =>
              by_cases hcode : code = 0
              · exact ⟨log, output, by rw [hcode]⟩
              · have hresult : resultOf (.ofBytes log) (.exited code) = .ok () :=
                  Option.some.inj h
                rw [resultOf, if_neg hcode] at hresult
                cases hresult
    · rintro ⟨log, output, rfl⟩
      rfl
  · intro bytes lines output hlines
    have hlog := Log.ofBytes_of_holds hlines
    refine ⟨_, _, (Log.lastLine_ofLines hlines), Log.diagnostics?_ofLines hlines, ?_, ?_⟩
    · intro code hcode
      show some (resultOf _ _) = _
      rw [hlog, resultOf, if_neg hcode]
    · show some (resultOf _ _) = _
      rw [hlog]
      rfl

/-- A run can fail for another reason than its complaints and its time. -/
theorem not_engineFailed_otherwise :
    ¬∀ (timeout : Option Nat) (log output : Bytes) (ending : Ending),
      ending ≠ .exited 0 → ending ≠ .never →
        ∃ message diagnostics code, ((present log output ending).run timeout).result =
          some (.error (.engineFailed message diagnostics code)) := by
  intro h
  obtain ⟨message, diagnostics, code, hresult⟩ :=
    h none [] [] (.lost (.other "No child processes")) nofun nofun
  cases hresult

/-- Two complaints that end in carriage returns, and progress between them. -/
def returns : List String := ["no such filter\r", "frame=1", "Conversion failed!\r"]

theorem result_of_run_returns :
    Log.Holds (Text.encode "no such filter\r\r\nframe=1\r\nConversion failed!\r") returns ∧
      ((present (Text.encode "no such filter\r\r\nframe=1\r\nConversion failed!\r") []
          (.exited 187)).run (some 90)).result =
        some (.error (.engineFailed "Conversion failed!\r"
          (some "no such filter\r\nConversion failed!\r") (some 187))) := by
  have hholds : Log.Holds
      (Text.encode "no such filter\r\r\nframe=1\r\nConversion failed!\r") returns := by
    unfold Log.Holds
    decide +kernel
  have hcomplaints : returns.filter (IsComplaint ·) =
      ["no such filter\r", "Conversion failed!\r"] := by
    decide +kernel
  obtain ⟨-, -, -, -, -, -, hfailed⟩ := result_of_run (some 90)
  obtain ⟨message, diagnostics, rfl, rfl, hexited, -⟩ := hfailed _ _ [] hholds
  refine ⟨hholds, ?_⟩
  rw [hexited 187 (by decide), hcomplaints]
  rfl

end Program

end VideoGreeting.Engine
