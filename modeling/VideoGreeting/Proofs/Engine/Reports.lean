import Mathlib
import VideoGreeting.Engine.Program
import VideoGreeting.Proofs.Number.Reading
import VideoGreeting.Proofs.Text.Lines
import VideoGreeting.Proofs.Text.Pieces

/-!
# What a log tells

The engine writes its progress and its complaints into one log, in any order. What is
known after some lines is not defined by reading them one by one: `told` looks for the
last line that gives each thing a value, `reportEnds` cuts the lines behind each end of
a report, and the tail is the end of the other lines. Reading one more line takes these
to what they are with that line, so they are what reading a log gives (`ofLines_eq`).
Hence progress does not depend on the complaints in between, nor the other way round.

What a report says is given by `Snapshot` without the readers: of each thing the last
that a line tells in a form that writes a number.

Main theorem: `progress_and_complaints`.
-/

namespace VideoGreeting.Engine

open Text (Bytes)

/-! ## Assignments -/

/-- White space around it apart, the line is a key, the sign `=` and a value. -/
def Assigns (line key value : String) : Prop :=
  (Text.trim line).toList = key.toList ++ '=' :: value.toList ∧ '=' ∉ key.toList

/-- An ASCII letter, a digit or an underscore. -/
def IsKeyChar (c : Char) : Prop :=
  ('a' ≤ c ∧ c ≤ 'z') ∨ ('A' ≤ c ∧ c ≤ 'Z') ∨ ('0' ≤ c ∧ c ≤ '9') ∨ c = '_'

theorem isKeyChar_iff (c : Char) : Progress.isKeyChar c = true ↔ IsKeyChar c := by
  unfold Progress.isKeyChar IsKeyChar Char.isAlphanum Char.isAlpha Char.isUpper Char.isLower
    Char.isDigit
  simp only [Bool.or_eq_true, Bool.and_eq_true, decide_eq_true_eq, beq_iff_eq]
  rw [or_assoc, or_assoc, or_left_comm]
  rfl

/-- Letters, digits and underscores, at least one of them. -/
def IsKey (key : String) : Prop := key ≠ "" ∧ ∀ c ∈ key.toList, IsKeyChar c

theorem isKey_ofList (cs : List Char) :
    IsKey (String.ofList cs) ↔ (!cs.isEmpty && cs.all Progress.isKeyChar) = true := by
  rw [IsKey, Ne, ← String.toList_eq_nil_iff, String.toList_ofList]
  simp [isKeyChar_iff]

theorem IsKey.sign_notMem {key : String} (h : IsKey key) : '=' ∉ key.toList := fun hmem =>
  absurd ((isKeyChar_iff '=').mpr (h.2 _ hmem)) (by decide)

theorem assignment?_eq_some_iff {line key value : String} :
    Progress.assignment? line = some (key, value) ↔ Assigns line key value ∧ IsKey key := by
  constructor
  · intro h
    unfold Progress.assignment? at h
    split at h
    next front back hsplit =>
      obtain ⟨hkey, heq⟩ := Option.ite_none_right_eq_some.mp h
      obtain ⟨rfl, rfl⟩ := Prod.mk.inj (Option.some.inj heq)
      have hisKey := (isKey_ofList front).mpr hkey
      refine ⟨⟨?_, hisKey.sign_notMem⟩, hisKey⟩
      rw [String.toList_ofList, String.toList_ofList]
      exact Text.splitOnce_eq_some hsplit
    next => cases h
  · rintro ⟨⟨htrim, hsign⟩, hkey⟩
    rw [← String.ofList_toList (s := key)] at hkey
    unfold Progress.assignment?
    rw [htrim, Text.splitOnce_append hsign]
    dsimp only
    rw [if_pos ((isKey_ofList _).mp hkey), String.ofList_toList, String.ofList_toList]

/-- A line of progress. -/
def IsProgress (line : String) : Prop := ∃ key value, Assigns line key value ∧ IsKey key

/-- A line that tells what went wrong: neither progress nor blank. -/
def IsComplaint (line : String) : Prop :=
  ¬IsProgress line ∧ ∃ c ∈ line.toList, Text.isBlank c = false

/-- A line behind which what is known is reported. -/
def EndsReport (line : String) : Prop := ∃ value, Assigns line "progress" value

theorem isProgress_iff {line : String} :
    IsProgress line ↔ (Progress.assignment? line).isSome = true := by
  simp only [IsProgress, Option.isSome_iff_exists, Prod.exists, assignment?_eq_some_iff]

instance : DecidablePred IsKey := fun key =>
  decidable_of_iff ((!key.toList.isEmpty && key.toList.all Progress.isKeyChar) = true) (by
    rw [← isKey_ofList, String.ofList_toList])

theorem isKey_progress : IsKey "progress" := by decide

theorem endsReport_iff {line : String} :
    EndsReport line ↔
      (Progress.assignment? line).any (fun a => Progress.endsReport a.1) = true := by
  rw [Option.any_eq_true]
  constructor
  · rintro ⟨value, h⟩
    exact ⟨_, assignment?_eq_some_iff.mpr ⟨h, isKey_progress⟩, rfl⟩
  · rintro ⟨⟨key, value⟩, h, hkey⟩
    obtain rfl : key = "progress" := by simpa [Progress.endsReport] using hkey
    exact ⟨value, (assignment?_eq_some_iff.mp h).1⟩

instance : DecidablePred IsProgress := fun _ => decidable_of_iff _ isProgress_iff.symm

instance : DecidablePred EndsReport := fun _ => decidable_of_iff _ endsReport_iff.symm

theorem isComplaint_iff {line : String} :
    IsComplaint line ↔ ¬IsProgress line ∧ line.toList.all Text.isBlank = false := by
  rw [IsComplaint, List.all_eq_false]
  simp

instance : DecidablePred IsComplaint := fun _ => decidable_of_iff _ isComplaint_iff.symm

theorem EndsReport.isProgress {line : String} (h : EndsReport line) : IsProgress line := by
  obtain ⟨value, h⟩ := h
  exact ⟨_, value, h, isKey_progress⟩

/-! ## What lines tell -/

section Told

variable {α : Type}

/-- The value that a line gives to a key, if it can be read. -/
def given? (key : String) (read : String → Option α) (line : String) : Option α :=
  match Progress.assignment? line with
  | some (k, value) => if k = key then read value else none
  | none => none

/-- The last of the values that lines give. -/
def last? (gives : String → Option α) (lines : List String) : Option α :=
  (lines.filterMap gives).getLast?

theorem last?_concat (gives : String → Option α) (lines : List String) (line : String) :
    last? gives (lines ++ [line]) = (gives line).or (last? gives lines) := by
  unfold last?
  rw [List.filterMap_append, List.getLast?_append]
  cases hline : gives line <;> simp [hline]

theorem given?_eq_some_iff {key : String} {read : String → Option α} {line : String} {a : α}
    (hkey : IsKey key) :
    given? key read line = some a ↔ ∃ value, Assigns line key value ∧ read value = some a := by
  unfold given?
  constructor
  · intro h
    split at h
    next k value hassigns =>
      obtain ⟨rfl, hread⟩ := Option.ite_none_right_eq_some.mp h
      exact ⟨value, (assignment?_eq_some_iff.mp hassigns).1, hread⟩
    next => cases h
  · rintro ⟨value, hassigns, hread⟩
    rw [assignment?_eq_some_iff.mpr ⟨hassigns, hkey⟩]
    dsimp only
    rw [if_pos rfl, hread]

end Told

/-- Microseconds, under either of their names. -/
def micros? (line : String) : Option Int64 :=
  (given? "out_time_ms" Number.readInt64? line).or (given? "out_time_us" Number.readInt64? line)

/-- What lines tell about a run: of each thing the last value that can be read. -/
def told (lines : List String) : Progress where
  frame := (last? (given? "frame" (Number.readNat? Number.maxWord64)) lines).getD 0
  fps := (last? (given? "fps" Number.readFloat?) lines).getD 0.0
  outTimeMillis := ((last? micros? lines).map (· / 1000)).getD 0
  outTime := (last? (given? "out_time" some) lines).getD ""
  speed := (last? (given? "speed" Progress.speed?) lines).getD 0.0
  isComplete := lines.any fun line => given? "progress" some line == some "end"

/-- **One more line.** An assignment changes what it assigns; other lines tell nothing. -/
theorem told_concat (lines : List String) (line : String) :
    told (lines ++ [line]) =
      match Progress.assignment? line with
      | some (key, value) => (told lines).assign key value
      | none => told lines := by
  simp only [told, last?_concat, List.any_append, List.any_cons, List.any_nil, Bool.or_false]
  cases hline : Progress.assignment? line with
  | none => simp [given?, micros?, hline]
  | some assignment =>
      obtain ⟨key, value⟩ := assignment
      simp only [given?, micros?, hline, Progress.assign]
      by_cases hms : key = "out_time_ms"
      · subst hms
        cases hread : Number.readInt64? value <;> simp [Progress.millis?, hread]
      by_cases hus : key = "out_time_us"
      · subst hus
        cases hread : Number.readInt64? value <;> simp [Progress.millis?, hread]
      by_cases htime : key = "out_time"
      · subst htime
        simp
      by_cases hframe : key = "frame"
      · subst hframe
        cases hread : Number.readNat? Number.maxWord64 value <;> simp
      by_cases hfps : key = "fps"
      · subst hfps
        cases hread : Number.readFloat? value <;> simp
      by_cases hspeed : key = "speed"
      · subst hspeed
        cases hread : Progress.speed? value <;> simp
      by_cases hprogress : key = "progress"
      · subst hprogress
        simp
      · simp [hms, hus, htime, hframe, hfps, hspeed, hprogress]

/-! ## The log -/

/-- The lines up to each end of a report. -/
def reportEnds (lines : List String) : List (List String) :=
  lines.inits.filter fun front => front.getLast?.any (EndsReport ·)

theorem reportEnds_append (lines more : List String) :
    reportEnds (lines ++ more) =
      reportEnds lines ++
        ((more.inits.tail.map (lines ++ ·)).filter fun front =>
          front.getLast?.any (EndsReport ·)) := by
  rw [reportEnds, List.inits_append, List.filter_append]
  rfl

theorem reportEnds_concat (lines : List String) (line : String) :
    reportEnds (lines ++ [line]) =
      if EndsReport line then reportEnds lines ++ [lines ++ [line]] else reportEnds lines := by
  rw [reportEnds_append]
  by_cases hline : EndsReport line
  · simp [hline]
  · simp [hline]

theorem length_reportEnds (lines : List String) :
    (reportEnds lines).length = lines.countP (EndsReport ·) := by
  induction lines using List.reverseRecOn with
  | nil => rfl
  | append_singleton lines line ih =>
      rw [reportEnds_concat, List.countP_append, List.countP_singleton, ← ih]
      by_cases hline : EndsReport line
      · simp [hline]
      · simp [hline]

namespace Log

/-- Of the last lines and one more, the last are those of all lines. -/
theorem keep_rtake_concat (lines : List String) (line : String) :
    keep (lines.rtake 40 ++ [line]) = (lines ++ [line]).rtake 40 := by
  show (lines.rtake 40 ++ [line]).rtake 40 = _
  rw [List.rtake_concat_succ, List.rtake_concat_succ, List.rtake_eq_reverse_take_reverse,
    List.rtake_eq_reverse_take_reverse, List.rtake_eq_reverse_take_reverse, List.reverse_reverse,
    List.take_take]
  rfl

theorem ofLines_concat (lines : List String) (line : String) :
    ofLines (lines ++ [line]) = (ofLines lines).readLine line := by
  rw [ofLines, List.foldl_concat]
  rfl

/-- A line of progress assigns, and is reported if it ends a report. -/
theorem readLine_of_isProgress (log : Log) {line key value : String}
    (h : Progress.assignment? line = some (key, value)) :
    log.readLine line =
      { log with
        progress := log.progress.assign key value
        reports := if EndsReport line then log.reports ++ [log.progress.assign key value]
          else log.reports } := by
  have hends : EndsReport line ↔ Progress.endsReport key = true := by
    rw [endsReport_iff, h]
    rfl
  rw [readLine, h]
  simp [hends]

/-- Any other line is kept if it is a complaint, and tells nothing. -/
theorem readLine_of_not_isProgress (log : Log) {line : String} (h : ¬IsProgress line) :
    log.readLine line =
      { log with tail := if IsComplaint line then keep (log.tail ++ [line]) else log.tail } := by
  have hassigns : Progress.assignment? line = none := by simpa [isProgress_iff] using h
  have hcomplaint : IsComplaint line ↔ ¬line.toList.all Text.isBlank = true := by
    rw [isComplaint_iff, and_iff_right h, Bool.not_eq_true]
  rw [readLine, hassigns]
  by_cases hblank : line.toList.all Text.isBlank = true
  · simp [hcomplaint, hblank]
  · simp [hcomplaint, hblank]

/-- **A log is what its lines tell.** -/
theorem ofLines_eq (lines : List String) :
    ofLines lines =
      { progress := told lines
        reports := (reportEnds lines).map told
        tail := (lines.filter (IsComplaint ·)).rtake 40 } := by
  induction lines using List.reverseRecOn with
  | nil => rfl
  | append_singleton lines line ih =>
      have htold := told_concat lines line
      rw [ofLines_concat, ih, reportEnds_concat, List.filter_append]
      by_cases hprogress : IsProgress line
      · obtain ⟨⟨key, value⟩, hassigns⟩ :=
          Option.isSome_iff_exists.mp (isProgress_iff.mp hprogress)
        have hcomplaint : ¬IsComplaint line := fun h => h.1 hprogress
        rw [hassigns] at htold
        rw [readLine_of_isProgress _ hassigns, htold]
        by_cases hends : EndsReport line
        · simp [hcomplaint, hends, htold]
        · simp [hcomplaint, hends]
      · have hends : ¬EndsReport line := fun h => hprogress h.isProgress
        have hassigns : Progress.assignment? line = none := by
          simpa [isProgress_iff] using hprogress
        rw [hassigns] at htold
        rw [readLine_of_not_isProgress _ hprogress, htold]
        by_cases hcomplaint : IsComplaint line
        · simp [hcomplaint, hends, keep_rtake_concat]
        · simp [hcomplaint, hends]

/-! ## Progress and complaints -/

/-- Lines that are no progress change neither what is known nor what is reported. -/
theorem ofLines_filter_isProgress (lines : List String) :
    (ofLines (lines.filter (IsProgress ·))).progress = (ofLines lines).progress ∧
      (ofLines (lines.filter (IsProgress ·))).reports = (ofLines lines).reports := by
  induction lines using List.reverseRecOn with
  | nil => exact ⟨rfl, rfl⟩
  | append_singleton lines line ih =>
      obtain ⟨hprogress, hreports⟩ := ih
      rw [List.filter_append, ofLines_concat]
      by_cases hline : IsProgress line
      · obtain ⟨⟨key, value⟩, hassigns⟩ := Option.isSome_iff_exists.mp (isProgress_iff.mp hline)
        simp [hline, ofLines_concat, readLine_of_isProgress _ hassigns, hprogress, hreports]
      · simp [hline, readLine_of_not_isProgress _ hline, hprogress, hreports]

/-- Progress takes nothing from the tail. -/
theorem tail_filter_not_isProgress (lines : List String) :
    (ofLines (lines.filter (¬IsProgress ·))).tail = (ofLines lines).tail := by
  have hcomplaints : ∀ line, (decide (IsComplaint line) && decide (¬IsProgress line)) =
      decide (IsComplaint line) := by
    intro line
    by_cases hline : IsComplaint line
    · simp [hline, hline.1]
    · simp [hline]
  rw [ofLines_eq, ofLines_eq, List.filter_filter]
  simp only [hcomplaints]

/-! ## What is reported -/

section LastTold

variable {α : Type}

/-- The line gives the key a value that reads as `a`. -/
def Tells (key : String) (Reads : String → α → Prop) (line : String) (a : α) : Prop :=
  ∃ value, Assigns line key value ∧ Reads value a

/-- What lines tell last: what the last of them tells that tells anything, and what is
known beforehand if none does. -/
inductive LastTold (Told : String → α → Prop) (beforehand : α) : List String → α → Prop
  | told {before : List String} {line : String} {after : List String} {a : α} :
      Told line a → (∀ later ∈ after, ∀ b, ¬Told later b) →
      LastTold Told beforehand (before ++ line :: after) a
  | untold {lines : List String} :
      (∀ line ∈ lines, ∀ b, ¬Told line b) → LastTold Told beforehand lines beforehand

theorem lastTold_iff {Told : String → α → Prop} {gives : String → Option α}
    (h : ∀ line a, gives line = some a ↔ Told line a) (beforehand : α) (lines : List String)
    (a : α) :
    LastTold Told beforehand lines a ↔ a = (last? gives lines).getD beforehand := by
  have hnone (lines : List String) : (∀ line ∈ lines, ∀ b, ¬Told line b) ↔
      lines.filterMap gives = [] := by
    rw [List.filterMap_eq_nil_iff]
    refine forall₂_congr fun line _ => ?_
    rw [Option.eq_none_iff_forall_ne_some]
    exact forall_congr' fun b => not_congr (h line b).symm
  constructor
  · rintro (⟨htold, hafter⟩ | huntold)
    · rw [last?, List.filterMap_append, List.filterMap_cons_some ((h _ _).mpr htold),
        (hnone _).mp hafter, List.getLast?_concat]
      rfl
    · rw [last?, (hnone _).mp huntold]
      rfl
  · rintro rfl
    induction lines using List.reverseRecOn with
    | nil => exact .untold nofun
    | append_singleton lines line ih =>
        rw [last?_concat]
        cases hline : gives line with
        | some b => exact .told ((h line b).mp hline) nofun
        | none =>
            have hsilent : ∀ b, ¬Told line b := fun b htold => by
              rw [(h line b).mpr htold] at hline
              cases hline
            have hstill (lines : List String) (h : ∀ l ∈ lines, ∀ b, ¬Told l b) :
                ∀ l ∈ lines ++ [line], ∀ b, ¬Told l b := by
              simpa [or_imp, forall_and] using ⟨h, hsilent⟩
            rw [Option.none_or]
            generalize (last? gives lines).getD beforehand = a at ih
            cases ih with
            | told htold hafter =>
                rw [List.append_assoc, List.cons_append]
                exact .told htold (hstill _ hafter)
            | untold huntold => exact .untold (hstill _ huntold)

/-- What assignments to a key tell last. -/
theorem lastTold_given?_iff {key : String} {read : String → Option α}
    {Reads : String → α → Prop} (hkey : IsKey key)
    (hread : ∀ value a, read value = some a ↔ Reads value a) (beforehand : α)
    (lines : List String) (a : α) :
    LastTold (Tells key Reads) beforehand lines a ↔
      a = (last? (given? key read) lines).getD beforehand := by
  refine lastTold_iff (fun line a => ?_) beforehand lines a
  rw [given?_eq_some_iff hkey]
  exact exists_congr fun value => and_congr_right fun _ => hread value a

/-- What is told last is one thing. -/
theorem LastTold.unique {key : String} {read : String → Option α} {Reads : String → α → Prop}
    {beforehand a b : α} {lines : List String} (hkey : IsKey key)
    (hread : ∀ value a, read value = some a ↔ Reads value a)
    (ha : LastTold (Tells key Reads) beforehand lines a)
    (hb : LastTold (Tells key Reads) beforehand lines b) : a = b := by
  rw [lastTold_given?_iff hkey hread] at ha hb
  rw [ha, hb]

end LastTold

/-- A number and then the letter `x`; white space around the number does not matter. -/
def IsSpeed (value : String) (speed : Float) : Prop :=
  ∃ number, value.toList = number ++ ['x'] ∧
    Number.WritesDouble (Text.trim (String.ofList number)) speed

theorem speed?_eq_some_iff {value : String} {speed : Float} :
    Progress.speed? value = some speed ↔ IsSpeed value speed := by
  unfold Progress.speed? IsSpeed
  constructor
  · intro h
    split at h
    next rest hrest =>
      refine ⟨rest.reverse, ?_, Number.readFloat?_eq_some_iff.mp h⟩
      rw [← List.reverse_inj, hrest, List.reverse_append, List.reverse_reverse]
      rfl
    next => cases h
  · rintro ⟨number, hvalue, hread⟩
    rw [hvalue, List.reverse_append]
    show Number.readFloat? (Text.trim (String.ofList number.reverse.reverse)) = _
    rw [List.reverse_reverse, Number.readFloat?_eq_some_iff.mpr hread]

/-- The line tells how many microseconds of output are there, under either of their names. -/
def TellsMicros (line : String) (us : Int64) : Prop :=
  ∃ key ∈ ["out_time_ms", "out_time_us"],
    Tells key (fun value us => Number.WritesInt value.toList us.toInt) line us

theorem micros?_eq_some_iff {line : String} {us : Int64} :
    micros? line = some us ↔ TellsMicros line us := by
  have hgiven (key : String) (hkey : IsKey key) :
      given? key Number.readInt64? line = some us ↔
        Tells key (fun value us => Number.WritesInt value.toList us.toInt) line us := by
    rw [given?_eq_some_iff hkey]
    exact exists_congr fun value => and_congr_right fun _ => Number.readInt64?_eq_some_iff
  have hapart : (given? "out_time_ms" Number.readInt64? line).isSome = true →
      given? "out_time_us" Number.readInt64? line = none := by
    unfold given?
    split
    next key value hassigns =>
      by_cases hkey : key = "out_time_ms"
      · simp [hkey]
      · simp [hkey]
    next => exact fun h => absurd h (by decide)
  unfold TellsMicros micros?
  rw [List.exists_mem_cons_iff, List.exists_mem_cons_iff, ← hgiven _ (by decide),
    ← hgiven _ (by decide)]
  cases hms : given? "out_time_ms" Number.readInt64? line with
  | none => simp
  | some ms =>
      rw [hms] at hapart
      simp [hapart]

/-- What is reported at a line that ends a report, behind these lines: of each thing the
last that was told of it in a form that can be read. -/
structure Snapshot (earlier : List String) (line : String) (p : Progress) : Prop where
  frame : LastTold (Tells "frame" fun value n => Number.WritesNat value n ∧ n ≤ Number.maxWord64)
    0 earlier p.frame
  fps : LastTold (Tells "fps" Number.WritesDouble) 0.0 earlier p.fps
  outTimeMillis : ∃ us, LastTold TellsMicros 0 earlier us ∧
    p.outTimeMillis.toInt = us.toInt.tdiv 1000
  outTime : LastTold (Tells "out_time" Eq) "" earlier p.outTime
  speed : LastTold (Tells "speed" IsSpeed) 0.0 earlier p.speed
  isComplete : p.isComplete = true ↔ ∃ l ∈ earlier ++ [line], Assigns l "progress" "end"

theorem snapshot_told (earlier : List String) {line : String} (h : EndsReport line) :
    Snapshot earlier line (told (earlier ++ [line])) := by
  obtain ⟨value, hvalue⟩ := h
  have hassigns := assignment?_eq_some_iff.mpr ⟨hvalue, isKey_progress⟩
  -- the end of a report tells nothing else
  have hother {α : Type} {key : String} (read : String → Option α) (hkey : "progress" ≠ key) :
      last? (given? key read) (earlier ++ [line]) = last? (given? key read) earlier := by
    simp [last?_concat, given?, hassigns, hkey]
  constructor
  · show LastTold _ 0 _ ((last? _ (earlier ++ [line])).getD 0)
    rw [hother _ (by decide)]
    exact (lastTold_given?_iff (by decide) (fun _ _ => Number.readNat?_eq_some_iff) _ _ _).mpr rfl
  · show LastTold _ 0.0 _ ((last? _ (earlier ++ [line])).getD 0.0)
    rw [hother _ (by decide)]
    exact (lastTold_given?_iff (by decide) (fun _ _ => Number.readFloat?_eq_some_iff) _ _ _).mpr rfl
  · have hmicros : micros? line = none := by simp [micros?, given?, hassigns]
    refine ⟨_, (lastTold_iff (fun _ _ => micros?_eq_some_iff) 0 earlier _).mpr rfl, ?_⟩
    simp only [told, last?_concat, hmicros, Option.none_or]
    cases last? micros? earlier with
    | none => rfl
    | some us => exact Int64.toInt_div_of_ne_right us 1000 (by decide)
  · show LastTold _ "" _ ((last? _ (earlier ++ [line])).getD "")
    rw [hother _ (by decide)]
    exact (lastTold_given?_iff (by decide) (fun _ _ => Option.some_inj) _ _ _).mpr rfl
  · show LastTold _ 0.0 _ ((last? _ (earlier ++ [line])).getD 0.0)
    rw [hother _ (by decide)]
    exact (lastTold_given?_iff (by decide) (fun _ _ => speed?_eq_some_iff) _ _ _).mpr rfl
  · have hend : (line' : String) → given? "progress" some line' = some "end" ↔
        Assigns line' "progress" "end" := fun line' => by
      simp [given?_eq_some_iff isKey_progress]
    simp only [told, List.any_eq_true, beq_iff_eq, hend]

/-- A snapshot is all that is reported. -/
theorem Snapshot.unique {earlier : List String} {line : String} {p q : Progress}
    (hp : Snapshot earlier line p) (hq : Snapshot earlier line q) : p = q := by
  obtain ⟨us, hus, hmillis⟩ := hp.outTimeMillis
  obtain ⟨us', hus', hmillis'⟩ := hq.outTimeMillis
  have hframe : p.frame = q.frame :=
    hp.frame.unique (by decide) (fun _ _ => Number.readNat?_eq_some_iff) hq.frame
  have hfps : p.fps = q.fps :=
    hp.fps.unique (by decide) (fun _ _ => Number.readFloat?_eq_some_iff) hq.fps
  have houtTimeMillis : p.outTimeMillis = q.outTimeMillis := by
    rw [lastTold_iff fun _ _ => micros?_eq_some_iff] at hus hus'
    rw [← Int64.toInt_inj, hmillis, hmillis', hus, hus']
  have houtTime : p.outTime = q.outTime :=
    hp.outTime.unique (by decide) (fun _ _ => Option.some_inj) hq.outTime
  have hspeed : p.speed = q.speed :=
    hp.speed.unique (by decide) (fun _ _ => speed?_eq_some_iff) hq.speed
  have hcomplete : p.isComplete = q.isComplete :=
    Bool.eq_iff_iff.mpr (hp.isComplete.trans hq.isComplete.symm)
  cases p
  cases q
  simp only [Progress.mk.injEq]
  exact ⟨hframe, hfps, houtTimeMillis, houtTime, hspeed, hcomplete⟩

/-- A report holds what the lines before its end tell, and stays where it is. -/
theorem getElem?_reports (before : List String) {line : String} (h : EndsReport line)
    (after : List String) :
    (ofLines (before ++ line :: after)).reports[before.countP (EndsReport ·)]? =
      some (told (before ++ [line])) := by
  obtain ⟨longer, hlonger⟩ : ∃ longer, (line :: after).inits.tail = [line] :: longer := by
    cases after with
    | nil => exact ⟨_, rfl⟩
    | cons => exact ⟨_, rfl⟩
  rw [ofLines_eq, reportEnds_append, hlonger, ← length_reportEnds]
  simp [h]

/-- The lines of a log, all of which are texts. -/
def Holds (bytes : Bytes) (lines : List String) : Prop :=
  (Text.lines bytes).map Text.strict? = lines.map some

theorem ofBytes_of_holds {bytes : Bytes} {lines : List String} (h : Holds bytes lines) :
    ofBytes bytes = ofLines lines := by
  rw [ofBytes, readableLines, h, List.takeWhile_eq_self_iff.mpr]
  · simp
  · simp

/-- **Progress and complaints are told apart.** However lines of progress and other lines
alternate, each line with the key `progress` gives a report, in their order, of what the
lines before it told last; and what is kept are the last forty lines that are neither
progress nor blank. So the reports depend on the lines of progress alone, and the tail on
the others. A run reports what its log gives, whether it exits, is killed or is stopped;
and one that goes on forever, what the lines give that have ended. -/
theorem progress_and_complaints :
    (∀ lines : List String,
      (ofLines lines).reports.length = lines.countP (EndsReport ·) ∧
      (∀ before line after, lines = before ++ line :: after → EndsReport line →
        ∃ p, (ofLines lines).reports[before.countP (EndsReport ·)]? = some p ∧
          Snapshot before line p) ∧
      (ofLines lines).tail = (lines.filter (IsComplaint ·)).rtake 40 ∧
      (ofLines lines).reports = (ofLines (lines.filter (IsProgress ·))).reports ∧
      (ofLines lines).tail = (ofLines (lines.filter (¬IsProgress ·))).tail) ∧
    (∀ bytes lines output timeout ending, Holds bytes lines →
      (ending = Ending.never → timeout ≠ none) →
      (Program.present bytes output ending).reports timeout = (ofLines lines).reports) ∧
    ∀ bytes lines output unended, Holds bytes lines → (∀ b ∈ bytes.getLast?, b = 0x0a) →
      0x0a ∉ unended →
      (Program.present (bytes ++ unended) output .never).reports none =
        (ofLines lines).reports := by
  refine ⟨?_, ?_, ?_⟩
  · intro lines
    refine ⟨?_, ?_, ?_, ?_, ?_⟩
    · rw [ofLines_eq, List.length_map, length_reportEnds]
    · rintro before line after rfl hends
      exact ⟨_, getElem?_reports before hends after, snapshot_told before hends⟩
    · rw [ofLines_eq]
    · exact (ofLines_filter_isProgress lines).2.symm
    · exact (tail_filter_not_isProgress lines).symm
  · intro bytes lines output timeout ending hlines hends
    have hheard : (Program.present bytes output ending).heard timeout = bytes := by
      cases ending with
      | never => exact if_pos (Option.isSome_iff_ne_none.mpr (hends rfl))
      | _ => rfl
    rw [Program.reports, hheard, ofBytes_of_holds hlines]
  · intro bytes lines output unended hlines hbytes hunended
    have hheard : (Program.present (bytes ++ unended) output .never).heard none = bytes :=
      Text.endedLines_append hbytes hunended
    rw [Program.reports, hheard, ofBytes_of_holds hlines]

/-- Values that can be read and values that cannot, a time below zero, a complaint, and two
reports. -/
def twoReports : List String :=
  ["frame=1", "fps=25", "speed=1.5x", "progress=continue", "[drawtext] no glyph", "frame=x",
    "speed=N/A", " out_time_us=-1999 ", "out_time=-00:00:00.001999", "progress=end"]

theorem progress_and_complaints_twoReports :
    Holds (Text.encode ("\n".intercalate twoReports)) twoReports ∧
    (∀ ending ∈ [Ending.exited 1, .killed, .never], ∃ p,
      ((Program.present (Text.encode ("\n".intercalate twoReports)) [] ending).reports
        (some 60))[1]? = some p ∧
      p.frame = 1 ∧ p.fps = 25.0 ∧ p.speed = 1.5 ∧ p.outTimeMillis.toInt = -1 ∧
      p.outTime = "-00:00:00.001999" ∧ p.isComplete = true) ∧
    (ofLines twoReports).tail = ["[drawtext] no glyph"] := by
  have hholds : Holds (Text.encode ("\n".intercalate twoReports)) twoReports := by
    unfold Holds
    decide +kernel
  obtain ⟨hlines, hrun, -⟩ := progress_and_complaints
  obtain ⟨-, hreports, htail, -, -⟩ := hlines twoReports
  have hends : EndsReport "progress=end" := by decide
  obtain ⟨p, hp, hsnapshot⟩ := hreports (twoReports.take 9) _ [] rfl hends
  refine ⟨hholds, ?_, ?_⟩
  · intro ending _
    rw [hrun _ _ [] (some 60) ending hholds (fun _ => by decide)]
    obtain rfl := hsnapshot.unique (snapshot_told _ hends)
    refine ⟨_, hp, ?_⟩
    decide +kernel
  · rw [htail]
    decide +kernel

end Log

end VideoGreeting.Engine
