import VideoGreeting.Production
import VideoGreeting.Proofs.Composition.Pads
import VideoGreeting.Proofs.Engine.Reports
import VideoGreeting.Proofs.Number.FloatSign
import VideoGreeting.Proofs.Production.Lifecycle
import VideoGreeting.Proofs.Timeline.Partition

/-!
# The time that is left

The seconds that are left come from a difference of two words: the length of the output
less what is there of it. Of what is there a log tells at most the thousandth part of the
greatest word, and the difference is taken only if it is above zero. So the difference can
leave the words at their low end only, and at no log it does so exactly if the length stays
above the least word by that thousandth part (`never_overflows_iff`). Then the milliseconds
are what is left in exact numbers, and none at all where that is below zero.

A length that is not below zero is always such a length, and a reel has no other. A command
may be given one far below zero, which is cut down to the least word.

Main theorem: `time_left`. That every length is safe is refuted in `not_time_left_exact`.
-/

namespace VideoGreeting

open Number (minInt64 maxInt64)

/-! ## Words -/

namespace Number

theorem Value.toInt64With_mem (round : Value → ℤ) (v : Value) :
    minInt64 ≤ v.toInt64With round ∧ v.toInt64With round ≤ maxInt64 := by
  unfold Value.toInt64With
  split
  · decide
  · split
    · decide
    · decide
  · unfold clampInt64 minInt64 maxInt64
    omega

theorem toInt_ofInt_of_mem {n : ℤ} (hlow : minInt64 ≤ n) (hhigh : n ≤ maxInt64) :
    (Int64.ofInt n).toInt = n :=
  Int64.toInt_ofInt_of_le hlow (by unfold maxInt64 at hhigh; omega)

theorem toInt_max_zero (a : Int64) : (max a 0).toInt = max 0 a.toInt := by
  show (if a ≤ 0 then 0 else a).toInt = max (0 : Int64).toInt a.toInt
  by_cases h : a ≤ 0
  · rw [if_pos h, max_eq_left (Int64.le_iff_toInt_le.mp h)]
  · have hlt : (0 : Int64).toInt < a.toInt := by rwa [Int64.le_iff_toInt_le, not_le] at h
    rw [if_neg h, max_eq_right hlt.le]

/-- Where something is taken off, a difference leaves the words at one end only. -/
theorem subInt64?_eq_none_iff {a b : Int64} (hb : 0 < b.toInt) :
    subInt64? a b = none ↔ a.toInt < minInt64 + b.toInt := by
  have hhigh : a.toInt ≤ maxInt64 := Int.lt_add_one_iff.mp a.toInt_lt
  rw [subInt64?, int64?_eq_none_iff]
  omega

end Number

namespace Engine

/-! ## Lengths -/

namespace Command

/-- The length that progress is measured by, in milliseconds: zero where none is set. -/
def totalMillis (c : Command) : ℤ := c.durationMillis?.getD 0

/-- The length as the word that it is passed on as. -/
def totalWord (c : Command) : Int64 := Int64.ofInt c.totalMillis

theorem totalMillis_mem (c : Command) : minInt64 ≤ c.totalMillis ∧ c.totalMillis ≤ maxInt64 := by
  unfold totalMillis durationMillis?
  cases c.duration with
  | none => decide
  | some seconds => exact Number.Value.toInt64With_mem _ _

/-- The word is the length itself. -/
theorem toInt_totalWord (c : Command) : c.totalWord.toInt = c.totalMillis :=
  Number.toInt_ofInt_of_mem c.totalMillis_mem.1 c.totalMillis_mem.2

theorem totalMillis_nonneg {c : Command}
    (h : ∀ seconds, c.duration = some seconds → ¬seconds < 0.0) : 0 ≤ c.totalMillis := by
  unfold totalMillis durationMillis?
  cases hseconds : c.duration with
  | none => decide
  | some seconds =>
      have hthousand : Number.NotNegative (1000.0 : Float).toModel.unpack :=
        Number.notNegative_of_not_lt (by decide +kernel)
      exact Number.toInt64With_nonneg
        ((Number.notNegative_of_not_lt (h seconds hseconds)).mul hthousand)

end Command

/-! ## Progress -/

namespace Progress

/-- Seconds can be told: something is there, and the speed is not at most zero. -/
def IsUnderWay (p : Progress) : Prop := ¬p.speed ≤ 0.0 ∧ 0 < p.outTimeMillis.toInt

instance (p : Progress) : Decidable p.IsUnderWay := inferInstanceAs (Decidable (_ ∧ _))

variable {p : Progress} {total : Int64}

theorem timeLeft_of_not_isUnderWay (h : ¬p.IsUnderWay) : p.timeLeft total = .unknown := by
  rw [IsUnderWay, not_and_or, not_not, not_lt] at h
  refine if_pos ?_
  rw [Bool.or_eq_true, decide_eq_true_iff, decide_eq_true_iff, Int64.le_iff_toInt_le]
  exact h

theorem timeLeft_of_isUnderWay (h : p.IsUnderWay) :
    p.timeLeft total =
      match Number.subInt64? total p.outTimeMillis with
      | some left => .seconds (toFloat (max left 0) / 1000.0 / p.speed)
      | none => .overflow := by
  refine if_neg ?_
  rw [Bool.or_eq_true, decide_eq_true_iff, decide_eq_true_iff, Int64.le_iff_toInt_le]
  rintro (hspeed | hout)
  · exact h.1 hspeed
  · exact absurd hout (not_le.mpr h.2)

/-- What is told of the time that is left. -/
theorem timeLeft_eq (p : Progress) (total : Int64) :
    p.timeLeft total =
      if ¬p.IsUnderWay then .unknown
      else if total.toInt < minInt64 + p.outTimeMillis.toInt then .overflow
      else .seconds
        (Float.ofInt (max 0 (total.toInt - p.outTimeMillis.toInt)) / 1000.0 / p.speed) := by
  by_cases hway : p.IsUnderWay
  · rw [if_neg (not_not.mpr hway), timeLeft_of_isUnderWay hway]
    cases hleft : Number.subInt64? total p.outTimeMillis with
    | none => rw [if_pos ((Number.subInt64?_eq_none_iff hway.2).mp hleft)]
    | some left =>
        have hword : ¬total.toInt < minInt64 + p.outTimeMillis.toInt := by
          rw [← Number.subInt64?_eq_none_iff hway.2, hleft]
          exact Option.some_ne_none left
        have hexact := Number.int64?_eq_some_iff.mp hleft
        rw [if_neg hword, ← hexact, ← Number.toInt_max_zero]
        rfl
  · rw [if_pos hway, timeLeft_of_not_isUnderWay hway]

theorem timeLeft_eq_overflow_iff :
    p.timeLeft total = .overflow ↔
      p.IsUnderWay ∧ total.toInt < minInt64 + p.outTimeMillis.toInt := by
  rw [timeLeft_eq]
  split_ifs with hway hlow
  · exact iff_of_true rfl ⟨hway, hlow⟩
  · exact iff_of_false nofun fun h => hlow h.2
  · exact iff_of_false nofun fun h => hway h.1

end Progress

/-! ## What a log can tell -/

theorem outTimeMillis_told_le (lines : List String) :
    (told lines).outTimeMillis.toInt ≤ maxInt64 / 1000 := by
  unfold told
  dsimp only
  cases last? micros? lines with
  | none => decide
  | some us =>
      have hmax : us.toInt ≤ maxInt64 := Int.lt_add_one_iff.mp us.toInt_lt
      calc (us / 1000).toInt
        _ = us.toInt.tdiv 1000 := Int64.toInt_div_of_ne_right us 1000 (by decide)
        _ ≤ maxInt64.tdiv 1000 := Int.tdiv_le_tdiv (by decide) hmax
        _ = maxInt64 / 1000 := rfl

/-- As much as a log can tell to be there. -/
def farthest : List String := ["out_time_us=9223372036854775807", "speed=1x"]

theorem told_farthest :
    (told farthest).IsUnderWay ∧ (told farthest).outTimeMillis.toInt = maxInt64 / 1000 := by
  decide +kernel

/-- **Which lengths are safe.** -/
theorem never_overflows_iff (total : Int64) :
    (∀ lines, (told lines).timeLeft total ≠ .overflow) ↔
      minInt64 + maxInt64 / 1000 ≤ total.toInt := by
  constructor
  · intro h
    obtain ⟨hway, hout⟩ := told_farthest
    have hlow : ¬total.toInt < minInt64 + (told farthest).outTimeMillis.toInt := fun hlow =>
      h farthest (Progress.timeLeft_eq_overflow_iff.mpr ⟨hway, hlow⟩)
    rwa [hout, not_lt] at hlow
  · intro h lines hover
    have hlow := (Progress.timeLeft_eq_overflow_iff.mp hover).2
    have hout := outTimeMillis_told_le lines
    omega

/-! ## Reels -/

/-- A reel that is planned has a length that is not below zero. -/
theorem duration_of_plan {studio : Studio} {selection : Selection} {p : Production.Plan}
    (h : Production.plan studio selection = .ok p) (output : Path) (seconds : Float)
    (hseconds : (Job.of p.resolved p.graph studio.settings output).command.duration =
      some seconds) : ¬seconds < 0.0 := by
  obtain rfl : studio.settings.duration = seconds := Option.some.inj hseconds
  simp only [Production.plan, Disk.bind_eq_ok, Disk.mapError_eq_ok, Disk.pure_eq_ok] at h
  obtain ⟨r, -, g, hgraph, rfl⟩ := h
  have hduration := (Composition.of_graph_eq_ok hgraph).2
  rw [Timeline.isPositive, Bool.and_eq_true, decide_eq_true_iff] at hduration
  exact Number.not_lt_zero_of_zero_lt hduration.2

/-- **The time that is left.** Nothing is told before the run is under way. Then the
difference is no word exactly if the length lies above the least word by less than what is
there; where it is a word, the seconds come from the milliseconds that are left in exact
numbers, and from zero where those are below zero. The difference is a word whatever a log
tells exactly if the length lies above the least word by the thousandth part of the
greatest. So it is where no length is set, or one that is not below zero, and so it is for
every reel. -/
theorem time_left (c : Command) :
    (∀ p : Progress, p.timeLeft c.totalWord =
      if ¬p.IsUnderWay then .unknown
      else if c.totalMillis < minInt64 + p.outTimeMillis.toInt then .overflow
      else .seconds
        (Float.ofInt (max 0 (c.totalMillis - p.outTimeMillis.toInt)) / 1000.0 / p.speed)) ∧
    ((∀ lines, (Log.ofLines lines).progress.timeLeft c.totalWord ≠ .overflow) ↔
      minInt64 + maxInt64 / 1000 ≤ c.totalMillis) ∧
    ((∀ seconds, c.duration = some seconds → ¬seconds < 0.0) →
      ∀ lines, (Log.ofLines lines).progress.timeLeft c.totalWord ≠ .overflow) ∧
    ∀ studio selection p output, Production.plan studio selection = .ok p →
      c = (Job.of p.resolved p.graph studio.settings output).command →
      ∀ lines, (Log.ofLines lines).progress.timeLeft c.totalWord ≠ .overflow := by
  have htold : ∀ lines, (Log.ofLines lines).progress = told lines := fun lines => by
    rw [Log.ofLines_eq]
  have hsafe := never_overflows_iff c.totalWord
  simp only [htold]
  rw [c.toInt_totalWord] at hsafe
  have hnonneg : (∀ seconds, c.duration = some seconds → ¬seconds < 0.0) →
      ∀ lines, (told lines).timeLeft c.totalWord ≠ .overflow := by
    intro hseconds
    have hlow := Command.totalMillis_nonneg hseconds
    refine hsafe.mpr (le_trans ?_ hlow)
    decide
  refine ⟨?_, hsafe, hnonneg, ?_⟩
  · intro p
    rw [Progress.timeLeft_eq, c.toInt_totalWord]
  · rintro studio selection p output hplan rfl
    exact hnonneg (duration_of_plan hplan output)

/-- A third of a reel, made twice as fast as it plays. -/
def tenSecondsMade : List String := ["out_time_us=10000000", "speed=2x"]

theorem time_left_oneUpload :
    ∃ p, Production.plan Production.smallStudio Production.oneUpload = .ok p ∧
      let c := (Job.of p.resolved p.graph Production.smallStudio.settings ⟨"reel.mp4"⟩).command
      (Log.ofLines tenSecondsMade).progress.timeLeft c.totalWord = .seconds 10.0 ∧
      ∀ lines, (Log.ofLines lines).progress.timeLeft c.totalWord ≠ .overflow := by
  have hplans : (Production.plan Production.smallStudio Production.oneUpload).isOk = true := by
    decide +kernel
  rcases hplan : Production.plan Production.smallStudio Production.oneUpload with failure | p
  · rw [hplan] at hplans
    cases hplans
  · refine ⟨p, rfl, ?_⟩
    intro c
    obtain ⟨hseconds, -, -, hreels⟩ := time_left c
    have hlength : c.totalMillis = 30000 := by
      show (Command.lasting { output := ⟨"reel.mp4"⟩ } 30.0).totalMillis = 30000
      decide +kernel
    have hway : (Log.ofLines tenSecondsMade).progress.IsUnderWay := by decide +kernel
    have hmade : (Log.ofLines tenSecondsMade).progress.outTimeMillis.toInt = 10000 := by
      decide +kernel
    have hleft : Float.ofInt (max 0 (30000 - 10000)) / 1000.0 /
        (Log.ofLines tenSecondsMade).progress.speed = 10.0 := by
      decide +kernel
    refine ⟨?_, hreels _ _ p _ hplan rfl⟩
    rw [hseconds, hlength, hmade, if_neg (not_not.mpr hway), if_neg (by decide), hleft]

/-- A length so far below zero that it is cut down to the least word. -/
def farBelowZero : Command := Command.lasting { output := ⟨"reel.mp4"⟩ } (-1e16)

/-- The first millisecond. -/
def firstMillisecond : List String := ["out_time_us=1000", "speed=1x"]

/-- Some differences are no words, and then no time is told. -/
theorem not_time_left_exact :
    ¬(∀ (c : Command) (lines : List String),
        (Log.ofLines lines).progress.timeLeft c.totalWord ≠ .overflow) ∧
    ¬(∀ (c : Command) (lines : List String) (p : Progress),
        (Log.ofLines lines).progress = p → p.IsUnderWay →
        p.timeLeft c.totalWord = .seconds
          (Float.ofInt (max 0 (c.totalMillis - p.outTimeMillis.toInt)) / 1000.0 / p.speed)) := by
  have hway : (Log.ofLines firstMillisecond).progress.IsUnderWay := by decide +kernel
  have hover : (Log.ofLines firstMillisecond).progress.timeLeft farBelowZero.totalWord =
      .overflow := Progress.timeLeft_eq_overflow_iff.mpr ⟨hway, by decide +kernel⟩
  constructor
  · intro h
    exact h farBelowZero firstMillisecond hover
  · intro h
    have hseconds := h farBelowZero firstMillisecond _ rfl hway
    rw [hover] at hseconds
    cases hseconds

end Engine

end VideoGreeting
