import VideoGreeting.Proofs.Composition.Accepted
import VideoGreeting.Proofs.Composition.Divisors
import VideoGreeting.Proofs.Production.Inputs

/-!
# Lengths that come to nothing

Settings are accepted with any length above zero, and a length is printed as thousandths of
a second. So an accepted length may be printed as zero: then the styles that depend on it
divide by zero, and the streams that are bounded by it end at once.

Main theorem: `zeros_of_check`. What is printed as zero is settled by the lengths alone,
in both directions; `not_nonzero_of_check` is a reel with a divisor that is zero.
-/

namespace VideoGreeting.Job

open FilterGraph Number
open Engine (Command optionSeconds)

/-! ## Bounds -/

/-- The value behind the last `-t` among some options, which is the one that counts. -/
def lastTime? : List String → Option String
  | [] => none
  | option :: rest => (lastTime? rest).or (if option = "-t" then rest.head? else none)

theorem lastTime?_append (options : List String) (time : String) :
    lastTime? (options ++ ["-t", time]) = some time := by
  induction options with
  | nil => simp [lastTime?]
  | cons option options ih => rw [List.cons_append, lastTime?, ih, Option.some_or]

/-- The bounds of a command: those of its inputs, and that of its output. -/
def timesOf (c : Command) : List String :=
  c.inputs.filterMap (fun i => lastTime? i.options) ++ (lastTime? c.outputOptions).toList

/-- **The bounds of a job.** The background and the output are bounded by the length of the
reel, whatever the encoding carries, and every image by that of a clip. -/
theorem timesOf_commandOf (r : Resolved) (g : Graph) (s : Settings) (output : Path) :
    timesOf (commandOf r g s output) =
      optionSeconds s.duration ::
        (r.images.map fun _ => optionSeconds s.clipDuration) ++ [optionSeconds s.duration] := by
  have hinputs : (commandOf r g s output).inputs.filterMap (fun i => lastTime? i.options) =
      optionSeconds s.duration :: r.images.map fun _ => optionSeconds s.clipDuration := by
    have hlooped (time : String) : lastTime? ["-loop", "1", "-t", time] = some time :=
      lastTime?_append ["-loop", "1"] time
    have himages : (r.images.map fun image => ({ path := image.path, options :=
          ["-loop", "1", "-t", optionSeconds s.clipDuration] } : Engine.Input)).filterMap
          (fun i => lastTime? i.options) =
        r.images.map fun _ => optionSeconds s.clipDuration := by
      simp [hlooped]
    have hplain : (({ path := r.song } : Engine.Input) ::
        if s.auxiliaryInput then [{ path := r.auxiliaryImage }] else []).filterMap
          (fun i => lastTime? i.options) = [] := by
      by_cases haux : s.auxiliaryInput = true
      · simp [haux, lastTime?]
      · simp [haux, lastTime?]
    rw [commandOf_inputs, inputsOf, List.filterMap_append, hplain, List.append_nil,
      List.filterMap_cons, himages, hlooped]
  have houtput : lastTime? (commandOf r g s output).outputOptions =
      some (optionSeconds s.duration) := lastTime?_append _ _
  rw [timesOf, hinputs, houtput]
  rfl

/-! ## What is printed as zero -/

/-- Both lengths of accepted settings are numbers above zero. -/
theorem lengths_of_check {s : Settings} (h : s.check = .ok ()) :
    ∃ length clip, (Value.ofFloat s.duration).rational? = some length ∧ 0 < length ∧
      (Value.ofFloat s.clipDuration).rational? = some clip ∧ 0 < clip := by
  have hclip : Timeline.isPositive s.clipDuration = true := by
    unfold Settings.check at h
    rw [if_neg (by simp [Composition.isPositive_of_check h])] at h
    split at h
    next => cases h
    next hclip => simpa using hclip
  obtain ⟨length, hlength, hpos⟩ :=
    Timeline.rational?_of_isPositive (Composition.isPositive_of_check h)
  obtain ⟨clip, hclip, hpos'⟩ := Timeline.rational?_of_isPositive hclip
  exact ⟨length, clip, hlength, hpos, hclip, hpos'⟩

/-- A bound is a number, and zero if its length is printed as zero. -/
theorem zero_mem_timesOf_iff {r : Resolved} {s : Settings} {length clip : ℚ}
    (himages : r.images ≠ [])
    (hlength : (Value.ofFloat s.duration).rational? = some length) (hpos : 0 < length)
    (hclip : (Value.ofFloat s.clipDuration).rational? = some clip) (hpos' : 0 < clip)
    (g : Graph) (output : Path) :
    (∀ time ∈ timesOf (commandOf r g s output), (readSigned? time.toList).isSome = true) ∧
      (some 0 ∈ (timesOf (commandOf r g s output)).map (fun time => readSigned? time.toList) ↔
        length ≤ 1 / 2000 ∨ clip ≤ 1 / 2000) := by
  have hread : readSigned? (optionSeconds s.duration).toList = some (printed length) :=
    readSigned?_fixedText hpos hlength
  have hread' : readSigned? (optionSeconds s.clipDuration).toList = some (printed clip) :=
    readSigned?_fixedText hpos' hclip
  have hmem (time : String) : time ∈ timesOf (commandOf r g s output) ↔
      time = optionSeconds s.duration ∨ time = optionSeconds s.clipDuration := by
    rw [timesOf_commandOf, List.mem_append, List.mem_cons, List.mem_map, List.mem_singleton]
    constructor
    · rintro ((rfl | ⟨-, -, rfl⟩) | rfl)
      · exact .inl rfl
      · exact .inr rfl
      · exact .inl rfl
    · rintro (rfl | rfl)
      · exact .inr rfl
      · obtain ⟨image, himage⟩ := List.exists_mem_of_ne_nil _ himages
        exact .inl (.inr ⟨image, himage, rfl⟩)
  constructor
  · intro time htime
    rcases (hmem time).mp htime with rfl | rfl
    · rw [hread]
      rfl
    · rw [hread']
      rfl
  · rw [← printed_eq_zero_iff hpos.le, ← printed_eq_zero_iff hpos'.le]
    simp [hmem, or_and_right, exists_or, hread, hread']

/-- **What accepted lengths are printed as.** A reel that divides by zero sweeps, and is
half a thousandth of a second long at most, or zooms, and is three times as long at most.
The bounds of its streams and of the output are zero if the length that they are taken
from is half a thousandth at most. -/
theorem zeros_of_check {s : Settings} (h : s.check = .ok ()) :
    ∃ length clip, (Value.ofFloat s.duration).rational? = some length ∧
      (Value.ofFloat s.clipDuration).rational? = some clip ∧ 0 < length ∧ 0 < clip ∧
      ∀ (r : Resolved) (output : Path), r.images ≠ [] →
        ∃ g, Composition.graph r s = .ok g ∧
          (∀ i < r.clipCount,
            (∀ d ∈ Composition.divisorsOf g i, (readSigned? d).isSome = true) ∧
            (some 0 ∈ (Composition.divisorsOf g i).map readSigned? ↔
              (r.style = .slide ∨ r.style = .bounce) ∧ length ≤ 1 / 2000 ∨
                r.style = .zoom ∧ length ≤ 3 / 2000)) ∧
          (∀ time ∈ timesOf (Job.of r g s output).command,
            (readSigned? time.toList).isSome = true) ∧
          (some 0 ∈ (timesOf (Job.of r g s output).command).map
              (fun time => readSigned? time.toList) ↔
            length ≤ 1 / 2000 ∨ clip ≤ 1 / 2000) := by
  obtain ⟨length, clip, hlength, hpos, hclip, hpos'⟩ := lengths_of_check h
  refine ⟨length, clip, hlength, hclip, hpos, hpos', ?_⟩
  intro r output himages
  have hgraph := Composition.graph_eq_ok himages (Composition.isPositive_of_check h)
  refine ⟨_, hgraph, ?_, zero_mem_timesOf_iff himages hlength hpos hclip hpos' _ output⟩
  intro i hi
  obtain ⟨hread, hzero⟩ := Composition.zero_mem_motionDivisors_iff r.style hpos hlength
  rw [Composition.divisorsOf_graph hgraph hi, List.forall_mem_map, List.map_map]
  exact ⟨hread, hzero⟩

/-- With the settings that nobody changed nothing is printed as zero. -/
theorem zeros_of_check_standard :
    Settings.check {} = .ok () ∧
      ∃ g, Composition.graph Composition.threeSlides {} = .ok g ∧
        some 0 ∉ (Composition.divisorsOf g 2).map readSigned? ∧
        some 0 ∉ (timesOf (Job.of Composition.threeSlides g {} ⟨"reel.mp4"⟩).command).map
          (fun time => readSigned? time.toList) := by
  have hcheck : Settings.check {} = .ok () := rfl
  have hthirty : (Value.ofFloat ({} : Settings).duration).rational? = some 30 := by decide +kernel
  have hfifteen : (Value.ofFloat ({} : Settings).clipDuration).rational? = some 15 := by
    decide +kernel
  obtain ⟨length, clip, hlength, hclip, -, -, hreel⟩ := zeros_of_check hcheck
  obtain rfl := Option.some.inj (hthirty.symm.trans hlength)
  obtain rfl := Option.some.inj (hfifteen.symm.trans hclip)
  obtain ⟨g, hgraph, hdivisors, -, htimes⟩ :=
    hreel Composition.threeSlides ⟨"reel.mp4"⟩ (by decide)
  refine ⟨hcheck, g, hgraph, ?_, ?_⟩
  · rw [(hdivisors 2 (by decide)).2]
    norm_num
  · rw [htimes]
    norm_num

/-- Settings that are accepted, with a reel of a tenth of a thousandth of a second. -/
def instant : Settings := { duration := 0.0001, clipDuration := 0.0001 }

/-- **Not every accepted reel is free of divisions by zero**, nor of bounds that are zero. -/
theorem not_nonzero_of_check :
    ¬ ∀ (s : Settings) (r : Resolved) (g : Graph) (output : Path), s.check = .ok () →
      r.images ≠ [] → Composition.graph r s = .ok g →
        (∀ i < r.clipCount, some 0 ∉ (Composition.divisorsOf g i).map readSigned?) ∧
        some 0 ∉ (timesOf (Job.of r g s output).command).map
          (fun time => readSigned? time.toList) := by
  intro h
  have hcheck : instant.check = .ok () := by rfl
  have himages : Composition.threeSlides.images ≠ [] := by decide
  have hgraph := Composition.graph_eq_ok himages (Composition.isPositive_of_check hcheck)
  have hnone := (h instant Composition.threeSlides _ ⟨"reel.mp4"⟩ hcheck himages hgraph).1 0
    (by decide)
  obtain ⟨length, -, hlength, hpos, -⟩ := lengths_of_check hcheck
  have hshort : (Value.ofFloat instant.duration).rational?.all (· ≤ 1 / 2000) = true := by
    decide +kernel
  rw [hlength] at hshort
  have hzero := (Composition.zero_mem_motionDivisors_iff .slide hpos hlength).2.mpr
    (.inl ⟨.inl rfl, by simpa using hshort⟩)
  rw [Composition.divisorsOf_graph hgraph (by decide), List.map_map] at hnone
  exact hnone hzero

end VideoGreeting.Job
