import VideoGreeting.Proofs.Composition.Pads
import VideoGreeting.Proofs.Engine.Reading
import VideoGreeting.Proofs.Production.Inputs

/-!
# The arguments of a job as the engine reads them

Which input a pad of the graph stands for is settled by the order in which the
inputs are declared. Here the argument list of a job is read as the engine reads
it, and what is read is held against the graph: pad `0` is the background, pad
`i + 1` is image `i`, and the sound comes from the song.

The encoding may carry arguments of its own, which are passed on as they are. So
the list is read up to the encoding first; whatever follows leaves these inputs
where they are, and only an `-i` among those arguments adds one.

Main theorem: `arguments_read`.
-/

namespace VideoGreeting.Job

open Engine FilterGraph

variable {t : OptionTable} {r : Resolved} {g : Graph} {s : Settings} {output : Path}

/-! ## Up to the encoding -/

/-- The arguments before those of the encoding. -/
def front (r : Resolved) (g : Graph) (s : Settings) : List String :=
  Command.globalOptions ++ (inputsOf r s).flatMap Command.inputArguments ++
    ["-filter_complex", g.script, "-map", g.output.text,
      "-map", (Label.inputAudio (songInput r.clipCount)).name]

/-- What is read of them: every input with its options, and two streams that are
taken into the output. -/
def frontReading (r : Resolved) (g : Graph) (s : Settings) : Reading where
  wholeRun := ["-y", "-v", "error", "-progress", "pipe:2", "-filter_complex", g.script]
  inputs := inputsOf r s
  pending := ["-map", g.output.text, "-map", (Label.inputAudio (r.clipCount + 1)).name]

/-- **The arguments before the encoding.** -/
theorem read_front (t : OptionTable) (r : Resolved) (g : Graph) (s : Settings) :
    t.read (front r g s) = frontReading r g s := by
  have hglobal : t.read Command.globalOptions =
      { wholeRun := ["-y", "-v", "error", "-progress", "pipe:2"] } := by
    show t.readOn {} ["-y", "-v", "error", "-progress", "pipe:2"] = _
    rw [OptionTable.readOn_flag rfl (by decide), OptionTable.readOn_option rfl (by decide),
      OptionTable.readOn_option rfl (by decide)]
    rfl
  have hoptions : ∀ i ∈ inputsOf r s,
      i.options = [] ∨ ∃ seconds, i.options = ["-loop", "1", "-t", seconds] := by
    intro i hi
    unfold inputsOf at hi
    rcases List.mem_append.mp hi with hlooped | hplain
    · rcases List.mem_cons.mp hlooped with rfl | himage
      · exact .inr ⟨_, rfl⟩
      · obtain ⟨image, -, rfl⟩ := List.mem_map.mp himage
        exact .inr ⟨_, rfl⟩
    · left
      by_cases haux : s.auxiliaryInput = true
      · simp only [haux, if_true, List.mem_cons, List.not_mem_nil, or_false] at hplain
        rcases hplain with rfl | rfl <;> rfl
      · simp only [haux, Bool.false_eq_true, if_false, List.mem_singleton] at hplain
        rw [hplain]
  unfold front
  rw [OptionTable.read, OptionTable.readOn_append, OptionTable.readOn_append]
  show t.readOn (t.readOn (t.read Command.globalOptions) _) _ = _
  rw [hglobal, OptionTable.readOn_inputArguments hoptions rfl rfl,
    OptionTable.readOn_option rfl (by decide), OptionTable.readOn_option rfl (by decide),
    OptionTable.readOn_option rfl (by decide)]
  rfl

/-! ## From the encoding on -/

/-- A number of seconds is not `-i`. -/
theorem optionSeconds_ne (seconds : Float) : optionSeconds seconds ≠ "-i" := by
  intro h
  have hchars : Number.fixed 3 (.ofFloat seconds) = ['-', 'i'] := by
    rw [← String.toList_inj] at h
    simpa [optionSeconds, Number.fixedText] using h
  cases hvalue : Number.Value.ofFloat seconds with
  | nan =>
      rw [hvalue] at hchars
      exact absurd hchars (by decide)
  | infinite negative =>
      rw [hvalue] at hchars
      cases negative <;> exact absurd hchars (by decide)
  | finite negative m e =>
      -- a decimal has a point
      have hpoint : '.' ∈ Number.fixed 3 (.ofFloat seconds) := by
        rw [hvalue]
        unfold Number.fixed Number.signed Number.positional
        cases negative <;> simp
      rw [hchars] at hpoint
      exact absurd hpoint (by decide)

/-- The options that an encoding sets in any case, with their values. -/
def fieldsOf (e : Encoding) : List (String × String) :=
  [("-c:v", e.codec), ("-c:a", e.audioCodec), ("-pix_fmt", e.pixelFormat),
    ("-b:v", e.videoBitrate), ("-maxrate", e.maxRate), ("-bufsize", e.bufferSize),
    ("-b:a", e.audioBitrate), ("-ac", toString e.audioChannels),
    ("-r", toString e.framesPerSecond), ("-preset", e.preset)]

theorem arguments_encoding (e : Encoding) :
    e.arguments = (if e.shortest then ["-shortest"] else []) ++
      (fieldsOf e).flatMap (fun o => [o.1, o.2]) ++ e.extraArguments := rfl

/-- The fields of an encoding declare no input, whatever their values are. -/
theorem readOn_encoding (e : Encoding) {before : Reading} (hbefore : before.awaiting = none) :
    ∃ behind : Reading, behind.inputs = before.inputs ∧ behind.awaiting = none ∧
      t.readOn before e.arguments = t.readOn behind e.extraArguments := by
  have hoptions : ∀ o ∈ fieldsOf e, o.1 ∈ reelOptions := by
    simp [fieldsOf, reelOptions]
  rw [arguments_encoding]
  by_cases hshortest : e.shortest = true
  · obtain ⟨hinputs, hawaiting⟩ :=
      t.readOn_options hoptions (before.awaiting_takeOption "-shortest" [])
    refine ⟨_, hinputs.trans (before.inputs_takeOption "-shortest" []), hawaiting, ?_⟩
    rw [if_pos hshortest, List.append_assoc, List.singleton_append,
      OptionTable.readOn_flag hbefore (by decide), OptionTable.readOn_append]
  · obtain ⟨hinputs, hawaiting⟩ := t.readOn_options hoptions hbefore
    refine ⟨_, hinputs, hawaiting, ?_⟩
    rw [if_neg hshortest, List.nil_append, OptionTable.readOn_append]

/-- What is read ahead of the encoding comes first in the end. -/
theorem prefix_inputs_read (arguments : List String) :
    inputsOf r s <+: (t.read (front r g s ++ arguments)).inputs := by
  have hfront : t.readOn {} (front r g s) = frontReading r g s := read_front t r g s
  rw [OptionTable.read, OptionTable.readOn_append, hfront]
  show (frontReading r g s).inputs <+: _
  exact OptionTable.prefix_inputs_readOn arguments

/-- Only an encoding that carries `-i` declares further inputs. -/
theorem inputs_read_of_not_mem (hextra : "-i" ∉ s.encoding.extraArguments) :
    (t.read (front r g s ++ s.encoding.arguments ++
      ["-t", optionSeconds s.duration, output.text])).inputs = inputsOf r s := by
  have hfront : t.readOn {} (front r g s) = frontReading r g s := read_front t r g s
  obtain ⟨behind, hinputs, hawaiting, hfields⟩ :=
    readOn_encoding (t := t) s.encoding (show (frontReading r g s).awaiting = none from rfl)
  have hrest : "-i" ∉ s.encoding.extraArguments ++ ["-t", optionSeconds s.duration] := by
    have hseconds := optionSeconds_ne s.duration
    simp [hextra, Ne.symm hseconds]
  obtain ⟨hkept, hopen⟩ :=
    OptionTable.inputs_readOn_of_not_mem (t := t) hrest (show behind.awaiting ≠ some "-i" by
      rw [hawaiting]
      exact nofun)
  -- the output path comes last, where only an open `-i` could take it
  have hlast := OptionTable.inputs_readOne (t := t) hopen output.text
  rw [OptionTable.read, List.append_assoc, OptionTable.readOn_append, hfront,
    OptionTable.readOn_append, hfields, ← OptionTable.readOn_append]
  show (t.readOn behind (_ ++ ["-t", _, output.text])).inputs = _
  rw [show ["-t", optionSeconds s.duration, output.text] =
    ["-t", optionSeconds s.duration] ++ [output.text] from rfl, ← List.append_assoc,
    OptionTable.readOn_append, OptionTable.readOn_cons, OptionTable.readOn_nil, hlast, hkept,
    hinputs]
  rfl

/-! ## What the pads stand for -/

/-- The input that a label stands for among declared inputs. -/
def denoted? (inputs : List Input) (l : Label) : Option Input := l.input?.bind (inputs[·]?)

theorem denoted?_inputVideo (inputs : List Input) (n : Nat) :
    denoted? inputs (.inputVideo n) = inputs[n]? := by
  simp [denoted?]

theorem denoted?_inputAudio (inputs : List Input) (n : Nat) :
    denoted? inputs (.inputAudio n) = inputs[n]? := by
  simp [denoted?]

/-- The arguments of a job, held against its graph. -/
structure ReadsAs (t : OptionTable) (r : Resolved) (g : Graph) (s : Settings) (output : Path)
    (arguments : List String) : Prop where
  /-- The encoding comes behind the inputs, the graph and the streams that are taken. -/
  parts : arguments =
    front r g s ++ s.encoding.arguments ++ ["-t", optionSeconds s.duration, output.text]
  /-- Ahead of it the inputs are declared, and two streams are taken. -/
  ahead : t.read (front r g s) = frontReading r g s
  /-- Whatever the encoding carries, these inputs come first. -/
  first : inputsOf r s <+: (t.read arguments).inputs
  /-- They are all, unless the encoding carries further ones. -/
  all : "-i" ∉ s.encoding.extraArguments → (t.read arguments).inputs = inputsOf r s
  count : (inputsOf r s).length = r.clipCount + if s.auxiliaryInput then 3 else 2
  /-- The graph reads the pictures of the first inputs, each once. -/
  pads : g.pads = (List.range (r.clipCount + 1)).map .inputVideo
  background : denoted? (inputsOf r s) (.inputVideo 0) =
    some { path := r.background, options := ["-loop", "1", "-t", optionSeconds s.duration] }
  images : ∀ i (hi : i < r.images.length), denoted? (inputsOf r s) (.inputVideo (i + 1)) =
    some { path := r.images[i].path, options := ["-loop", "1", "-t", optionSeconds s.clipDuration] }
  song : denoted? (inputsOf r s) (.inputAudio (r.clipCount + 1)) = some { path := r.song }
  /-- Neither a pad nor a stream that is taken stands for the auxiliary image. -/
  auxiliary : ∀ l ∈ g.output :: .inputAudio (r.clipCount + 1) :: g.pads,
    l.input? ≠ some (r.clipCount + 2)
  last : arguments.getLast? = some output.text

/-- **How the engine reads a job.** The pads of the graph, the streams that are
taken and the inputs that are declared agree: there is one input for the
background, one for every image in the order of upload and one for the song, and
the auxiliary image comes last if it is wanted and is not used. -/
theorem arguments_read (t : OptionTable) (output : Path)
    (hgraph : Composition.graph r s = .ok g) :
    ReadsAs t r g s output (Job.of r g s output).command.arguments := by
  have hparts : (Job.of r g s output).command.arguments =
      front r g s ++ s.encoding.arguments ++ ["-t", optionSeconds s.duration, output.text] :=
    arguments_commandOf r g s output
  have hpads := Composition.pads_graph hgraph
  have houtput : g.output.input? = none := by
    rw [Composition.output_graph hgraph]
    exact Label.input?_eq_none Label.isPad_background
  rw [hparts]
  refine
    { parts := rfl
      ahead := read_front t r g s
      first := ?_
      all := inputs_read_of_not_mem
      count := length_inputsOf r s
      pads := hpads
      background := ?_
      images := ?_
      song := ?_
      auxiliary := ?_
      last := ?_ }
  · rw [List.append_assoc]
    exact prefix_inputs_read _
  · rw [denoted?_inputVideo]
    rfl
  · intro i hi
    rw [denoted?_inputVideo, inputsOf, List.cons_append, List.getElem?_cons_succ,
      List.getElem?_append_left (by simpa using hi)]
    simp [hi]
  · rw [denoted?_inputAudio, inputsOf, List.cons_append, List.getElem?_cons_succ,
      List.getElem?_append_right (by simp [Resolved.clipCount])]
    simp [Resolved.clipCount]
  · intro l hl
    rcases List.mem_cons.mp hl with rfl | hl
    · rw [houtput]
      intro h
      cases h
    rcases List.mem_cons.mp hl with rfl | hl
    · rw [Label.input?_inputAudio]
      simp
    · rw [hpads] at hl
      obtain ⟨n, hn, rfl⟩ := List.mem_map.mp hl
      have hless := List.mem_range.mp hn
      rw [Label.input?_inputVideo, Ne, Option.some.injEq]
      omega
  · simp

/-! ## Reels with one image -/

/-- A reel with one image. -/
def oneFade : Resolved where
  background := ⟨"assets/backgrounds/sea.jpg"⟩
  song := ⟨"assets/songs/joy.mp3"⟩
  font := ⟨"assets/public/ktav.otf"⟩
  auxiliaryImage := ⟨"assets/public/test.png"⟩
  style := .fade
  caption := "mazal tov"
  images := [⟨⟨"uploads/1"⟩, "me.jpg"⟩]

theorem arguments_read_oneFade :
    ∃ g, Composition.graph oneFade {} = .ok g ∧
      ReadsAs .standard oneFade g {} ⟨"reel.mp4"⟩
        (Job.of oneFade g {} ⟨"reel.mp4"⟩).command.arguments := by
  have hgraph := Composition.graph_eq_ok (r := oneFade) (s := {}) (by decide) (by decide)
  exact ⟨_, hgraph, arguments_read .standard ⟨"reel.mp4"⟩ hgraph⟩

/-- Settings whose encoding carries one more input. -/
def oneMoreInput : Settings := { encoding := { extraArguments := ["-i", "more.png"] } }

/-- **An encoding may add an input.** What it carries is passed on as it is, so the
engine may have more inputs than the reel declares. -/
theorem length_inputs_oneMoreInput :
    ∃ g, Composition.graph oneFade oneMoreInput = .ok g ∧
      (OptionTable.standard.read
        (Job.of oneFade g oneMoreInput ⟨"reel.mp4"⟩).command.arguments).inputs.length ≠
        oneFade.clipCount + if oneMoreInput.auxiliaryInput then 3 else 2 := by
  have hgraph := Composition.graph_eq_ok (r := oneFade) (s := oneMoreInput) (by decide) (by decide)
  refine ⟨_, hgraph, ?_⟩
  generalize ({ fragments := _, output := .background } : Graph) = g
  have hfront := read_front .standard oneFade g oneMoreInput
  obtain ⟨behind, hinputs, hawaiting, hfields⟩ :=
    readOn_encoding (t := .standard) oneMoreInput.encoding
      (show (frontReading oneFade g oneMoreInput).awaiting = none from rfl)
  rw [OptionTable.read] at hfront
  rw [show (Job.of oneFade g oneMoreInput ⟨"reel.mp4"⟩).command.arguments = _ from
    arguments_commandOf oneFade g oneMoreInput ⟨"reel.mp4"⟩]
  show (OptionTable.standard.read (front oneFade g oneMoreInput ++ _ ++ _)).inputs.length ≠ _
  rw [OptionTable.read, List.append_assoc, OptionTable.readOn_append, hfront,
    OptionTable.readOn_append, hfields]
  show (OptionTable.standard.readOn (OptionTable.standard.readOn behind ["-i", "more.png"])
    ["-t", _, _]).inputs.length ≠ _
  rw [OptionTable.readOn_input hawaiting, OptionTable.readOn_nil,
    OptionTable.readOn_option (by rfl) (by decide), OptionTable.readOn_cons, OptionTable.readOn_nil,
    OptionTable.inputs_readOne (by simp), Reading.inputs_takeOption]
  simp [Reading.closeInput, hinputs, frontReading, length_inputsOf, oneMoreInput]

end VideoGreeting.Job
