import VideoGreeting.Job

/-!
# The inputs of a job

A job declares its inputs one after the other. Here they are written down as
one list, and with it the whole argument list of the engine run.
-/

namespace VideoGreeting.Job

open Engine (optionSeconds)

/-- The inputs of a reel in their order: the background as long as the reel, every
image as long as a clip, the song, and the auxiliary image where it is wanted. -/
def inputsOf (r : Resolved) (s : Settings) : List Engine.Input :=
  { path := r.background, options := ["-loop", "1", "-t", optionSeconds s.duration] } ::
    (r.images.map fun image =>
      { path := image.path, options := ["-loop", "1", "-t", optionSeconds s.clipDuration] }) ++
    { path := r.song } :: if s.auxiliaryInput then [{ path := r.auxiliaryImage }] else []

theorem length_inputsOf (r : Resolved) (s : Settings) :
    (inputsOf r s).length = r.clipCount + if s.auxiliaryInput then 3 else 2 := by
  unfold inputsOf Resolved.clipCount
  by_cases haux : s.auxiliaryInput = true
  · simp [haux]
  · simp [haux]

/-- Images are declared one after the other, behind what is declared already. -/
theorem foldl_loopedInput (images : List UploadedImage) (seconds : Float) (c : Engine.Command) :
    images.foldl (fun c image => c.loopedInput image.path (some seconds)) c =
      { c with
        inputs := c.inputs ++ images.map fun image =>
          { path := image.path, options := ["-loop", "1", "-t", optionSeconds seconds] } } := by
  induction images generalizing c with
  | nil => simp
  | cons image images ih =>
      rw [List.foldl_cons, ih, List.map_cons]
      simp [Engine.Command.loopedInput, Engine.Command.inputWith, Engine.Command.loopOptions]

/-- **What is declared.** -/
theorem declareInputs_eq (r : Resolved) (s : Settings) (output : Path) :
    declareInputs r s output = { output, inputs := inputsOf r s } := by
  unfold declareInputs
  dsimp only
  rw [foldl_loopedInput]
  unfold inputsOf
  by_cases haux : s.auxiliaryInput = true
  · simp [haux, Engine.Command.input, Engine.Command.inputWith, Engine.Command.loopedInput,
      Engine.Command.loopOptions]
  · simp [haux, Engine.Command.input, Engine.Command.inputWith, Engine.Command.loopedInput,
      Engine.Command.loopOptions]

variable (r : Resolved) (g : FilterGraph.Graph) (s : Settings) (output : Path)

theorem commandOf_inputs : (commandOf r g s output).inputs = inputsOf r s := by
  show (declareInputs r s output).inputs = _
  rw [declareInputs_eq]

/-- The command of a job writes to its output. -/
theorem commandOf_output : (commandOf r g s output).output = output := by
  show (declareInputs r s output).output = output
  rw [declareInputs_eq]

/-- The files that are looked for before the engine is started. -/
theorem inputFiles_of :
    (Job.of r g s output).inputFiles =
      r.background :: r.images.map (·.path) ++
        r.song :: if s.auxiliaryInput then [r.auxiliaryImage] else [] := by
  show (commandOf r g s output).inputs.map (·.path) = _
  rw [commandOf_inputs, inputsOf]
  by_cases haux : s.auxiliaryInput = true
  · simp [haux]
  · simp [haux]

/-- **The arguments of a job.** The inputs come first, then the graph and the two
streams that are taken, the encoding, the length and the output. -/
theorem arguments_commandOf :
    (commandOf r g s output).arguments =
      (Engine.Command.globalOptions ++
        (inputsOf r s).flatMap Engine.Command.inputArguments ++
        ["-filter_complex", g.script, "-map", g.output.text,
          "-map", (FilterGraph.Label.inputAudio (songInput r.clipCount)).name]) ++
      s.encoding.arguments ++ ["-t", optionSeconds s.duration, output.text] := by
  unfold commandOf
  rw [declareInputs_eq]
  simp [Engine.Command.arguments, Engine.Command.filterGraph, Engine.Command.map,
    Engine.Command.lasting, Engine.Command.withOptions]

end VideoGreeting.Job
