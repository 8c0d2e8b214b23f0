import VideoGreeting.Proofs.Production.Outcome

/-!
# What of a selection reaches the engine

Two selections may be told apart by what customers call their images and by the text of
an animation that stands for nothing. Neither may show in the command. `Choices` is what
is left when both are forgotten, and the caption is kept beside it. For one selection,
the job is that of its choices (`jobFor_resolved`), and its arguments have one place
that depends on the caption (`arguments_of`). Both statements about two selections
follow.

Main theorem: `job_of_choices`.
-/

namespace VideoGreeting

/-- What a selection chooses apart from its caption. -/
structure Choices where
  song : String
  background : String
  /-- The tag of the style, the same for all animations that stand for nothing. -/
  tag : String
  images : List Path
  deriving Repr, DecidableEq

def Selection.choices (x : Selection) : Choices where
  song := x.song
  background := x.background
  tag := (Style.named x.animation).tag
  images := x.images.map (·.path)

/-- A style with a tag; where no style is offered under it, one without a name. -/
def Style.tagged (tag : String) : Style := (ofTag? tag).getD (.unrecognized "")

/-- What choices and a caption are resolved to, with images that nobody named. -/
def Choices.resolved (c : Choices) (assets : Assets) (caption : String) : Resolved where
  background := assets.background c.background
  song := assets.song c.song
  font := assets.font
  auxiliaryImage := assets.auxiliaryImage
  style := .tagged c.tag
  caption := caption
  images := c.images.map fun path => ⟨path, ""⟩

namespace Job

open FilterGraph Production VideoGreeting.Composition
open Engine (optionSeconds)

/-- The job of an accepted selection that writes to a file. -/
def jobFor (r : Resolved) (s : Settings) (output : Path) : Except Failure Job :=
  (graph r s).map fun g => Job.of r g s output

/-! ## One selection and its choices -/

theorem tagged_tag (style : Style) :
    Style.tagged style.tag = if style.isRecognized then style else .unrecognized "" := by
  cases style with
  | fade | rotate | zoom | slide | bounce => rfl
  | unrecognized name => rfl

/-- The motion of an image shows nothing of a style but its tag. -/
theorem fragment_tagged (style : Style) (clip : Nat) (window : Window Float)
    (duration : Float) :
    Motion.fragment (.tagged style.tag) clip window duration =
      Motion.fragment style clip window duration := by
  rw [tagged_tag]
  cases style with
  | fade | rotate | zoom | slide | bounce => rfl
  | unrecognized name => rfl

theorem clip_tagged (style : Style) (size : FrameSize) (duration : Float)
    (window : Window Float) (i : Nat) :
    clip (.tagged style.tag) size duration window i = clip style size duration window i := by
  rw [clip, fragment_tagged]
  rfl

/-- Of the style, a graph depends on the clips alone. -/
theorem graph_congr {r q : Resolved} {s : Settings} (hcount : r.clipCount = q.clipCount)
    (hclip : clip r.style s.clipSize s.duration = clip q.style s.clipSize s.duration)
    (hcaption : r.caption = q.caption) (hfont : r.font = q.font) : graph r s = graph q s := by
  unfold graph
  rw [hcount, hclip, hcaption, hfont]

/-- Of the images, a job depends on their paths alone. -/
theorem of_congr {r q : Resolved} (hbackground : r.background = q.background)
    (hsong : r.song = q.song) (hauxiliary : r.auxiliaryImage = q.auxiliaryImage)
    (hpaths : r.images.map (·.path) = q.images.map (·.path)) (g : Graph) (s : Settings)
    (output : Path) : Job.of r g s output = Job.of q g s output := by
  have hcount : r.clipCount = q.clipCount := by
    simpa [Resolved.clipCount] using congrArg List.length hpaths
  have himages (x : Resolved) : (x.images.map fun image =>
      ({ path := image.path, options := ["-loop", "1", "-t", optionSeconds s.clipDuration] } :
        Engine.Input)) = (x.images.map (·.path)).map fun path =>
      { path, options := ["-loop", "1", "-t", optionSeconds s.clipDuration] } := by
    rw [List.map_map]
    rfl
  have hinputs : inputsOf r s = inputsOf q s := by
    simp only [inputsOf, himages, hpaths, hbackground, hsong, hauxiliary]
  simp only [Job.of, commandOf, declareInputs_eq, hinputs, hcount, hpaths]

/-- **A selection makes the job of its choices**, or fails as they do. -/
theorem jobFor_resolved (x : Selection) (assets : Assets) (s : Settings) (output : Path) :
    jobFor (x.resolved assets) s output =
      jobFor (x.choices.resolved assets x.caption) s output := by
  have hpaths : (x.resolved assets).images.map (·.path) =
      (x.choices.resolved assets x.caption).images.map (·.path) := by
    simp [Choices.resolved, Selection.choices, Selection.resolved]
  have hstyle : (x.choices.resolved assets x.caption).style =
      .tagged (x.resolved assets).style.tag := by
    simp only [Choices.resolved, Selection.choices, Selection.resolved]
  have hgraph : graph (x.resolved assets) s =
      graph (x.choices.resolved assets x.caption) s := by
    refine graph_congr ?_ ?_ rfl rfl
    · simpa [Resolved.clipCount] using congrArg List.length hpaths
    · funext window i
      rw [hstyle, clip_tagged]
  have hjob (g : Graph) : Job.of (x.resolved assets) g s output =
      Job.of (x.choices.resolved assets x.caption) g s output := by
    apply of_congr ?_ ?_ ?_ hpaths
    · simp only [Choices.resolved, Selection.choices, Selection.resolved]
    · simp only [Choices.resolved, Selection.choices, Selection.resolved]
    · simp only [Choices.resolved, Selection.resolved]
  simp only [jobFor, hgraph, hjob]

/-! ## The place of the caption -/

/-- The arguments of a job with a gap for the caption. -/
structure Layout where
  /-- What comes before the graph. -/
  ahead : List String
  /-- The statements of the graph before that of the caption. -/
  statements : List String
  font : String
  /-- The options of the caption behind its text. -/
  look : List String
  /-- What follows the graph. -/
  behind : List String
  deriving Repr, DecidableEq

/-- The statement that draws a caption. The caption is in the option `text` only. -/
def Layout.drawing (l : Layout) (caption : String) : String :=
  "[background]" ++
    ":".intercalate (s!"drawtext=fontfile={l.font}" ::
      s!"text={escapeValue (CaptionOverlay.reversed caption)}" :: l.look) ++
    "[background]"

/-- The arguments with a caption in the gap. -/
def Layout.arguments (l : Layout) (caption : String) : List String :=
  l.ahead ++ ["-filter_complex", ";".intercalate (l.statements ++ [l.drawing caption])] ++ l.behind

/-- The layout of a reel, in which its caption is not used. -/
def layoutOf (r : Resolved) (s : Settings) (output : Path) : Layout where
  ahead := Engine.Command.globalOptions ++ (inputsOf r s).flatMap Engine.Command.inputArguments
  statements := (scaleBackground s.canvas ::
    (clipsOf r s).flatMap fun c => [c.scale, c.motion]).flatMap Fragment.statements
  font := escapeValue r.font.text
  look :=
    [ "expansion=none",
      s!"x='(w-tw)/2+{s.caption.swayAmplitude}*sin(2*PI*t/{secondsText s.caption.swayPeriod})'",
      s!"y={s.caption.topOffset}",
      s!"fontcolor={s.caption.fontColor}",
      s!"fontsize={s.caption.fontSize}",
      s!"shadowcolor={s.caption.shadowColor}",
      s!"shadowx={s.caption.shadowOffset}",
      s!"shadowy={s.caption.shadowOffset}" ]
  behind :=
    ["-map", Label.background.text, "-map", (Label.inputAudio (songInput r.clipCount)).name] ++
      s.encoding.arguments ++ ["-t", optionSeconds s.duration, output.text]

theorem layoutOf_resolved (c : Choices) (assets : Assets) (s : Settings) (output : Path)
    (caption caption' : String) :
    layoutOf (c.resolved assets caption) s output =
      layoutOf (c.resolved assets caption') s output := rfl

/-- **The caption is in one place.** -/
theorem arguments_of (r : Resolved) (s : Settings) (output : Path) :
    (Job.of r (graphOf r s) s output).command.arguments =
      (layoutOf r s output).arguments r.caption := by
  have hcaption : (CaptionOverlay.fragment r.caption r.font s.caption).statements =
      [(layoutOf r s output).drawing r.caption] := by
    simp [CaptionOverlay.fragment, Fragment.statements, Chain.text, Layout.drawing, layoutOf,
      CaptionOverlay.drawing, Label.text, Label.background]
  have hscript : (graphOf r s).script =
      ";".intercalate ((layoutOf r s output).statements ++
        [(layoutOf r s output).drawing r.caption]) := by
    rw [Graph.script, Graph.statements, graphOf, fragments, List.flatMap_append,
      List.flatMap_singleton, hcaption]
    rfl
  show (commandOf r (graphOf r s) s output).arguments = _
  rw [arguments_commandOf, hscript]
  simp [Layout.arguments, layoutOf, graphOf]

/-- A resolved selection with an image fails for the length of the reel only. -/
theorem jobFor_eq {r : Resolved} (himages : r.images ≠ []) (s : Settings) (output : Path) :
    jobFor r s output =
      if Timeline.isPositive s.duration then .ok (Job.of r (graphOf r s) s output)
      else .error (.timeline (Timeline.Fault.duration s.duration).message) := by
  by_cases hduration : Timeline.isPositive s.duration = true
  · rw [if_pos hduration, jobFor, graph_eq_ok himages hduration]
    rfl
  · have hcount : r.clipCount ≠ 0 := by simpa [Resolved.clipCount] using himages
    have hplan : Timeline.plan s.duration r.clipCount = .error (.duration s.duration) := by
      simp [Timeline.plan, hcount, hduration]
    rw [if_neg hduration, jobFor, graph, hplan]
    rfl

theorem owned_of (r : Resolved) (g : Graph) (s : Settings) (output : Path) :
    (Job.of r g s output).owned = (Guard.mk (r.images.map (·.path))).push output := rfl

theorem output_of (r : Resolved) (g : Graph) (s : Settings) (output : Path) :
    (Job.of r g s output).output = output := rfl

/-! ## Two selections -/

/-- How two attempts at a job come out that differ in the caption. -/
inductive ApartInCaption (caption caption' : String) :
    Except Failure Job → Except Failure Job → Prop
  /-- Both fail in the same way. -/
  | failed (failure : Failure) : ApartInCaption caption caption' (.error failure) (.error failure)
  /-- Both own the same files, and the arguments are alike up to the caption. -/
  | made {job job' : Job} (l : Layout) (howned : job.owned = job'.owned)
      (houtput : job.output = job'.output)
      (harguments : job.command.arguments = l.arguments caption)
      (harguments' : job'.command.arguments = l.arguments caption') :
      ApartInCaption caption caption' (.ok job) (.ok job')

/-- The same choices with two captions. -/
theorem apart_resolved {c : Choices} (himages : c.images ≠ []) (assets : Assets) (s : Settings)
    (output : Path) (caption caption' : String) :
    ApartInCaption caption caption' (jobFor (c.resolved assets caption) s output)
      (jobFor (c.resolved assets caption') s output) := by
  have hne (caption : String) : (c.resolved assets caption).images ≠ [] := by
    simpa [Choices.resolved] using himages
  rw [jobFor_eq (hne caption), jobFor_eq (hne caption')]
  by_cases hduration : Timeline.isPositive s.duration = true
  · rw [if_pos hduration, if_pos hduration]
    refine .made (layoutOf (c.resolved assets caption) s output) ?_ ?_ ?_ ?_
    · -- unfolded first, since otherwise the graphs would be compared, which differ
      rw [owned_of, owned_of]
      rfl
    · rw [output_of, output_of]
    · exact arguments_of (c.resolved assets caption) s output
    · rw [layoutOf_resolved c assets s output caption caption']
      exact arguments_of (c.resolved assets caption') s output
  · rw [if_neg hduration, if_neg hduration]
    exact .failed _

/-- **Only choices and caption reach the engine.** Let two selections be accepted that
choose the same, whatever the customers call their images and whatever they write for an
animation that stands for nothing. With the same caption they make the same job: the
command, the output and the files that the job owns. With two captions the jobs still own
the same files, and their arguments differ in the text of the caption, within the graph,
and nowhere else. If one makes no job, the other fails in the same way. -/
theorem job_of_choices {catalog : Catalog} {assets : Assets} {maxClips : Nat} {x y : Selection}
    {r q : Resolved} (s : Settings) (output : Path)
    (hr : x.resolve catalog assets maxClips = .ok r)
    (hq : y.resolve catalog assets maxClips = .ok q) (hchoices : x.choices = y.choices) :
    (x.caption = y.caption → jobFor r s output = jobFor q s output) ∧
      ApartInCaption x.caption y.caption (jobFor r s output) (jobFor q s output) := by
  have himages : x.choices.images ≠ [] := by
    have hne := images_ne_nil_of_resolve hr
    rw [Selection.eq_resolved hr] at hne
    simpa [Selection.choices, Selection.resolved] using hne
  rw [Selection.eq_resolved hr, Selection.eq_resolved hq, jobFor_resolved, jobFor_resolved,
    ← hchoices]
  constructor
  · intro hcaption
    rw [hcaption]
  · exact apart_resolved himages assets s output x.caption y.caption

/-- Two images, to move in a way that nobody offers. -/
def wobbling : Selection where
  song := "התקווה"
  background := "כותל"
  animation := "wobble"
  caption := "שלום"
  images := [⟨⟨"uploads/1"⟩, "first.jpg"⟩, ⟨⟨"uploads/2"⟩, "second.jpg"⟩]

/-- The same, asked for with texts that would rather be arguments. -/
def intruding : Selection :=
  { wobbling with
    animation := "fade];[0:v]null"
    caption := "5:30"
    images := [⟨⟨"uploads/1"⟩, "-i"⟩, ⟨⟨"uploads/2"⟩, "/etc/passwd"⟩] }

theorem job_of_choices_wobbling :
    wobbling.choices = intruding.choices ∧
      ∃ (r q : Resolved) (job job' : Job) (l : Layout),
        wobbling.resolve .standard ⟨⟨"/assets"⟩⟩ 2 = .ok r ∧
        intruding.resolve .standard ⟨⟨"/assets"⟩⟩ 2 = .ok q ∧
        jobFor r {} ⟨"reel.mp4"⟩ = .ok job ∧ jobFor q {} ⟨"reel.mp4"⟩ = .ok job' ∧
        job.owned = job'.owned ∧ job.output = job'.output ∧
        job.command.arguments = l.arguments "שלום" ∧
        job'.command.arguments = l.arguments "5:30" ∧
        l.drawing "שלום" = "[background]" ++
          ":".intercalate (s!"drawtext=fontfile={l.font}" :: "text=םולש" :: l.look) ++
          "[background]" ∧
        l.drawing "5:30" = "[background]" ++
          ":".intercalate (s!"drawtext=fontfile={l.font}" :: "text=03\\\\:5" :: l.look) ++
          "[background]" := by
  have hchoices : wobbling.choices = intruding.choices := by decide +kernel
  have hwobbling : (wobbling.resolve .standard ⟨⟨"/assets"⟩⟩ 2).isOk = true := by decide +kernel
  have hintruding : (intruding.resolve .standard ⟨⟨"/assets"⟩⟩ 2).isOk = true := by decide +kernel
  rcases hr : wobbling.resolve .standard ⟨⟨"/assets"⟩⟩ 2 with reason | r
  · rw [hr] at hwobbling
    cases hwobbling
  · rcases hq : intruding.resolve .standard ⟨⟨"/assets"⟩⟩ 2 with reason | q
    · rw [hq] at hintruding
      cases hintruding
    · have hmade := jobFor_eq (images_ne_nil_of_resolve hr) {} ⟨"reel.mp4"⟩
      rw [if_pos (by decide +kernel)] at hmade
      have hapart : ApartInCaption "שלום" "5:30" (jobFor r {} ⟨"reel.mp4"⟩)
          (jobFor q {} ⟨"reel.mp4"⟩) := (job_of_choices {} ⟨"reel.mp4"⟩ hr hq hchoices).2
      rw [hmade] at hapart
      generalize hjob' : jobFor q {} ⟨"reel.mp4"⟩ = attempt at hapart
      cases hapart with
      | made l howned houtput harguments harguments' =>
          refine ⟨hchoices, r, q, _, _, l, rfl, rfl, hmade, hjob', howned, houtput, harguments,
            harguments', ?_, ?_⟩
          · rw [Layout.drawing, show FilterGraph.escapeValue (CaptionOverlay.reversed "שלום") =
              "םולש" by decide +kernel]
            rfl
          · rw [Layout.drawing, show FilterGraph.escapeValue (CaptionOverlay.reversed "5:30") =
              "03\\\\:5" by decide +kernel]
            rfl

end Job

end VideoGreeting
