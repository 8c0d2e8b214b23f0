import VideoGreeting.Proofs.Composition.Assembled
import VideoGreeting.Proofs.FilterGraph.Streams

/-!
# What a reel shows

The graph of a reel, run on terms, against the picture it is meant to give: the
scaled background, on it image after image in the order of upload, each moved
as its style says, and the caption above all of them. The filters of every
style are written out here once more, so that the main theorem fixes them along
with the way the streams are connected.

Main theorem: `graph_streams`. The graph runs to its end, and what is bound then
is its output and nothing else, to `captioned` over `layered`.
-/

namespace VideoGreeting.Composition

open FilterGraph

/-! ## The picture -/

/-- The image of a clip as its style prepares it; a sweeping image is laid on
as it is. -/
def prepared (style : Style) (duration : Float) (image : Stream) : Stream :=
  match style with
  | .rotate => .filtered ["rotate='4*PI*t/60':c=none"] [image]
  | .fade =>
    .filtered ["loop=loop=-1:size=70:start=0"]
      [.filtered
        ["format=rgba", "fade=in:st=0:d=1:alpha=1", "fade=out:st=4:d=3:alpha=0"] [image]]
  | .zoom =>
    .filtered
      [s!"scale='min(iw*1.5,iw*0.1+(iw*1.4*t/{secondsText (duration / 3.0)}))':-1:eval=frame"]
      [image]
  | .slide | .bounce | .unrecognized _ => image

/-- Where a style puts an image on the background, across and down, given the
length of the reel as text. -/
def position (style : Style) (period : String) : String × String :=
  match style with
  | .slide => (s!"'(W-w)/2+(W/4)*sin(PI*t/{period})'", "(H-h)/2")
  | .bounce =>
    (s!"'(W-w)/2+(W/4)*sin(2*PI*t/{period})'", s!"'(H-h)/2+(H/4)*abs(sin(2*PI*t/{period}))'")
  | .fade => ("(W-w)/2", "(H-h)/2")
  | .rotate | .zoom | .unrecognized _ => ("'(W-w)/2'", "'(H-h)/2'")

/-- The filter that lays an image on the background, at its position and, if a
window is given, during that window only. -/
def laying (style : Style) (period : String) (gate : Option (Window Float)) : String :=
  let (x, y) := position style period
  match gate with
  | none => s!"overlay=x={x}:y={y}"
  | some window => s!"overlay=x={x}:y={y}:enable='{window.expression}'"

/-- The scaled background with the first clips laid on it. Clip `i` is input
`i + 1` of the engine; a gated style shows it during window `i`. Images of an
unrecognized style are not laid on at all. -/
def layered (style : Style) (s : Settings) (windows : List (Window Float)) : Nat → Stream
  | 0 => .filtered [scaling s.canvas] [.video 0]
  | i + 1 =>
    if style.isRecognized then
      .filtered
        [laying style (secondsText s.duration) (if style.isGated then windows[i]? else none)]
        [layered style s windows i,
          prepared style s.duration (.filtered [scaling s.clipSize] [.video (i + 1)])]
    else layered style s windows i

/-- A picture with the caption drawn on it. -/
def captioned (r : Resolved) (s : Settings) (picture : Stream) : Stream :=
  .filtered [CaptionOverlay.drawing r.caption r.font s.caption] [picture]

/-! ## What the picture draws on -/

theorem inputs_prepared (style : Style) (duration : Float) (image : Stream) :
    (prepared style duration image).inputs = image.inputs := by
  cases style <;> simp [prepared, Stream.inputs, Stream.inputsAll]

/-- Every image is laid on once, in the order of upload, above the background;
with an unrecognized style there is the background only. -/
theorem inputs_layered (style : Style) (s : Settings) (windows : List (Window Float))
    (n : Nat) :
    (layered style s windows n).inputs =
      if style.isRecognized then List.range (n + 1) else [0] := by
  induction n with
  | zero => simp [layered, Stream.inputs, Stream.inputsAll]
  | succ n ih =>
      rw [layered]
      by_cases hstyle : style.isRecognized = true
      · rw [if_pos hstyle] at ih
        rw [if_pos hstyle, if_pos hstyle]
        simp [Stream.inputs, Stream.inputsAll, inputs_prepared, ih, List.range_succ]
      · rw [if_neg hstyle] at ih
        rw [if_neg hstyle, if_neg hstyle, ih]

/-! ## The chains of a clip -/

/-- The text of an overlay, from its parts. -/
theorem overlay_filters {style : Style} {period x y : String} (top : Label)
    (gate : Option (Window Float)) (h : position style period = (x, y)) :
    (Motion.overlay top x y gate).filters = [laying style period gate] := by
  have htext : s!"overlay=x={x}:y={y}{Motion.gateText gate}" =
      laying style period gate := by
    rw [← String.toList_inj, laying, h]
    cases gate <;> simp [Motion.gateText, Motion.protect]
  rw [Motion.overlay, htext]

theorem run?_scaleImage (i : Nat) (size : FrameSize) (b : Bindings) :
    b.run? (scaleImage i size).chains =
      some ((.image i, .filtered [scaling size] [.video (i + 1)]) :: b) := by
  simp [scaleImage, imageInput, Bindings.run?_cons, Chain.run?, Bindings.takeAll?]

/-- A stage takes an image from one label to another; the background stays. -/
theorem run?_stage {source : Label} (filters : List String) (target : Label)
    (image background : Stream) (chains : List Chain) (hpad : source.isPad = false)
    (hne : source ≠ .background) :
    Bindings.run? [(source, image), (.background, background)]
        (Motion.stage source filters target :: chains) =
      Bindings.run? [(target, .filtered filters [image]), (.background, background)] chains := by
  have hkeep : (Label.background != source) = true := bne_iff_ne.mpr hne.symm
  have hstage : (Motion.stage source filters target).run?
      [(source, image), (.background, background)] =
      some [(target, .filtered filters [image]), (.background, background)] := by
    simp [Motion.stage, Chain.run?, Bindings.takeAll?,
      Bindings.take?_of_not_isPad _ hpad, hkeep]
  rw [Bindings.run?_cons, hstage]
  rfl

/-- An overlay at the position of a style lays the image on the background. -/
theorem run?_overlay {style : Style} {period x y : String} {top : Label}
    (gate : Option (Window Float)) (image background : Stream)
    (hposition : position style period = (x, y)) (hpad : top.isPad = false)
    (hne : top ≠ .background) :
    Bindings.run? [(top, image), (.background, background)] [Motion.overlay top x y gate] =
      some [(.background, .filtered [laying style period gate] [background, image])] := by
  have hkeep : (top != Label.background) = true := bne_iff_ne.mpr hne
  have hlookup : (Label.background == top) = false := beq_false_of_ne hne.symm
  have hfilters := overlay_filters top gate hposition
  -- the background is read first
  have hread : Bindings.takeAll? [(top, image), (.background, background)]
      (Motion.overlay top x y gate).inputs = some ([background, image], []) := by
    simp [Motion.overlay, Bindings.takeAll?, List.lookup_cons,
      Bindings.take?_of_not_isPad _ hpad,
      Bindings.take?_of_not_isPad _ Label.isPad_background, hkeep, hlookup]
  rw [Bindings.run?_cons, Chain.run?, hread, hfilters]
  rfl

theorem protect_centerX : Motion.protect Motion.centerX = "'(W-w)/2'" := by decide

theorem protect_centerY : Motion.protect Motion.centerY = "'(H-h)/2'" := by decide

/-- **The motion of one clip.** The chains of a style put the image that it
prepares on the background, and an unrecognized style throws the image away. -/
theorem run?_motion (style : Style) (i : Nat) (window : Window Float) (duration : Float)
    (image background : Stream) :
    Bindings.run? [(.image i, image), (.background, background)]
        (Motion.chains style i window duration) =
      some [(.background,
        if style.isRecognized then
          .filtered
            [laying style (secondsText duration) (if style.isGated then some window else none)]
            [background, prepared style duration image]
        else background)] := by
  have hpad := Label.isPad_image i
  have hne := Label.image_ne_background i
  have hpad' := Label.isPad_imageStage i
  have hne' := Label.imageStage_ne_background i
  cases style with
  | slide =>
      have hposition (period : String) : position .slide period =
          (Motion.protect s!"{Motion.centerX}+(W/4)*sin(PI*t/{period})",
            Motion.centerY) := by
        unfold position
        rw [Prod.mk.injEq, ← String.toList_inj]
        simp [Motion.protect, Motion.centerX, Motion.centerY]
      rw [Motion.chains, run?_overlay _ _ _ (hposition _) hpad hne]
      rfl
  | bounce =>
      have hposition (period : String) : position .bounce period =
          (Motion.protect s!"{Motion.centerX}+(W/4)*sin(2*PI*t/{period})",
            Motion.protect s!"{Motion.centerY}+(H/4)*abs(sin(2*PI*t/{period}))") := by
        unfold position
        rw [Prod.mk.injEq, ← String.toList_inj, ← String.toList_inj]
        simp [Motion.protect, Motion.centerX, Motion.centerY]
      rw [Motion.chains, run?_overlay _ _ _ (hposition _) hpad hne]
      rfl
  | rotate =>
      have hposition (period : String) : position .rotate period =
          (Motion.protect Motion.centerX, Motion.protect Motion.centerY) := by
        rw [protect_centerX, protect_centerY]
        rfl
      rw [Motion.chains, run?_stage _ _ _ _ _ hpad hne,
        run?_overlay _ _ _ (hposition _) (hpad' _) (hne' _)]
      rfl
  | fade =>
      have hposition (period : String) : position .fade period =
          (Motion.centerX, Motion.centerY) := rfl
      rw [Motion.chains, run?_stage _ _ _ _ _ hpad hne,
        run?_stage _ _ _ _ _ (hpad' _) (hne' _),
        run?_overlay _ _ _ (hposition _) (hpad' _) (hne' _)]
      rfl
  | zoom =>
      have hposition (period : String) : position .zoom period =
          (Motion.protect Motion.centerX, Motion.protect Motion.centerY) := by
        rw [protect_centerX, protect_centerY]
        rfl
      rw [Motion.chains, run?_stage _ _ _ _ _ hpad hne,
        run?_overlay _ _ _ (hposition _) (hpad' _) (hne' _)]
      rfl
  | unrecognized name =>
      have hkeep : (Label.background != Label.image i) = true := bne_iff_ne.mpr hne.symm
      rw [Motion.chains, Bindings.run?_cons]
      simp [Chain.run?, Bindings.takeAll?, Bindings.take?_of_not_isPad _ hpad, hkeep,
        Style.isRecognized]

/-! ## All clips -/

/-- **Any number of clips.** After the chains of `k` clips the background is
bound to the picture with these clips, and nothing else is bound. -/
theorem run?_clips (r : Resolved) (s : Settings) (k : Nat) (hk : k ≤ r.clipCount) :
    Bindings.run? [(.background, .filtered [scaling s.canvas] [.video 0])]
        (((List.range k).map (clipOf r s)).flatMap fun c =>
          c.scale.chains ++ c.motion.chains) =
      some [(.background,
        layered r.style s (Timeline.windows s.duration r.clipCount) k)] := by
  induction k with
  | zero => rfl
  | succ k ih =>
      have hwindow : (Timeline.windows s.duration r.clipCount)[k]? =
          some (Timeline.window s.duration r.clipCount k) := by
        simp [Timeline.windows, List.getElem?_range hk]
      -- clip `k` comes last, and runs on the picture of those before it
      rw [List.range_succ, List.map_append, List.flatMap_append, Bindings.run?_append,
        ih (Nat.le_of_succ_le hk)]
      show Bindings.run? _ (_ ++ []) = _
      rw [List.append_nil, Bindings.run?_append]
      show (Bindings.run? _ (scaleImage k s.clipSize).chains).bind _ = _
      rw [run?_scaleImage]
      show Bindings.run? _ (Motion.chains _ _ _ _) = _
      rw [run?_motion, layered, hwindow]

/-- **What a reel shows.** The graph of a resolved selection runs to its end,
so that every label is bound when it is read. What is left is the output of the
graph and nothing else: the background with every image laid on it during the
windows of the timeline, and the caption on top. Unless the style is
unrecognized, the picture draws on every input once and in order. -/
theorem graph_streams (r : Resolved) (s : Settings) (himages : r.images ≠ [])
    (hduration : Timeline.isPositive s.duration = true) :
    ∃ windows g,
      Timeline.plan s.duration r.clipCount = .ok windows ∧
      windows.length = r.clipCount ∧
      graph r s = .ok g ∧
      g.streams? =
        some [(g.output, captioned r s (layered r.style s windows r.clipCount))] ∧
      (captioned r s (layered r.style s windows r.clipCount)).inputs =
        if r.style.isRecognized then List.range (r.clipCount + 1) else [0] := by
  have hcount : r.clipCount ≠ 0 := by simpa [Resolved.clipCount] using himages
  refine ⟨Timeline.windows s.duration r.clipCount, _, plan_eq_ok hcount hduration,
    by simp [Timeline.windows], graph_eq_ok himages hduration, ?_, ?_⟩
  · have hchains : Graph.chains
        { fragments := fragments (scaleBackground s.canvas) (clipsOf r s)
            (CaptionOverlay.fragment r.caption r.font s.caption)
          output := .background } =
        (scaleBackground s.canvas).chains ++
          ((clipsOf r s).flatMap fun c => c.scale.chains ++ c.motion.chains) ++
          (CaptionOverlay.fragment r.caption r.font s.caption).chains := by
      simp [Graph.chains, fragments, List.flatMap_assoc]
    have hbackground : Bindings.run? [] (scaleBackground s.canvas).chains =
        some [(.background, .filtered [scaling s.canvas] [.video 0])] := by
      simp [scaleBackground, backgroundInput, Bindings.run?_cons, Chain.run?,
        Bindings.takeAll?]
    have hcaption (picture : Stream) : Bindings.run? [(.background, picture)]
        (CaptionOverlay.fragment r.caption r.font s.caption).chains =
        some [(.background, captioned r s picture)] := by
      simp [CaptionOverlay.fragment, Bindings.run?_cons, Chain.run?,
        Bindings.takeAll?, Bindings.take?_of_not_isPad _ Label.isPad_background,
        captioned]
    rw [Graph.streams?, hchains, Bindings.run?_append, Bindings.run?_append, hbackground]
    show ((Bindings.run? _ _).bind _) = _
    rw [clipsOf, run?_clips r s r.clipCount le_rfl]
    exact hcaption _
  · rw [captioned, Stream.inputs, Stream.inputsAll, Stream.inputsAll, List.append_nil,
      inputs_layered]

/-- Two images under a gated style. -/
def twoSlides : Resolved where
  background := ⟨"beach.mp4"⟩
  song := ⟨"song.mp3"⟩
  font := ⟨"rubik.ttf"⟩
  auxiliaryImage := ⟨"blank.jpg"⟩
  style := .slide
  caption := "mazal tov"
  images := [⟨⟨"uploads/1"⟩, "first.jpg"⟩, ⟨⟨"uploads/2"⟩, "second.jpg"⟩]

/-- What they show in thirty seconds: each image for half of the time. -/
def twoSlidesPicture : Stream :=
  .filtered
    ["drawtext=fontfile=rubik.ttf:text=vot\\\\\\ lazam:expansion=none:" ++
      "x='(w-tw)/2+30*sin(2*PI*t/5)':y=20:fontcolor=red:fontsize=70:" ++
      "shadowcolor=white:shadowx=3:shadowy=3"]
    [.filtered
      ["overlay=x='(W-w)/2+(W/4)*sin(PI*t/30)':y=(H-h)/2:enable='gte(t,15)*lt(t,30)'"]
      [.filtered
        ["overlay=x='(W-w)/2+(W/4)*sin(PI*t/30)':y=(H-h)/2:enable='gte(t,0)*lt(t,15)'"]
        [.filtered ["scale=640:360"] [.video 0], .filtered ["scale=320:180"] [.video 1]],
        .filtered ["scale=320:180"] [.video 2]]]

theorem graph_streams_twoSlides :
    ∃ windows g,
      Timeline.plan 30.0 2 = .ok windows ∧
      windows.length = 2 ∧
      graph twoSlides {} = .ok g ∧
      g.streams? = some [(g.output, twoSlidesPicture)] ∧
      twoSlidesPicture.inputs = [0, 1, 2] := by
  obtain ⟨windows, g, hplan, hlength, hgraph, hstreams, hinputs⟩ :=
    graph_streams twoSlides {} (by decide) (by decide)
  obtain rfl : windows = Timeline.windows 30.0 2 := (Timeline.plan_eq_ok_iff.mp hplan).2.2
  have hpicture : captioned twoSlides {} (layered .slide {} (Timeline.windows 30.0 2) 2) =
      twoSlidesPicture := by
    have hdrawing : CaptionOverlay.drawing "mazal tov" ⟨"rubik.ttf"⟩ {} =
        "drawtext=fontfile=rubik.ttf:text=vot\\\\\\ lazam:expansion=none:" ++
          "x='(w-tw)/2+30*sin(2*PI*t/5)':y=20:fontcolor=red:fontsize=70:" ++
          "shadowcolor=white:shadowx=3:shadowy=3" := by decide +kernel
    have hfirst : laying .slide (secondsText 30.0) (Timeline.windows 30.0 2)[0]? =
        "overlay=x='(W-w)/2+(W/4)*sin(PI*t/30)':y=(H-h)/2:enable='gte(t,0)*lt(t,15)'" := by
      decide +kernel
    have hsecond : laying .slide (secondsText 30.0) (Timeline.windows 30.0 2)[1]? =
        "overlay=x='(W-w)/2+(W/4)*sin(PI*t/30)':y=(H-h)/2:enable='gte(t,15)*lt(t,30)'" := by
      decide +kernel
    have hcanvas : scaling ⟨640, 360⟩ = "scale=640:360" := by decide +kernel
    have hclip : scaling ⟨320, 180⟩ = "scale=320:180" := by decide +kernel
    rw [twoSlidesPicture, ← hdrawing, ← hfirst, ← hsecond, ← hcanvas, ← hclip]
    rfl
  exact ⟨_, g, hplan, hlength, hgraph, hpicture ▸ hstreams, hpicture ▸ hinputs⟩

end VideoGreeting.Composition
