import VideoGreeting.Proofs.Composition.Assembled
import VideoGreeting.Proofs.FilterGraph.Reader
import VideoGreeting.Proofs.Number.Numerals

/-!
# No text gets out of its place

The script of a reel is put together from fixed texts, numerals, quoted
expressions, and two texts that come from outside, the caption and the path of
the font. All of them are plain, whatever the style, the number of images and
the outside texts are, so the script is read as the graph that was meant.

Main theorem: `script_reads_back`. The colours of the caption go into the
script as they are, which is why they may not contain special characters.
-/

namespace VideoGreeting.Composition

open FilterGraph

/-! ## Numerals and labels -/

theorem plain_of_isNumeral {s : String}
    (h : ∀ c ∈ s.toList, Number.isNumeral c = true) : Plain s := by
  have hspecial : ∀ c ∈ special, Number.isNumeral c = false := by
    simp [special, marks, Number.isNumeral]
  refine plain_of_not_special fun c hc hmem => ?_
  have hnumeral := h c hc
  rw [hspecial c hmem] at hnumeral
  exact Bool.noConfusion hnumeral

theorem plain_nat (n : Nat) : Plain (toString n) :=
  plain_of_isNumeral fun _ hc => Number.isNumeral_of_mem_nat hc

theorem plain_int (n : Int) : Plain (toString n) :=
  plain_of_isNumeral fun _ hc => Number.isNumeral_of_mem_int hc

theorem quote_not_mem_toDigits (n : Nat) : '\'' ∉ Nat.toDigits 10 n := by
  intro h
  exact absurd (Number.isNumeral_of_mem_toDigits h) (by decide)

theorem quote_not_mem_secondsText (x : Float) : '\'' ∉ (secondsText x).toList := by
  intro h
  exact absurd (Number.isNumeral_of_mem_secondsText h) (by decide)

theorem plain_background : Plain Label.background.name :=
  plain_of_not_special (by simp [Label.background, special, marks])

theorem plain_image (i : Nat) : Plain (Label.image i).name := by
  have hfront : Plain "image-" := plain_of_not_special (by simp [special, marks])
  have hname : (Label.image i).name = "image-" ++ toString i := by
    rw [← String.toList_inj]
    simp [Label.image]
  rw [hname]
  exact hfront.append (plain_nat i)

theorem plain_imageStage (i : Nat) {stage : String} (h : Plain stage) :
    Plain (Label.imageStage i stage).name := by
  have hdash : Plain "-" := plain_of_not_special (by simp [special, marks])
  have hname : (Label.imageStage i stage).name = (Label.image i).name ++ "-" ++ stage := by
    rw [← String.toList_inj]
    simp [Label.imageStage, Label.image]
  rw [hname]
  exact ((plain_image i).append hdash).append h

theorem plain_inputVideo (n : Nat) : Plain (Label.inputVideo n).name := by
  have hkind : Plain ":v" := plain_of_not_special (by simp [special, marks])
  have hname : (Label.inputVideo n).name = toString n ++ ":v" := by
    rw [← String.toList_inj]
    simp [Label.inputVideo]
  rw [hname]
  exact (plain_nat n).append hkind

/-! ## Filters -/

theorem plain_protect {expression : String} (h : '\'' ∉ expression.toList) :
    Plain (Motion.protect expression) :=
  plain_quoted h

theorem plain_scaling (size : FrameSize) : Plain (scaling size) := by
  have hfront : Plain "scale=" := plain_of_not_special (by simp [special, marks])
  have hcolon : Plain ":" := plain_of_not_special (by simp [special, marks])
  have htext : scaling size = "scale=" ++ toString size.width ++ ":" ++ toString size.height := by
    rw [← String.toList_inj]
    simp [scaling]
  rw [htext]
  exact ((hfront.append (plain_nat _)).append hcolon).append (plain_nat _)

theorem plain_gateText (gate : Option (Window Float)) : Plain (Motion.gateText gate) := by
  cases gate with
  | none => exact plain_of_not_special (by simp [Motion.gateText])
  | some window =>
      have hfront : Plain ":enable=" := plain_of_not_special (by simp [special, marks])
      refine hfront.append (plain_protect ?_)
      simp [Window.expression, quote_not_mem_secondsText]

/-- A chain with one filter. -/
theorem isPlain_singleton {inputs outputs : List Label} {f : String} (hne : f ≠ "")
    (hf : Plain f) (hlabels : ∀ l ∈ inputs ++ outputs, Plain l.name) :
    Chain.IsPlain { inputs, filters := [f], outputs } where
  filters_ne_nil := List.cons_ne_nil _ _
  ne_empty := by simpa using hne
  filters := by simpa using hf
  labels := hlabels

/-- An overlay at plain positions. -/
theorem isPlain_overlay {top : Label} {x y : String} (gate : Option (Window Float))
    (htop : Plain top.name) (hx : Plain x) (hy : Plain y) :
    (Motion.overlay top x y gate).IsPlain := by
  have hfront : Plain "overlay=x=" := plain_of_not_special (by simp [special, marks])
  have hmiddle : Plain ":y=" := plain_of_not_special (by simp [special, marks])
  have htext : s!"overlay=x={x}:y={y}{Motion.gateText gate}" =
      "overlay=x=" ++ x ++ ":y=" ++ y ++ Motion.gateText gate := by
    rw [← String.toList_inj]
    simp
  rw [Motion.overlay, htext]
  apply isPlain_singleton
  · rw [Ne, ← String.toList_inj]
    simp
  · exact (((hfront.append hx).append hmiddle).append hy).append (plain_gateText gate)
  · simp [plain_background, htop]

/-- A stage with plain filters. -/
theorem isPlain_stage {source target : Label} {filters : List String} (hne : filters ≠ [])
    (hempty : ∀ f ∈ filters, f ≠ "") (hfilters : ∀ f ∈ filters, Plain f)
    (hsource : Plain source.name) (htarget : Plain target.name) :
    (Motion.stage source filters target).IsPlain where
  filters_ne_nil := hne
  ne_empty := hempty
  filters := hfilters
  labels := by simp [Motion.stage, hsource, htarget]

/-! ## Chains -/

theorem plain_centerX : Plain Motion.centerX :=
  plain_of_not_special (by simp [Motion.centerX, special, marks])

theorem plain_centerY : Plain Motion.centerY :=
  plain_of_not_special (by simp [Motion.centerY, special, marks])

theorem plain_protect_centerX : Plain (Motion.protect Motion.centerX) :=
  plain_protect (by simp [Motion.centerX])

theorem plain_protect_centerY : Plain (Motion.protect Motion.centerY) :=
  plain_protect (by simp [Motion.centerY])

/-- **The chains of a style are plain**, whatever its window and period. -/
theorem isPlain_motion (style : Style) (i : Nat) (window : Window Float) (duration : Float) :
    ∀ c ∈ Motion.chains style i window duration, c.IsPlain := by
  have hstage {stage : String} (h : ∀ c ∈ stage.toList, c ∉ special) :=
    plain_imageStage i (plain_of_not_special h)
  cases style with
  | slide =>
      intro c hc
      rw [Motion.chains, List.mem_singleton] at hc
      subst hc
      refine isPlain_overlay _ (plain_image i) (plain_protect ?_) plain_centerY
      simp [Motion.centerX, quote_not_mem_secondsText]
  | bounce =>
      intro c hc
      rw [Motion.chains, List.mem_singleton] at hc
      subst hc
      refine isPlain_overlay _ (plain_image i) (plain_protect ?_) (plain_protect ?_)
      · simp [Motion.centerX, quote_not_mem_secondsText]
      · simp [Motion.centerY, quote_not_mem_secondsText]
  | rotate =>
      have hrotated := hstage (show ∀ c ∈ "rotated".toList, c ∉ special from
        by simp [special, marks])
      rw [Motion.chains, List.forall_mem_cons, List.forall_mem_singleton]
      refine ⟨isPlain_stage (by simp) (by simp) ?_ (plain_image i) hrotated, ?_⟩
      · rw [List.forall_mem_singleton]
        exact plain_of_tokens_eq (by decide +kernel) (by decide +kernel)
      · exact isPlain_overlay _ hrotated plain_protect_centerX plain_protect_centerY
  | fade =>
      have hfaded := hstage (show ∀ c ∈ "faded".toList, c ∉ special from
        by simp [special, marks])
      have hlooped := hstage (show ∀ c ∈ "looped".toList, c ∉ special from
        by simp [special, marks])
      rw [Motion.chains, List.forall_mem_cons, List.forall_mem_cons,
        List.forall_mem_singleton]
      refine ⟨isPlain_stage (by simp) (by simp) ?_ (plain_image i) hfaded,
        isPlain_stage (by simp) (by simp) ?_ hfaded hlooped, ?_⟩
      · intro f hf
        refine plain_of_not_special ?_
        simp only [List.mem_cons, List.not_mem_nil, or_false] at hf
        rcases hf with rfl | rfl | rfl <;> simp [special, marks]
      · rw [List.forall_mem_singleton]
        exact plain_of_not_special (by simp [special, marks])
      · exact isPlain_overlay _ hlooped plain_centerX plain_centerY
  | zoom =>
      have hzoomed := hstage (show ∀ c ∈ "zoomed".toList, c ∉ special from
        by simp [special, marks])
      have hgrow (ramp : String) (hramp : '\'' ∉ ramp.toList) :
          Plain s!"scale='min(iw*1.5,iw*0.1+(iw*1.4*t/{ramp}))':-1:eval=frame" := by
        have htext : s!"scale='min(iw*1.5,iw*0.1+(iw*1.4*t/{ramp}))':-1:eval=frame" =
            "scale=" ++ Motion.protect ("min(iw*1.5,iw*0.1+(iw*1.4*t/" ++ ramp ++ "))") ++
              ":-1:eval=frame" := by
          rw [← String.toList_inj]
          simp [Motion.protect]
        rw [htext]
        refine Plain.append (Plain.append ?_ (plain_protect ?_)) ?_
        · exact plain_of_not_special (by simp [special, marks])
        · simp [hramp]
        · exact plain_of_not_special (by simp [special, marks])
      rw [Motion.chains, List.forall_mem_cons, List.forall_mem_singleton]
      refine ⟨isPlain_stage (by simp) ?_ ?_ (plain_image i) hzoomed, ?_⟩
      · rw [List.forall_mem_singleton, Ne, ← String.toList_inj]
        simp
      · rw [List.forall_mem_singleton]
        exact hgrow _ (quote_not_mem_secondsText _)
      · exact isPlain_overlay _ hzoomed plain_protect_centerX plain_protect_centerY
  | unrecognized name =>
      rw [Motion.chains, List.forall_mem_singleton]
      refine isPlain_singleton (by simp) ?_ ?_
      · exact plain_of_not_special (by simp [special, marks])
      · simpa using plain_image i

/-- **The caption is plain**, whatever is written and wherever the font lies, if
its colours are. -/
theorem plain_drawing (caption : String) (font : Path) (style : CaptionStyle)
    (hfont : Plain style.fontColor) (hshadow : Plain style.shadowColor) :
    Plain (CaptionOverlay.drawing caption font style) := by
  have hcolon : Plain ":" := plain_of_not_special (by simp [special, marks])
  have hoption {name value : String} (hname : ∀ c ∈ name.toList, c ∉ special)
      (hvalue : Plain value) : Plain (name ++ value) :=
    (plain_of_not_special hname).append hvalue
  -- the sway is an expression with parentheses and needs its quotes
  have hsway : Plain ("x=" ++ Motion.protect ("(w-tw)/2+" ++ toString style.swayAmplitude ++
      "*sin(2*PI*t/" ++ secondsText style.swayPeriod ++ ")")) := by
    refine hoption (by simp [special, marks]) (plain_protect ?_)
    simp [quote_not_mem_toDigits, quote_not_mem_secondsText]
  have hx : s!"x='(w-tw)/2+{style.swayAmplitude}*sin(2*PI*t/{secondsText style.swayPeriod})'" =
      "x=" ++ Motion.protect ("(w-tw)/2+" ++ toString style.swayAmplitude ++
        "*sin(2*PI*t/" ++ secondsText style.swayPeriod ++ ")") := by
    rw [← String.toList_inj]
    simp [Motion.protect]
  unfold CaptionOverlay.drawing
  rw [hx]
  refine Plain.intercalate hcolon ?_
  simp only [List.forall_mem_cons]
  refine ⟨?_, ?_, ?_, hsway, ?_, ?_, ?_, ?_, ?_, ?_, by simp⟩
  · exact hoption (by simp [special, marks]) (plain_escapeValue _)
  · exact hoption (by simp [special, marks]) (plain_escapeValue _)
  · exact plain_of_not_special (by simp [special, marks])
  · exact hoption (by simp [special, marks]) (plain_nat _)
  · exact hoption (by simp [special, marks]) hfont
  · exact hoption (by simp [special, marks]) (plain_nat _)
  · exact hoption (by simp [special, marks]) hshadow
  · exact hoption (by simp [special, marks]) (plain_int _)
  · exact hoption (by simp [special, marks]) (plain_int _)

/-! ## The whole script -/

/-- All chains of a reel are plain. -/
theorem isPlain_chains {r : Resolved} {s : Settings} (hfont : Plain s.caption.fontColor)
    (hshadow : Plain s.caption.shadowColor) :
    ∀ f ∈ fragments (scaleBackground s.canvas) (clipsOf r s)
        (CaptionOverlay.fragment r.caption r.font s.caption),
      ∀ c ∈ f.chains, c.IsPlain := by
  have hscale (size : FrameSize) : scaling size ≠ "" := by
    rw [Ne, ← String.toList_inj]
    simp [scaling]
  have hbackground : ∀ c ∈ (scaleBackground s.canvas).chains, c.IsPlain := by
    rw [scaleBackground, List.forall_mem_singleton]
    refine isPlain_singleton (hscale _) (plain_scaling _) ?_
    simp [plain_inputVideo, plain_background]
  have himage (i : Nat) : ∀ c ∈ (scaleImage i s.clipSize).chains, c.IsPlain := by
    rw [scaleImage, List.forall_mem_singleton]
    refine isPlain_singleton (hscale _) (plain_scaling _) ?_
    simp [plain_inputVideo, plain_image]
  have hcaption : ∀ c ∈ (CaptionOverlay.fragment r.caption r.font s.caption).chains,
      c.IsPlain := by
    rw [CaptionOverlay.fragment, List.forall_mem_singleton]
    refine isPlain_singleton ?_ (plain_drawing _ _ _ hfont hshadow) ?_
    · rw [Ne, ← String.toList_inj, CaptionOverlay.drawing, String.intercalate_cons_cons]
      simp
    · simp [plain_background]
  -- the background first, two fragments for each clip, the caption last
  intro f hf
  rw [fragments, List.cons_append, List.mem_cons, List.mem_append, List.mem_singleton,
    List.mem_flatMap] at hf
  rcases hf with rfl | ⟨clip, hclip, hf⟩ | rfl
  · exact hbackground
  · obtain ⟨i, -, rfl⟩ := List.mem_map.mp hclip
    rw [List.mem_cons, List.mem_singleton] at hf
    rcases hf with rfl | rfl
    · exact himage i
    · exact isPlain_motion _ _ _ _
  · exact hcaption

/-- **The script of a reel reads back as its graph.** Neither the caption nor
the path of the font nor anything else adds, ends or splits a statement, a
filter or a label: the reader finds one chain for each statement, in order and
with the labels and filters that it has in the graph. -/
theorem script_reads_back (r : Resolved) (s : Settings) (himages : r.images ≠ [])
    (hduration : Timeline.isPositive s.duration = true)
    (hfont : ∀ c ∈ s.caption.fontColor.toList, c ∉ ['\\', '\'', '[', ']', ',', ';'])
    (hshadow : ∀ c ∈ s.caption.shadowColor.toList, c ∉ ['\\', '\'', '[', ']', ',', ';']) :
    ∃ g,
      graph r s = .ok g ∧
      g.statements = g.chains.map Chain.text ∧
      readScript g.script = some g.chains := by
  refine ⟨_, graph_eq_ok himages hduration, Graph.statements_eq _, read_script ?_ ?_⟩
  · simp [Graph.chains, fragments, scaleBackground]
  · intro c hc
    obtain ⟨f, hf, hc⟩ := List.mem_flatMap.mp hc
    exact isPlain_chains (plain_of_not_special hfont) (plain_of_not_special hshadow) f hf c hc

/-- A caption full of marks, with the colours of the default settings. -/
def hostileCaption : Resolved where
  background := ⟨"beach.mp4"⟩
  song := ⟨"song.mp3"⟩
  font := ⟨"it's [bold];a.ttf"⟩
  auxiliaryImage := ⟨"blank.jpg"⟩
  style := .zoom
  caption := "';[0:v]null,\\"
  images := [⟨⟨"uploads/1"⟩, "first.jpg"⟩]

theorem script_reads_back_hostileCaption :
    ∃ g,
      graph hostileCaption {} = .ok g ∧
      g.statements = g.chains.map Chain.text ∧
      readScript g.script = some g.chains :=
  script_reads_back hostileCaption {} (by decide) (by decide) (by simp) (by simp)

end VideoGreeting.Composition
