import VideoGreeting.Composition
import VideoGreeting.Proofs.FilterGraph.Labels
import VideoGreeting.Proofs.FilterGraph.Linearity

/-!
# The graph of a reel is always assembled

Whatever the styles, windows and sizes of its clips, a reel with a clip has a
graph. Before and after each clip `background` is the only live label; so clips
follow one another in any number, and `graph_eq_ok` gives the graph of a
resolved selection outright.
-/

namespace VideoGreeting.Composition

open FilterGraph

/-! ## One clip -/

/-- **One clip.** Whatever its style, a clip takes `background` and leaves
`background`, and nothing else is live between clips. -/
theorem follow_clip (style : Style) (size : FrameSize) (duration : Float)
    (window : Window Float) (i : Nat) :
    follow [.background]
      ((scaleImage i size).events ++ (Motion.fragment style i window duration).events) =
      ([.background], none) := by
  -- the image is scaled
  have hscale : follow [.background] (scaleImage i size).events =
      ([.image i, .background], none) := by
    simp [scaleImage, Fragment.events, Chain.events, follow, Event.after?]
  rw [follow_append, hscale]
  dsimp only
  cases style with
  | slide | bounce =>
      simp [Motion.fragment, Motion.chains, Motion.overlay, Fragment.events,
        Chain.events, follow, Event.after?]
  | rotate | fade | zoom =>
      simp [Motion.fragment, Motion.chains, Motion.overlay, Motion.stage,
        Fragment.events, Chain.events, follow, Event.after?]
  | unrecognized name =>
      simp [Motion.fragment, Motion.chains, Fragment.events, Chain.events,
        follow, Event.after?]

/-- What a clip is made of: the scaling of an image and its motion. -/
def IsClip (c : Clip) : Prop :=
  ∃ style size duration window i, c = clip style size duration window i

/-- **Any clips.** However many there are and whatever their styles, they take
`background` and leave `background`. -/
theorem follow_clips (clips : List Clip) (hclips : ∀ c ∈ clips, IsClip c) :
    follow [.background]
      ((clips.flatMap fun c => [c.scale, c.motion]).flatMap Fragment.events) =
      ([.background], none) := by
  induction clips with
  | nil => rfl
  | cons c clips ih =>
      obtain ⟨style, size, duration, window, i, rfl⟩ := hclips c List.mem_cons_self
      rw [List.flatMap_cons, List.flatMap_append, follow_append]
      rw [show [(clip style size duration window i).scale,
          (clip style size duration window i).motion].flatMap Fragment.events =
          (scaleImage i size).events ++ (Motion.fragment style i window duration).events
        from by simp [clip]]
      rw [follow_clip]
      exact ih fun c' hc' => hclips c' (List.mem_cons_of_mem _ hc')

/-! ## The whole reel -/

/-- **A reel with a clip has a graph**, which holds all its fragments. -/
theorem assemble_eq_ok (canvas : FrameSize) (clips : List Clip) (caption : String)
    (font : Path) (look : CaptionStyle) (hne : clips ≠ [])
    (hclips : ∀ c ∈ clips, IsClip c) :
    assemble (scaleBackground canvas) clips (CaptionOverlay.fragment caption font look) =
      .ok { fragments := fragments (scaleBackground canvas) clips
              (CaptionOverlay.fragment caption font look)
            output := .background } := by
  have hbackground : follow [] (scaleBackground canvas).events = ([.background], none) := by
    simp [scaleBackground, Fragment.events, Chain.events, follow, Event.after?]
  have hcaption : follow [.background]
      (CaptionOverlay.fragment caption font look).events = ([.background], none) := by
    simp [CaptionOverlay.fragment, Fragment.events, Chain.events, follow, Event.after?]
  have hpush : Assembly.pushAll {} (fragments (scaleBackground canvas) clips
      (CaptionOverlay.fragment caption font look)) =
      .ok { fragments := fragments (scaleBackground canvas) clips
              (CaptionOverlay.fragment caption font look)
            live := [.background] } := by
    rw [Assembly.pushAll_eq_ok_iff]
    refine ⟨?_, rfl⟩
    show follow [] _ = _
    rw [fragments, List.flatMap_append, List.flatMap_cons, List.flatMap_singleton,
      List.append_assoc, follow_append, hbackground]
    dsimp only
    rw [follow_append, follow_clips clips hclips]
    exact hcaption
  have hempty : clips.isEmpty = false := List.isEmpty_eq_false_iff.mpr hne
  rw [assemble, hempty, if_neg Bool.false_ne_true, hpush]
  show Assembly.finish { fragments := _, live := [.background] } .background = _
  rw [Assembly.finish_eq_ok_iff]
  exact ⟨fun _ => List.mem_singleton, rfl⟩

/-! ## The clips of a selection -/

/-- Clip `i` of a reel. -/
def clipOf (r : Resolved) (s : Settings) (i : Nat) : Clip :=
  clip r.style s.clipSize s.duration (Timeline.window s.duration r.clipCount i) i

/-- The clips of a reel in the order of upload. -/
def clipsOf (r : Resolved) (s : Settings) : List Clip :=
  (List.range r.clipCount).map (clipOf r s)

theorem isClip_of_mem_clipsOf {r : Resolved} {s : Settings} {c : Clip}
    (h : c ∈ clipsOf r s) : IsClip c := by
  obtain ⟨i, -, rfl⟩ := List.mem_map.mp h
  exact ⟨_, _, _, _, _, rfl⟩

theorem plan_eq_ok {duration : Float} {n : Nat} (hn : n ≠ 0)
    (hduration : Timeline.isPositive duration = true) :
    Timeline.plan duration n = .ok (Timeline.windows duration n) :=
  Timeline.plan_eq_ok_iff.mpr ⟨hn, hduration, rfl⟩

/-- The windows, numbered, give the clips. -/
theorem map_zipIdx_windows (r : Resolved) (s : Settings) :
    ((Timeline.windows s.duration r.clipCount).zipIdx.map fun (window, i) =>
      clip r.style s.clipSize s.duration window i) = clipsOf r s := by
  apply List.ext_getElem
  · simp [Timeline.windows, clipsOf]
  · intro i hi hi'
    simp [Timeline.windows, clipsOf, clipOf]

/-- **The graph of a reel.** A resolved selection with an image has a graph
whenever the reel has a length. -/
theorem graph_eq_ok {r : Resolved} {s : Settings} (himages : r.images ≠ [])
    (hduration : Timeline.isPositive s.duration = true) :
    graph r s =
      .ok { fragments := fragments (scaleBackground s.canvas) (clipsOf r s)
              (CaptionOverlay.fragment r.caption r.font s.caption)
            output := .background } := by
  have hcount : r.clipCount ≠ 0 := by simpa [Resolved.clipCount] using himages
  have hclips : clipsOf r s ≠ [] := by simpa [clipsOf] using hcount
  have hassemble := assemble_eq_ok s.canvas (clipsOf r s) r.caption r.font s.caption
    hclips fun _ hc => isClip_of_mem_clipsOf hc
  rw [graph, plan_eq_ok hcount hduration]
  show (assemble _ ((Timeline.windows s.duration r.clipCount).zipIdx.map _) _).mapError _ = _
  rw [map_zipIdx_windows, hassemble]
  rfl

end VideoGreeting.Composition
