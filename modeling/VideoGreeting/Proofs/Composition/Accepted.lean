import VideoGreeting.Proofs.Production.Outcome

/-!
# What is accepted is assembled

The clips of a graph need not be alike. A part is all that one clip is made
from, and any parts in a row have a graph, whose fragments stand in the order of
the picture. A reel whose settings and selection were accepted is a case of it.

Main theorem: `accepted_assembles`.
-/

namespace VideoGreeting.Composition

open FilterGraph

/-- What one clip is made from. -/
structure Part where
  style : Style
  size : FrameSize
  window : Window Float

/-- The clips of some parts, numbered in their order. -/
def clipsFrom (duration : Float) (parts : List Part) : List Clip :=
  parts.zipIdx.map fun (part, i) => clip part.style part.size duration part.window i

/-- What the fragments of a graph are for, from the background to the caption:
each clip is scaled and then moved. -/
def rolesFrom (styles : List Style) : List Role :=
  .backgroundScale ::
    (styles.zipIdx.flatMap fun (style, i) => [.imageScale i, .motion i style.tag]) ++ [.caption]

/-- The parts of a reel: images of one style and size, each with its window. -/
def partsOf (r : Resolved) (s : Settings) : List Part :=
  (Timeline.windows s.duration r.clipCount).map fun window =>
    { style := r.style, size := s.clipSize, window }

theorem roles_fragments (canvas : FrameSize) (duration : Float) (parts : List Part)
    (caption : String) (font : Path) (look : CaptionStyle) :
    (fragments (scaleBackground canvas) (clipsFrom duration parts)
      (CaptionOverlay.fragment caption font look)).map Fragment.role =
      rolesFrom (parts.map Part.style) := by
  have hclips : ((clipsFrom duration parts).flatMap fun c => [c.scale, c.motion]).map
      Fragment.role = (parts.map Part.style).zipIdx.flatMap fun (style, i) =>
        [.imageScale i, .motion i style.tag] := by
    rw [clipsFrom, List.flatMap_map, List.map_flatMap, List.zipIdx_map, List.flatMap_map]
    rfl
  rw [fragments, List.map_append, List.map_cons, hclips]
  rfl

/-- Any parts in a row. -/
theorem assemble_clipsFrom (canvas : FrameSize) (duration : Float) {parts : List Part}
    (caption : String) (font : Path) (look : CaptionStyle) (hparts : parts ≠ []) :
    assemble (scaleBackground canvas) (clipsFrom duration parts)
      (CaptionOverlay.fragment caption font look) =
      .ok { fragments := fragments (scaleBackground canvas) (clipsFrom duration parts)
              (CaptionOverlay.fragment caption font look)
            output := .background } := by
  apply assemble_eq_ok
  · simpa [clipsFrom] using hparts
  · intro c hc
    obtain ⟨⟨part, i⟩, -, rfl⟩ := List.mem_map.mp hc
    exact ⟨_, _, _, _, _, rfl⟩

theorem clipsFrom_partsOf (r : Resolved) (s : Settings) :
    clipsFrom s.duration (partsOf r s) = clipsOf r s := by
  rw [← map_zipIdx_windows, clipsFrom, partsOf, List.zipIdx_map, List.map_map]
  rfl

theorem isPositive_of_check {s : Settings} (h : s.check = .ok ()) :
    Timeline.isPositive s.duration = true := by
  unfold Settings.check at h
  split at h
  next => cases h
  next hduration => simpa using hduration

theorem of_resolve_eq_ok {selection : Selection} {catalog : Catalog} {assets : Assets}
    {maxClips : Nat} {r : Resolved} (h : selection.resolve catalog assets maxClips = .ok r) :
    r.style = .named selection.animation ∧ r.images = selection.images := by
  rw [Selection.eq_resolved h]
  exact ⟨rfl, rfl⟩

/-- A reel has one style for all its clips. -/
theorem styles_partsOf (r : Resolved) (s : Settings) :
    (partsOf r s).map Part.style = List.replicate r.images.length r.style := by
  rw [partsOf, List.map_map]
  show List.map (fun _ => r.style) _ = _
  rw [List.map_const']
  simp [Timeline.windows, Resolved.clipCount]

/-- **What is accepted is assembled.** Whatever the parts, the length of the
reel, the caption and its looks are, the graph is made and holds a fragment for
the background, two for each clip in order, and one for the caption, which
leaves the output. So no reel fails for its graph once its settings and its
selection were accepted. -/
theorem accepted_assembles :
    (∀ (canvas : FrameSize) (duration : Float) (parts : List Part) (caption : String)
        (font : Path) (look : CaptionStyle), parts ≠ [] →
      ∃ g,
        assemble (scaleBackground canvas) (clipsFrom duration parts)
          (CaptionOverlay.fragment caption font look) = .ok g ∧
        g.fragments = fragments (scaleBackground canvas) (clipsFrom duration parts)
          (CaptionOverlay.fragment caption font look) ∧
        g.fragments.map Fragment.role = rolesFrom (parts.map Part.style) ∧
        g.output = .background) ∧
    ∀ (s : Settings) (selection : Selection) (catalog : Catalog) (assets : Assets)
        (r : Resolved),
      s.check = .ok () → selection.resolve catalog assets s.maxClips = .ok r →
      ∃ g,
        graph r s = .ok g ∧
        g.fragments.map Fragment.role =
          rolesFrom (List.replicate selection.images.length (.named selection.animation)) ∧
        g.output = .background := by
  constructor
  · intro canvas duration parts caption font look hparts
    exact ⟨_, assemble_clipsFrom canvas duration caption font look hparts, rfl,
      roles_fragments canvas duration parts caption font look, rfl⟩
  · intro s selection catalog assets r hcheck hresolve
    have himages := Production.images_ne_nil_of_resolve hresolve
    obtain ⟨hstyle, hsame⟩ := of_resolve_eq_ok hresolve
    refine ⟨_, graph_eq_ok himages (isPositive_of_check hcheck), ?_, rfl⟩
    dsimp only
    rw [← clipsFrom_partsOf, roles_fragments, styles_partsOf, hstyle, hsame]

/-- A sweep, a style that stands for nothing, and a fade, of which the last two
share a window that begins where the first does. -/
def mixedParts : List Part :=
  [ { style := .slide, size := ⟨320, 180⟩, window := ⟨0.0, 10.0⟩ },
    { style := .unrecognized "]nullsink[", size := ⟨1, 1⟩, window := ⟨0.0, 30.0⟩ },
    { style := .fade, size := ⟨640, 360⟩, window := ⟨0.0, 30.0⟩ } ]

/-- Two images, of which nothing else is asked than that they zoom. -/
def zoomedPair : Selection where
  song := "התקווה"
  background := "כותל"
  animation := "zoom"
  images := [⟨⟨"uploads/1"⟩, "first.jpg"⟩, ⟨⟨"uploads/2"⟩, "second.jpg"⟩]

theorem accepted_assembles_mixedParts :
    (∃ g,
      assemble (scaleBackground ⟨640, 360⟩) (clipsFrom 30.0 mixedParts)
        (CaptionOverlay.fragment "" ⟨"rubik.ttf"⟩ {}) = .ok g ∧
      g.fragments.map Fragment.role =
        [.backgroundScale, .imageScale 0, .motion 0 "slide", .imageScale 1,
          .motion 1 "unrecognized", .imageScale 2, .motion 2 "fade", .caption]) ∧
    Settings.check {} = .ok () ∧
    ∃ r g,
      zoomedPair.resolve .standard ⟨⟨"/assets"⟩⟩ 2 = .ok r ∧
      graph r {} = .ok g ∧
      g.fragments.map Fragment.role =
        [.backgroundScale, .imageScale 0, .motion 0 "zoom", .imageScale 1,
          .motion 1 "zoom", .caption] := by
  have hcheck : Settings.check {} = .ok () := by rfl
  refine ⟨?_, hcheck, ?_⟩
  · obtain ⟨g, hassemble, -, hroles, -⟩ :=
      accepted_assembles.1 ⟨640, 360⟩ 30.0 mixedParts "" ⟨"rubik.ttf"⟩ {} (by decide)
    exact ⟨g, hassemble, hroles⟩
  · have hok : (zoomedPair.resolve .standard ⟨⟨"/assets"⟩⟩ 2).isOk = true := by decide +kernel
    rcases hresolve : zoomedPair.resolve .standard ⟨⟨"/assets"⟩⟩ 2 with reason | r
    · rw [hresolve] at hok
      cases hok
    · obtain ⟨g, hgraph, hroles, -⟩ := accepted_assembles.2 {} _ _ _ r hcheck hresolve
      exact ⟨r, g, rfl, hgraph, hroles⟩

end VideoGreeting.Composition
