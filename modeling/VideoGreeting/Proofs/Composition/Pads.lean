import VideoGreeting.Proofs.Composition.Assembled
import VideoGreeting.Proofs.Disk.Files
import VideoGreeting.Proofs.FilterGraph.Streams

/-!
# The pads of a reel's graph

The graph of a reel reads the picture of every input once: first that of the
background and then those of the images, in the order of upload.
-/

namespace VideoGreeting.Composition

open FilterGraph

/-- Only a reel with an image and a length has a graph. -/
theorem of_graph_eq_ok {r : Resolved} {s : Settings} {g : Graph} (h : graph r s = .ok g) :
    r.images ≠ [] ∧ Timeline.isPositive s.duration = true := by
  simp only [graph, Disk.bind_eq_ok, Disk.mapError_eq_ok, Timeline.plan_eq_ok_iff] at h
  obtain ⟨-, ⟨hcount, hduration, -⟩, -⟩ := h
  exact ⟨by simpa [Resolved.clipCount] using hcount, hduration⟩

/-- The chains of a reel's graph: of the background, of clip after clip, and of the
caption. -/
theorem chains_fragments (background caption : Fragment) (clips : List Clip) (output : Label) :
    Graph.chains { fragments := fragments background clips caption, output } =
      background.chains ++ (clips.flatMap fun c => c.scale.chains ++ c.motion.chains) ++
        caption.chains := by
  simp [Graph.chains, fragments, List.flatMap_assoc]

/-- The pads among the inputs of chains. -/
def padsIn (chains : List Chain) : List Label := (chains.flatMap Chain.inputs).filter Label.isPad

theorem padsIn_append (chains chains' : List Chain) :
    padsIn (chains ++ chains') = padsIn chains ++ padsIn chains' := by
  simp [padsIn]

/-- **The pads of one clip.** Its image is read when it is scaled, and whatever the
style does with it then, no other pad is read. -/
theorem padsIn_clip (style : Style) (size : FrameSize) (duration : Float)
    (window : Window Float) (i : Nat) :
    padsIn ((clip style size duration window i).scale.chains ++
      (clip style size duration window i).motion.chains) = [.inputVideo (i + 1)] := by
  have hmotion : padsIn (Motion.chains style i window duration) = [] := by
    cases style with
    | slide | bounce => simp [padsIn, Motion.chains, Motion.overlay]
    | rotate | fade | zoom => simp [padsIn, Motion.chains, Motion.overlay, Motion.stage]
    | unrecognized name => simp [padsIn, Motion.chains]
  show padsIn ((scaleImage i size).chains ++ Motion.chains style i window duration) = _
  rw [padsIn_append, hmotion, List.append_nil]
  simp [padsIn, scaleImage, imageInput]

theorem padsIn_clips (r : Resolved) (s : Settings) (indices : List Nat) :
    padsIn ((indices.map (clipOf r s)).flatMap fun c => c.scale.chains ++ c.motion.chains) =
      indices.map fun i => .inputVideo (i + 1) := by
  induction indices with
  | nil => rfl
  | cons i indices ih =>
      rw [List.map_cons, List.flatMap_cons, padsIn_append, ih, clipOf, padsIn_clip]
      rfl

/-- **The pads of a reel.** Every input from the background to the last image is
read once, and nothing else. -/
theorem pads_graph {r : Resolved} {s : Settings} {g : Graph} (h : graph r s = .ok g) :
    g.pads = (List.range (r.clipCount + 1)).map .inputVideo := by
  obtain ⟨himages, hduration⟩ := of_graph_eq_ok h
  rw [graph_eq_ok himages hduration] at h
  cases h
  have hbackground : padsIn (scaleBackground s.canvas).chains = [.inputVideo 0] := by
    simp [padsIn, scaleBackground, backgroundInput]
  have hcaption : padsIn (CaptionOverlay.fragment r.caption r.font s.caption).chains = [] := by
    simp [padsIn, CaptionOverlay.fragment]
  show padsIn (Graph.chains _) = _
  rw [chains_fragments, padsIn_append, padsIn_append, hbackground, hcaption, clipsOf, padsIn_clips,
    List.range_succ_eq_map]
  simp

theorem output_graph {r : Resolved} {s : Settings} {g : Graph} (h : graph r s = .ok g) :
    g.output = .background := by
  obtain ⟨himages, hduration⟩ := of_graph_eq_ok h
  rw [graph_eq_ok himages hduration] at h
  cases h
  rfl

end VideoGreeting.Composition
