import VideoGreeting.CaptionOverlay
import VideoGreeting.Failure
import VideoGreeting.Motion
import VideoGreeting.Resolution
import VideoGreeting.Settings

/-!
# The filter graph of a reel

The background is scaled first, then each image in the order of upload is scaled and laid upon it,
and the caption comes last.
-/

namespace VideoGreeting.Composition

open FilterGraph

/-- The engine input that holds the background. -/
def backgroundInput : Nat := 0

/-- The engine input that holds the image of a clip. -/
def imageInput (clip : Nat) : Nat := clip + 1

/-- The filter that brings a stream to a size. -/
def scaling (size : FrameSize) : String := s!"scale={size.width}:{size.height}"

/-- Brings the background to the size of the canvas. -/
def scaleBackground (canvas : FrameSize) : Fragment where
  role := .backgroundScale
  chains :=
    [{ inputs := [.inputVideo backgroundInput], filters := [scaling canvas],
       outputs := [.background] }]

/-- Brings the image of a clip to the size of clips. -/
def scaleImage (clip : Nat) (size : FrameSize) : Fragment where
  role := .imageScale clip
  chains :=
    [{ inputs := [.inputVideo (imageInput clip)], filters := [scaling size],
       outputs := [.image clip] }]

/-- What one clip adds to the graph. -/
structure Clip where
  scale : Fragment
  motion : Fragment
  deriving Repr, DecidableEq, Inhabited

/-- The fragments of a reel in their order. -/
def fragments (background : Fragment) (clips : List Clip) (caption : Fragment) : List Fragment :=
  background :: (clips.flatMap fun clip => [clip.scale, clip.motion]) ++ [caption]

/-- The graph of a background, clips and a caption. -/
def assemble (background : Fragment) (clips : List Clip) (caption : Fragment) :
    Except FilterGraph.Fault Graph := do
  if clips.isEmpty then throw .noClips
  let assembly ← Assembly.pushAll {} (fragments background clips caption)
  assembly.finish .background

/-- The clip number `i` of a reel. -/
def clip (style : Style) (size : FrameSize) (duration : Float) (window : Window Float) (i : Nat) :
    Clip where
  scale := scaleImage i size
  motion := Motion.fragment style i window duration

/-- The graph of a reel. -/
def graph (r : Resolved) (s : Settings) : Except Failure Graph := do
  let windows ← (Timeline.plan s.duration r.clipCount).mapError fun fault =>
    Failure.timeline fault.message
  let clips := windows.zipIdx.map fun (window, i) => clip r.style s.clipSize s.duration window i
  let caption := CaptionOverlay.fragment r.caption r.font s.caption
  (assemble (scaleBackground s.canvas) clips caption).mapError Failure.graph

end VideoGreeting.Composition
