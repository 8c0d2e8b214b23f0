import VideoGreeting.FilterGraph.Fragment
import VideoGreeting.Style
import VideoGreeting.Timeline

/-!
# The motion of an image

The fragment that puts the image of a clip on the background and moves it. Every fragment reads
`background` and the image and writes `background` again, so that the fragments of any clips follow
one another. Motion is a function of the time `t`; `W` and `H` are the size of the background, `w`
and `h` that of the image.
-/

namespace VideoGreeting.Motion

open FilterGraph

/-- The horizontal position of an image in the middle. -/
def centerX : String := "(W-w)/2"

/-- The vertical position of an image in the middle. -/
def centerY : String := "(H-h)/2"

/-- An expression protected from the separators of the graph. -/
def protect (expression : String) : String := "'" ++ expression ++ "'"

/-- The option that shows an image during a window only. -/
def gateText : Option (Window Float) → String
  | none => ""
  | some window => ":enable=" ++ protect window.expression

/-- Lays the stream `top` on the background. -/
def overlay (top : Label) (x y : String) (gate : Option (Window Float)) : Chain where
  inputs := [.background, top]
  filters := [s!"overlay=x={x}:y={y}{gateText gate}"]
  outputs := [.background]

/-- A chain from the stream `source` to the stream `target`. -/
def stage (source : Label) (filters : List String) (target : Label) : Chain where
  inputs := [source]
  filters := filters
  outputs := [target]

/-- The chains for a clip. The sweeps of `slide` and `bounce` take the length of the reel as their
period, and `zoom` grows during the first third of it. -/
def chains (style : Style) (clip : Nat) (window : Window Float) (duration : Float) : List Chain :=
  let image := Label.image clip
  let period := secondsText duration
  let gate := if style.isGated then some window else none
  match style with
  | .slide =>
    [overlay image (protect s!"{centerX}+(W/4)*sin(PI*t/{period})") centerY gate]
  | .bounce =>
    [overlay image (protect s!"{centerX}+(W/4)*sin(2*PI*t/{period})")
      (protect s!"{centerY}+(H/4)*abs(sin(2*PI*t/{period}))") gate]
  | .rotate =>
    let rotated := Label.imageStage clip "rotated"
    [stage image ["rotate='4*PI*t/60':c=none"] rotated,
      overlay rotated (protect centerX) (protect centerY) gate]
  | .fade =>
    let faded := Label.imageStage clip "faded"
    let looped := Label.imageStage clip "looped"
    [stage image ["format=rgba", "fade=in:st=0:d=1:alpha=1", "fade=out:st=4:d=3:alpha=0"] faded,
      stage faded ["loop=loop=-1:size=70:start=0"] looped,
      overlay looped centerX centerY gate]
  | .zoom =>
    let zoomed := Label.imageStage clip "zoomed"
    let ramp := secondsText (duration / 3.0)
    [stage image [s!"scale='min(iw*1.5,iw*0.1+(iw*1.4*t/{ramp}))':-1:eval=frame"] zoomed,
      overlay zoomed (protect centerX) (protect centerY) gate]
  | .unrecognized _ =>
    -- the image is read and thrown away, so that its label does not stay live
    [{ inputs := [image], filters := ["nullsink"] }]

/-- The fragment for a clip. -/
def fragment (style : Style) (clip : Nat) (window : Window Float) (duration : Float) :
    Fragment where
  role := .motion clip style.tag
  chains := chains style clip window duration

end VideoGreeting.Motion
