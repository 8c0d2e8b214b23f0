import VideoGreeting.FilterGraph.Escape
import VideoGreeting.FilterGraph.Fragment
import VideoGreeting.Path
import VideoGreeting.Timeline

/-!
# The caption on a reel

The caption is drawn above all imagery and sways from side to side. Glyphs are laid out from left to
right, so a caption that is read from right to left is given in reverse.
-/

namespace VideoGreeting

/-- How captions look. -/
structure CaptionStyle where
  fontSize : Nat := 70
  fontColor : String := "red"
  shadowColor : String := "white"
  shadowOffset : Int := 3
  /-- Distance from the upper edge. -/
  topOffset : Nat := 20
  /-- How far the caption sways, in pixels. -/
  swayAmplitude : Nat := 30
  /-- The time of one sway. -/
  swayPeriod : Float := 5.0
  deriving Repr, Inhabited

namespace CaptionOverlay

open FilterGraph

/-- The characters of a caption from the last to the first. -/
def reversed (caption : String) : String := String.ofList caption.toList.reverse

/-- The filter that draws a caption. -/
def drawing (caption : String) (font : Path) (style : CaptionStyle) : String :=
  ":".intercalate
    [ s!"drawtext=fontfile={escapeValue font.text}",
      s!"text={escapeValue (reversed caption)}",
      "expansion=none",
      s!"x='(w-tw)/2+{style.swayAmplitude}*sin(2*PI*t/{secondsText style.swayPeriod})'",
      s!"y={style.topOffset}",
      s!"fontcolor={style.fontColor}",
      s!"fontsize={style.fontSize}",
      s!"shadowcolor={style.shadowColor}",
      s!"shadowx={style.shadowOffset}",
      s!"shadowy={style.shadowOffset}" ]

/-- The fragment that draws a caption on the background. -/
def fragment (caption : String) (font : Path) (style : CaptionStyle) : Fragment where
  role := .caption
  chains :=
    [{ inputs := [.background], filters := [drawing caption font style],
       outputs := [.background] }]

end CaptionOverlay

end VideoGreeting
