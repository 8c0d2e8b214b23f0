import VideoGreeting.Json
import VideoGreeting.Text.Blank

/-!
# Motion styles

How the uploaded images of a reel move. A style is chosen by its display name or by its tag; any
other text is kept as an unrecognized style, under which the images do not appear.
-/

namespace VideoGreeting

/-- The motion of the images. -/
inductive Style where
  /-- Fades in, then out. -/
  | fade
  /-- Turns all the time. -/
  | rotate
  /-- Grows up to a cap. -/
  | zoom
  /-- Sweeps from side to side. -/
  | slide
  /-- Sweeps from side to side and bounces. -/
  | bounce
  /-- A name that stands for no style. -/
  | unrecognized (name : String)
  deriving Repr, DecidableEq, Inhabited

namespace Style

/-- The styles that can be chosen, in the order in which they are offered. -/
def known : List Style := [fade, rotate, zoom, slide, bounce]

/-- The style for a display name or a tag, white space around it apart. -/
def named (name : String) : Style :=
  let name := Text.trim name
  if name = "דעיכה" ∨ name = "fade" then fade
  else if name = "סחרור" ∨ name = "rotate" then rotate
  else if name = "זום" ∨ name = "zoom" then zoom
  else if name = "מחליק פנימה" ∨ name = "slide" then slide
  else if name = "אלכסון" ∨ name = "bounce" then bounce
  else unrecognized name

/-- The name under which a style is offered. -/
def displayName? : Style → Option String
  | fade => some "דעיכה"
  | rotate => some "סחרור"
  | zoom => some "זום"
  | slide => some "מחליק פנימה"
  | bounce => some "אלכסון"
  | unrecognized _ => none

/-- The short name of a style, the same for all unrecognized ones. -/
def tag : Style → String
  | fade => "fade"
  | rotate => "rotate"
  | zoom => "zoom"
  | slide => "slide"
  | bounce => "bounce"
  | unrecognized _ => "unrecognized"

/-- Whether an image is shown only during the window of its clip. -/
def isGated : Style → Bool
  | slide | bounce | zoom => true
  | fade | rotate | unrecognized _ => false

/-- Whether the style is one of those offered. -/
def isRecognized : Style → Bool
  | unrecognized _ => false
  | _ => true

/-! ## Exchange -/

/-- A recognized style is its tag, another one a record of its name. -/
def toJson : Style → Json
  | unrecognized name => .object [("unrecognized", .string name)]
  | style => .string style.tag

/-- The style with a tag. -/
def ofTag? (tag : String) : Option Style := known.find? (·.tag == tag)

/-- Reads a style: its tag, or a record with one field, which is the tag without a value or an
unrecognized name. -/
def ofJson? : Json → Option Style
  | .string tag => ofTag? tag
  | .object [("unrecognized", value)] => value.string?.map unrecognized
  | .object [(tag, .null)] => ofTag? tag
  | _ => none

end Style

end VideoGreeting
