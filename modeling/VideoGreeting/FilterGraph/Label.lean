import VideoGreeting.Number.Numeral
import VideoGreeting.Text.Blank

/-!
# Stream labels

The names by which the chains of a filter graph hand streams to each other. The streams of the
engine's own inputs have labels such as `1:v`, which may be read at any time.
-/

namespace VideoGreeting.FilterGraph

/-- The name of a stream. -/
structure Label where
  name : String
  deriving Repr, DecidableEq, Inhabited

namespace Label

/-- The composite, which every stage reads and writes anew. -/
def background : Label := ⟨"background"⟩

/-- The scaled image of a clip. -/
def image (clip : Nat) : Label := ⟨s!"image-{clip}"⟩

/-- An intermediate stage of the image of a clip. -/
def imageStage (clip : Nat) (stage : String) : Label := ⟨s!"image-{clip}-{stage}"⟩

/-- The video stream of an engine input. -/
def inputVideo (n : Nat) : Label := ⟨s!"{n}:v"⟩

/-- The audio stream of an engine input. -/
def inputAudio (n : Nat) : Label := ⟨s!"{n}:a"⟩

/-- Whether a label stands for a stream of an engine input: digits, a colon, and `v` or `a`. -/
def isPad (l : Label) : Bool :=
  match Text.splitOnce ':' l.name.toList with
  | some (index, kind) =>
    !index.isEmpty && index.all Number.isDigit && (kind == ['v'] || kind == ['a'])
  | none => false

/-- The label as it stands in a graph. -/
def text (l : Label) : String := "[" ++ l.name ++ "]"

end Label

end VideoGreeting.FilterGraph
