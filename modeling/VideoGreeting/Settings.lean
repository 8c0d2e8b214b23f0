import VideoGreeting.CaptionOverlay
import VideoGreeting.Encoding
import VideoGreeting.Environment

/-!
# Settings

Everything that shapes a reel apart from what the customer picks.
-/

namespace VideoGreeting

/-- The size of a stream in pixels. -/
structure FrameSize where
  width : Nat
  height : Nat
  deriving Repr, DecidableEq, Inhabited

/-- The settings of a studio. -/
structure Settings where
  /-- The length of a reel in seconds. -/
  duration : Float := 30.0
  /-- How long the stream of an uploaded image runs. It has no bearing on the windows. -/
  clipDuration : Float := 15.0
  /-- The greatest number of images. -/
  maxClips : Nat := 2
  /-- The size of the background. -/
  canvas : FrameSize := ⟨640, 360⟩
  /-- The size to which images are brought before they move. -/
  clipSize : FrameSize := ⟨320, 180⟩
  encoding : Encoding := {}
  caption : CaptionStyle := {}
  assetRoot : Path := ⟨"."⟩
  /-- Where finished reels go; a relative path is taken from the asset root. -/
  outputFolder : Path := ⟨"public/outputs"⟩
  /-- Under which path finished reels are served. -/
  servedUnder : String := "outputs"
  /-- Whether the engine gets the auxiliary image as its last input. -/
  auxiliaryInput : Bool := true
  /-- After how many seconds the engine is stopped. -/
  timeout : Option Nat := some 300
  deriving Repr, Inhabited

namespace Settings

/-- The time limit that a variable asks for: `0` for none, and the default for anything that is no
number. -/
def timeoutOf (standard : Option Nat) (value : Option String) : Option Nat :=
  match value.bind (Number.readNat? Number.maxWord64) with
  | some 0 => none
  | some limit => some limit
  | none => standard

/-- The settings that an environment asks for. A clip runs for half the reel unless it is given. -/
def ofEnvironment (env : Environment) : Settings :=
  let standard : Settings := {}
  let duration := (env.float? "MOVIE_DURATION_SECS").getD standard.duration
  { standard with
    duration
    clipDuration := (env.float? "CLIP_DURATION_SECS").getD (duration / 2.0)
    assetRoot := ((env.get? "ASSET_ROOT").map Path.mk).getD standard.assetRoot
    outputFolder := ((env.get? "OUTPUT_DIR").map Path.mk).getD standard.outputFolder
    timeout := timeoutOf standard.timeout (env.get? "RENDER_TIMEOUT_SECS") }

/-- The folder of finished reels. -/
def resolvedOutputFolder (s : Settings) : Path :=
  if s.outputFolder.isAbsolute then s.outputFolder else s.assetRoot.join s.outputFolder

/-- Why settings are refused. -/
inductive Fault where
  | duration (given : Float)
  | clipDuration (given : Float)
  | noClips
  deriving Repr

/-- The wording of a fault. -/
def Fault.message : Fault → String
  | duration given => s!"movie duration must be positive, got {Number.shortestText given}"
  | clipDuration given => s!"clip duration must be positive, got {Number.shortestText given}"
  | noClips => "max_clips must be at least 1"

/-- Accepts settings with positive durations under which a reel may have an image. -/
def check (s : Settings) : Except Fault Unit :=
  if !Timeline.isPositive s.duration then .error (.duration s.duration)
  else if !Timeline.isPositive s.clipDuration then .error (.clipDuration s.clipDuration)
  else if s.maxClips = 0 then .error .noClips
  else .ok ()

end Settings

end VideoGreeting
