import VideoGreeting.Composition
import VideoGreeting.Disk.Guard
import VideoGreeting.Engine.Command

/-!
# The job of making a reel

The engine command for an accepted selection and its graph. The inputs are the background, the
images, the song and, where it is wanted, the auxiliary image. The job owns the uploaded images and
the output file until the reel is finished.
-/

namespace VideoGreeting

/-- The engine input that holds the song of a reel. -/
def songInput (clipCount : Nat) : Nat := clipCount + 1

/-- What a reel made at an instant, in milliseconds, is called. -/
def outputStem (now : Int) : String := s!"output_{now}"

/-- One engine run and the files that it owns. -/
structure Job where
  command : Engine.Command
  output : Path
  owned : Guard
  deriving Repr, Inhabited

namespace Job

/-- The command with all inputs declared. -/
def declareInputs (r : Resolved) (s : Settings) (output : Path) : Engine.Command :=
  let background := Engine.Command.loopedInput { output } r.background (some s.duration)
  let images := r.images.foldl
    (fun c image => c.loopedInput image.path (some s.clipDuration)) background
  let song := images.input r.song
  if s.auxiliaryInput then song.input r.auxiliaryImage else song

/-- The command of a reel. -/
def commandOf (r : Resolved) (g : FilterGraph.Graph) (s : Settings) (output : Path) :
    Engine.Command :=
  declareInputs r s output
    |>.filterGraph g.script
    |>.map g.output.text
    |>.map (FilterGraph.Label.inputAudio (songInput r.clipCount)).name
    |>.withOptions s.encoding.arguments
    |>.lasting s.duration

/-- The job of a reel. -/
def of (r : Resolved) (g : FilterGraph.Graph) (s : Settings) (output : Path) : Job where
  command := commandOf r g s output
  output := output
  owned := (Guard.mk (r.images.map (·.path))).push output

/-- The uploaded images, which go when the job is done. -/
def uploads (j : Job) : List Path := j.owned.paths.filter (!·.same j.output)

/-- The files that the engine reads, in the order of the inputs. -/
def inputFiles (j : Job) : List Path := j.command.inputs.map (·.path)

end Job

end VideoGreeting
