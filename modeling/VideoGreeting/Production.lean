import VideoGreeting.Engine.Program
import VideoGreeting.Job

/-!
# Making a reel

A reel in the making goes through stages, from the selection as received to the finished reel or the
failure. Each step does one thing to the disk, so that reels made at the same time can be thought of
as taking turns, and one can be abandoned between any two steps. Every stage knows the files that it
owns; they are removed when the work fails or is abandoned, and a finished reel owns none.
-/

namespace VideoGreeting

/-- Where reels are made, by which settings and from which catalog. -/
structure Studio where
  settings : Settings
  catalog : Catalog
  deriving Repr, Inhabited

/-- The assets of a studio. -/
def Studio.assets (s : Studio) : Assets := ⟨s.settings.assetRoot⟩

/-- A finished reel: the path under which it is served, and its file. -/
structure Reel where
  url : String
  path : Path
  deriving Repr, DecidableEq, Inhabited

/-- The status of a finished reel. -/
def Reel.status : String := "complete"

/-- The path under which a file is served: its name below `servedUnder`. -/
def Settings.urlOf (s : Settings) (path : Path) : String :=
  let name := path.fileName?.getD ""
  let front := String.ofList (Text.stripEndBy (· == '/') s.servedUnder.toList)
  if front.isEmpty then name else s!"{front}/{name}"

/-- The reel in a file. -/
def Reel.of (s : Settings) (path : Path) : Reel := ⟨s.urlOf path, path⟩

namespace Production

/-- An accepted selection and its graph. -/
structure Plan where
  resolved : Resolved
  graph : FilterGraph.Graph
  deriving Repr, Inhabited

/-- Accepts a selection and composes its graph. Nothing on the disk matters. -/
def plan (studio : Studio) (selection : Selection) : Except Failure Plan := do
  let resolved ← (selection.resolve studio.catalog studio.assets studio.settings.maxClips).mapError
    Failure.rejected
  let graph ← Composition.graph resolved studio.settings
  return { resolved, graph }

/-- How far a reel has come. -/
inductive Stage where
  /-- Nothing was done with the selection yet. -/
  | received (selection : Selection)
  /-- The selection is accepted; the output folder comes next. -/
  | opening (plan : Plan)
  /-- The folder is there; the next name for the output is tried. -/
  | reserving (plan : Plan) (stem : String) (attempt : Nat)
  /-- The output is reserved; some inputs are yet to be looked for. -/
  | checking (job : Job) (remaining : List Path)
  /-- The engine is started. -/
  | rendering (job : Job)
  /-- The work is over; `command` is what the engine was run with, if it was. -/
  | finished (result : Except Failure Reel) (command : Option Engine.Command)

namespace Stage

/-- The uploaded images of a selection. -/
def uploadsOf (images : List UploadedImage) : Guard := ⟨images.map (·.path)⟩

/-- The files that a stage owns. -/
def owned : Stage → Guard
  | received _ => .empty
  | opening plan | reserving plan _ _ => uploadsOf plan.resolved.images
  | checking job _ | rendering job => job.owned
  | finished _ _ => .empty

/-- The command that the engine was started with. -/
def command? : Stage → Option Engine.Command
  | rendering job => some job.command
  | finished _ command => command
  | _ => none

/-- The result, once there is one. -/
def result? : Stage → Option (Except Failure Reel)
  | finished result _ => some result
  | _ => none

end Stage

/-- The extension of reels. -/
def reelExtension : String := "mp4"

/-- Ends the work with a failure; the files it owns are removed. -/
def fail (owned : Guard) (failure : Failure) (command : Option Engine.Command) (d : Disk) :
    Stage × Disk :=
  (.finished (.error failure) command, owned.drop d)

/-- The disk after the engine wrote to the output of a job. -/
def deliver (job : Job) (written : Option Text.Bytes) (d : Disk) : Disk :=
  match written with
  | some content => (d.write job.output content).toOption.getD d
  | none => d

/-- One step of the work. A finished reel does not change any more, and neither does one for which
the engine runs forever. -/
def step (studio : Studio) (engine : Engine.Command → Engine.Run) (now : Int) (d : Disk) :
    Stage → Stage × Disk
  | .received selection =>
    match plan studio selection with
    | .ok plan => (.opening plan, d)
    | .error failure => fail (Stage.uploadsOf selection.images) failure none d
  | .opening plan =>
    match d.ensureFolder studio.settings.resolvedOutputFolder with
    | (.ok (), d) => (.reserving plan (outputStem now) 0, d)
    | (.error fault, d) => fail (Stage.uploadsOf plan.resolved.images) (.disk fault) none d
  | .reserving plan stem attempt =>
    let folder := studio.settings.resolvedOutputFolder
    let failWith (fault : Fault) : Stage × Disk :=
      fail (Stage.uploadsOf plan.resolved.images) (.disk fault) none d
    if attempt < Disk.maxAttempts then
      match d.tryReserve folder stem reelExtension attempt with
      | .reserved path d =>
        let job := Job.of plan.resolved plan.graph studio.settings path
        (.checking job job.inputFiles, d)
      | .taken => (.reserving plan stem (attempt + 1), d)
      | .failed fault => failWith fault
    else failWith (Disk.noneLeft folder stem reelExtension)
  | .checking job [] => (.rendering job, d)
  | .checking job (path :: rest) =>
    if d.holds path then (.checking job rest, d) else fail job.owned (.fileMissing path) none d
  | .rendering job =>
    let run := engine job.command
    let d := deliver job run.written d
    match run.result with
    | none => (.rendering job, d)
    | some (.ok ()) =>
      (.finished (.ok (.of studio.settings job.output)) job.command,
        (job.owned.release job.output).drop d)
    | some (.error failure) => fail job.owned failure job.command d
  | .finished result command => (.finished result command, d)

/-- Gives up a reel: what it owns is removed. -/
def abandon (stage : Stage) (d : Disk) : Disk := stage.owned.drop d

/-- Takes a number of steps. -/
def advance (studio : Studio) (engine : Engine.Command → Engine.Run) (now : Int) :
    Nat → Stage × Disk → Stage × Disk
  | 0, state => state
  | n + 1, (stage, d) => advance studio engine now n (step studio engine now d stage)

/-- How many steps suffice for a selection: the first two, one for each name that is tried, one for
each input, and the last ones. -/
def stepBound (selection : Selection) : Nat := Disk.maxAttempts + selection.images.length + 8

/-- Makes a reel of a selection, from the first step until it is finished or the engine turns out to
run forever. -/
def make (studio : Studio) (engine : Engine.Command → Engine.Run) (now : Int) (d : Disk)
    (selection : Selection) : Stage × Disk :=
  advance studio engine now (stepBound selection) (.received selection, d)

end Production

end VideoGreeting
