import VideoGreeting.Http.Mount
import VideoGreeting.Http.StaticFiles
import VideoGreeting.Service.Form
import VideoGreeting.Service.Layers
import VideoGreeting.Service.Readiness
import VideoGreeting.Timestamp

/-!
# Answering requests

The routes of the service: the options to choose from, the making of a reel, the checks for
operators, the counters, the finished reels, and below everything else the public pages.
-/

namespace VideoGreeting.Service

open Http

/-! ## Making a reel -/

/-- The response with a finished reel. -/
def reelResponse (reel : Reel) : Response :=
  .json 200 (.object [("videoUrl", .string reel.url), ("status", .string Reel.status)])

/-- The response to a problem. -/
def Problem.response (hide : Bool) (p : Problem) : Response := .json p.status (p.body hide)

/-- The reason under which a failure is counted. -/
def reasonOf (f : Failure) : Reason := if f.isRejection then .validation else .engine

/-- Counts the result of a reel and answers with it. -/
def report (s : Service) (tag : String) (result : Except Failure Reel) (m : Metrics) :
    Response × Metrics :=
  match result with
  | .ok reel => (reelResponse reel, m.complete tag)
  | .error failure =>
    ((Problem.ofFailure failure).response s.settings.isProduction, m.fail tag (reasonOf failure))

/-- Makes a reel of a selection. -/
def makeReel (s : Service) (host : Host) (selection : Selection) (w : World) :
    Option Response × World :=
  let tag := (Style.named selection.animation).tag
  let metrics := w.metrics.start tag
  let (stage, disk) := Production.make s.studio host.engine host.now w.disk selection
  let w := { w with disk, metrics, commands := w.commands ++ stage.command?.toList }
  match stage.result? with
  | none => (none, w)
  | some result =>
    let (response, metrics) := report s tag result metrics
    (some response, { w with metrics })

/-- Takes a form and makes a reel of what it selects. -/
def takeOrder (s : Service) (host : Host) (form : Multipart.Form) (w : World) :
    Option Response × World :=
  let opening : Intake := { disk := w.disk, issued := w.issued }
  match Intake.takeForm host s.settings.uploadFolder form opening with
  | (.error problem, i) =>
    (some (problem.response s.settings.isProduction),
      { w with disk := i.giveUp, issued := i.issued })
  | (.ok (), i) => makeReel s host i.selection { w with disk := i.disk, issued := i.issued }

/-- The response to a body that is no form. -/
def noForm : Response := .plain 400 "Invalid `boundary` for `multipart/form-data` request"

/-- Makes a reel of the form in a request. -/
def createVideo (s : Service) (host : Host) : Handler := fun r w =>
  match (r.header? "content-type").bind Multipart.boundary? with
  | none => (some noForm, w)
  | some boundary => takeOrder s host (Multipart.ofRequest boundary r) w

/-! ## For operators -/

/-- The version of the service. -/
def version : String := "0.1.0"

/-- The response that tells that the service is alive. -/
def health (now : Int) : Response :=
  .json 200 (.object
    [("status", .string "healthy"), ("version", .string version),
      ("timestamp", .string (Timestamp.text now))])

/-- Tells whether reels can be made. -/
def ready (s : Service) (host : Host) (w : World) : Response × World :=
  let (readiness, disk) := Readiness.examine s.studio host.engineFound w.disk
  (.json (if readiness.isReady then 200 else 503) readiness.toJson, { w with disk })

/-! ## Routes -/

/-- Where a request goes. -/
inductive Route where
  | options
  | createVideo
  | health
  | ready
  | metrics
  /-- A finished reel, by the path below the folder. -/
  | reels (path : String)
  /-- The public pages. -/
  | pages
  deriving Repr, DecidableEq

/-- The routes with a path of their own. -/
def Route.named (s : Service) : List (String × Route) :=
  [("options", options), ("create-video", createVideo), ("health", health), ("ready", ready)] ++
    if s.settings.metricsEnabled then [("metrics", metrics)] else []

/-- Whether a path is that of a named route with a slash after it. It does not reach a mount, unless
the mount's first piece goes on from that name with a parameter. -/
def isNamedFolder (s : Service) (m : Mount) (path : String) : Bool :=
  (Route.named s).any fun (name, _) => path == s!"/{name}/" && !m.continues name

/-- The path below the mount of the finished reels, for requests that reach it. -/
def reelPath? (s : Service) (path : String) : Option String := do
  let mount ← Mount.ofText? s.studio.settings.servedUnder
  if isNamedFolder s mount path then none else mount.below? path

/-- The route of a path. -/
def Route.of (s : Service) (path : String) : Route :=
  match (Route.named s).find? fun (name, _) => path == "/" ++ name with
  | some (_, route) => route
  | none =>
    match reelPath? s path with
    | some path => reels path
    | none => pages

/-- The methods that a route is for; those of files are theirs to check. -/
def Route.methods : Route → Option (List String)
  | options | health | ready | metrics => some ["GET", "HEAD"]
  | createVideo => some ["POST"]
  | reels _ | pages => none

/-- Whether a route is for other methods only. -/
def Route.refuses (route : Route) (method : String) : Bool :=
  route.methods.any fun methods => !methods.contains method

/-- Answers a request along its route. -/
def answer (s : Service) (host : Host) (route : Route) : Handler := fun r w =>
  if route.refuses r.method then (some (.empty 405), w)
  else
    match route with
    | .options => (some (.json 200 s.studio.catalog.toJson), w)
    | .createVideo => createVideo s host r w
    | .health => (some (VideoGreeting.Service.health host.now), w)
    | .ready =>
      let (response, w) := VideoGreeting.Service.ready s host w
      (some response, w)
    | .metrics => (some (.plain 200 w.metrics.text), w)
    | .reels path =>
      let folder := s.studio.settings.resolvedOutputFolder
      (some (StaticFiles.serve folder w.disk (host.now / 1000) (r.withPath path)), w)
    | .pages =>
      (some (StaticFiles.serve s.studio.assets.publicFolder w.disk (host.now / 1000) r), w)

/-- All layers around the routes. -/
def layered (s : Service) (host : Host) (route : Route) : Handler :=
  Origins.layer s.settings.origins <| identifying host.identifiers <| secured <| counted <|
    limited s.settings.maxBodySize <| answer s host route

/-- The response as it is sent. A route of its own names its methods to a request with another one,
and its response to `HEAD` has no body. -/
def finish (route : Route) (method : String) (response : Response) : Response :=
  match route.methods with
  | none => response
  | some methods =>
    if !methods.contains method then response.setDefault "allow" (",".intercalate methods)
    else if method = "HEAD" then response.bodiless
    else response

/-- Answers a request. -/
def respond (s : Service) (host : Host) : Handler := fun r w =>
  let route := Route.of s r.path
  let (response, w) := layered s host route r w
  (response.map (finish route r.method), w)

end VideoGreeting.Service
