import VideoGreeting.Failure
import VideoGreeting.Json
import VideoGreeting.Production

/-!
# Readiness

Whether reels can be made: the engine can be found, the output folder can be written to, and no
asset is missing.
-/

namespace VideoGreeting.Service

/-- The result of one check: what is wrong, if anything is. -/
abbrev Check := Option String

namespace Check

/-- Whether nothing is wrong. -/
def isOk (c : Check) : Bool := c.isNone

/-- A check as clients see it. The clock stands still while a request is answered, so a check takes
no time. -/
def toJson : Check → Json
  | none => .object [("status", .string "ok"), ("latency_ms", .int 0)]
  | some error => .object [("status", .string "error"), ("error", .string error)]

end Check

/-- All checks. -/
structure Readiness where
  engine : Check
  outputFolder : Check
  assets : Check
  deriving Repr, DecidableEq

namespace Readiness

/-- Whether all checks are passed. -/
def isReady (r : Readiness) : Bool := r.engine.isOk && r.outputFolder.isOk && r.assets.isOk

/-- The checks as clients see them. -/
def toJson (r : Readiness) : Json :=
  .object
    [("status", .string (if r.isReady then "ready" else "degraded")),
      ("checks", .object
        [("ffmpeg", r.engine.toJson), ("output_dir", r.outputFolder.toJson),
          ("assets", r.assets.toJson)])]

/-- Tries out a folder: a file is reserved in it and removed again. -/
def probe (folder : Path) (d : Disk) : Except Fault Unit × Disk :=
  match d.ensureFolder folder with
  | (.error fault, d) => (.error fault, d)
  | (.ok (), d) =>
    match d.reserve folder ".ready" "probe" with
    | .error fault => (.error fault, d)
    | .ok (path, d) => (.ok (), d.discard path)

/-- What a result says is wrong. -/
def problemOf : Except Fault Unit → Check
  | .ok () => none
  | .error fault => some (Failure.disk fault).message

/-- The check for missing assets. -/
def assetCheck (missing : List Path) : Check :=
  if missing.isEmpty then none else some s!"{missing.length} asset file(s) missing"

/-- Makes all checks. -/
def examine (studio : Studio) (engineFound : Bool) (d : Disk) : Readiness × Disk :=
  let (probed, d) := probe studio.settings.resolvedOutputFolder d
  ({ engine := if engineFound then none else some Failure.engineMissing.message
     outputFolder := problemOf probed
     assets := assetCheck (studio.assets.missing studio.catalog d) },
    d)

end Readiness

end VideoGreeting.Service
