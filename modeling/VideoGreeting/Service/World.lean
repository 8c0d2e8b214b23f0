import VideoGreeting.Http.Message
import VideoGreeting.Production
import VideoGreeting.Service.Identifier
import VideoGreeting.Service.Metrics
import VideoGreeting.Service.Settings

/-!
# The service and what is around it
-/

namespace VideoGreeting

/-- A service: its own settings, and the studio that makes its reels. -/
structure Service where
  settings : Service.Settings
  studio : Studio

namespace Service

/-- What a request finds around the service: the time in milliseconds, whether the engine can be
found, how it behaves, and where identifiers come from. -/
structure Host where
  now : Int
  engineFound : Bool
  engine : Engine.Command → Engine.Run
  identifiers : Identifiers := .numbered
  /-- Why a file cannot be stored that the disk itself would take, as when the medium is full. -/
  refusal? : Path → Option Fault := fun _ => none

/-- What lasts from one request to the next. -/
structure World where
  disk : Disk
  metrics : Metrics := {}
  /-- How many identifiers were given out. -/
  issued : Nat := 0
  /-- What the engine was run with so far. -/
  commands : List Engine.Command := []
  deriving Inhabited

/-- Gives out an identifier. -/
def World.issue (ids : Identifiers) (w : World) : String × World :=
  (ids.text w.issued, { w with issued := w.issued + 1 })

/-- Answers requests. There is no response while the engine runs on. -/
abbrev Handler := Http.Request → World → Option Http.Response × World

end Service

end VideoGreeting
