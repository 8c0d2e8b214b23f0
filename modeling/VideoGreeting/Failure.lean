import VideoGreeting.Disk
import VideoGreeting.FilterGraph.Assembly
import VideoGreeting.Selection

/-!
# Why a reel is not made
-/

namespace VideoGreeting

/-- The causes for which no reel is made. -/
inductive Failure where
  /-- The customer's selection is turned down, before the engine is started. -/
  | rejected (reason : Rejection)
  | graph (fault : FilterGraph.Fault)
  | timeline (reason : String)
  | engineMissing
  /-- The engine ended badly; the diagnostics are the end of what it logged. -/
  | engineFailed (message : String) (diagnostics : Option String) (exitCode : Option Int)
  | fileMissing (path : Path)
  | timedOut (seconds : Nat)
  | disk (fault : Fault)
  deriving Repr, DecidableEq

namespace Failure

/-- The wording of a failure. -/
def message : Failure → String
  | rejected reason => "Validation failed: " ++ reason.message
  | graph fault => "Invalid filter graph: " ++ fault.message
  | timeline reason => "Invalid timeline: " ++ reason
  | engineMissing => "FFmpeg not found in PATH"
  | engineFailed message _ _ => "FFmpeg command failed: " ++ message
  | fileMissing path => "File not found: " ++ path.text
  | timedOut seconds => s!"Operation timed out after {seconds} seconds"
  | disk fault => "IO error: " ++ fault.message

/-- Whether the customer is to blame. -/
def isRejection : Failure → Bool
  | rejected _ => true
  | _ => false

/-- The end of the engine's log, where there is one. -/
def diagnostics? : Failure → Option String
  | engineFailed _ diagnostics _ => diagnostics
  | _ => none

end Failure

end VideoGreeting
