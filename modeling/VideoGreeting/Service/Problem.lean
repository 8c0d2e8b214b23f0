import VideoGreeting.Failure
import VideoGreeting.Json

/-!
# Problems

What goes wrong with a request, and what the client is told. A client's own mistakes are always
named; the details of a failure on the server may be kept back.
-/

namespace VideoGreeting.Service

/-- Why a request does not lead to a reel. -/
inductive Problem where
  | badRequest (text : String)
  | rejected (reason : Rejection)
  /-- The reel could not be made. -/
  | notMade (failure : Failure)
  | internal (text : String)
  deriving Repr, DecidableEq

namespace Problem

/-- The problem that a failure amounts to. -/
def ofFailure : Failure → Problem
  | .rejected reason => rejected reason
  | failure => notMade failure

/-- The full wording. -/
def message : Problem → String
  | badRequest text => "Bad request: " ++ text
  | rejected reason => reason.message
  | notMade failure => failure.message
  | internal text => "Internal error: " ++ text

/-- Whether the client made a mistake. -/
def isClientError : Problem → Bool
  | badRequest _ | rejected _ => true
  | notMade _ | internal _ => false

/-- The status of the response. -/
def status (p : Problem) : Nat := if p.isClientError then 400 else 500

/-- The wording that keeps details back. -/
def hiddenDetail : String := "An internal error occurred"

/-- The wording for a client; `hide` keeps the details of server failures back. -/
def detail (hide : Bool) (p : Problem) : String :=
  if hide && !p.isClientError then hiddenDetail else p.message

/-- The body of the response. -/
def body (hide : Bool) (p : Problem) : Json :=
  match p with
  | notMade _ =>
    .object [("error", .string "Error creating video"), ("details", .string (p.detail hide))]
  | _ => .object [("detail", .string (p.detail hide))]

end Problem

end VideoGreeting.Service
