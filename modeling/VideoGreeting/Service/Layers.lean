import VideoGreeting.Service.World

/-!
# What is done for every request

Each layer wraps a handler. From the outside in: the rules for pages of other sites, the request's
identifier, the security headers, the counters, and the limit on the body.
-/

namespace VideoGreeting.Service

open Http

/-! ## Pages of other sites -/

namespace Origins

/-- Whether pages of all sites may use the service. -/
def allowsAll (origins : List String) : Bool := origins.contains "*"

/-- The header that allows a request's site, where it is allowed. An origin is allowed when it is
listed as it is written; origins that cannot stand in a header do not count. -/
def allowHeader (origins : List String) (r : Request) : List (String × String) :=
  if allowsAll origins then [("access-control-allow-origin", "*")]
  else
    match r.header? "origin" with
    | some origin =>
      if (origins.filter isHeaderValue).contains origin then
        [("access-control-allow-origin", origin)]
      else []
    | none => []

/-- A star for all, or a list. -/
def starOr (origins : List String) (names : List String) : String :=
  if allowsAll origins then "*" else ",".intercalate names

/-- The headers that tell a page beforehand what it may do. -/
def preflightHeaders (origins : List String) (r : Request) : List (String × String) :=
  allowHeader origins r ++
  [ ("access-control-allow-methods", starOr origins ["GET", "POST", "OPTIONS"]),
    ("access-control-allow-headers", starOr origins ["content-type", "accept", "origin"]),
    ("access-control-max-age", "600") ]

/-- The headers of all other responses. -/
def responseHeaders (origins : List String) (r : Request) : List (String × String) :=
  allowHeader origins r ++
  [("access-control-expose-headers", starOr origins ["content-length", "content-type"])]

/-- Answers every request with the method `OPTIONS` itself. -/
def layer (origins : List String) (inner : Handler) : Handler := fun r w =>
  if r.method = "OPTIONS" then
    (some ((Response.empty 200).setAll (preflightHeaders origins r)), w)
  else
    let (response, w) := inner r w
    (response.map (·.setAll (responseHeaders origins r)), w)

end Origins

/-! ## Identifiers of requests -/

/-- Gives the response the identifier that the request came with, or a fresh one. -/
def identifying (ids : Identifiers) (inner : Handler) : Handler := fun r w =>
  let (id, w) :=
    match (r.header? "x-request-id").bind visibleText? with
    | some id => (id, w)
    | none => w.issue ids
  let (response, w) := inner r w
  (response.map (·.set "x-request-id" id), w)

/-! ## Security headers -/

/-- The headers that every response has unless a handler sets them. -/
def securityHeaders : List (String × String) :=
  [ ("x-content-type-options", "nosniff"), ("x-frame-options", "DENY"),
    ("referrer-policy", "strict-origin-when-cross-origin") ]

/-- Adds the security headers. -/
def secured (inner : Handler) : Handler := fun r w =>
  let (response, w) := inner r w
  let add (response : Response) : Response :=
    securityHeaders.foldl (fun response (name, value) => response.setDefault name value) response
  (response.map add, w)

/-! ## Counters -/

/-- Counts a request. One without a response stays under way. -/
def counted (inner : Handler) : Handler := fun r w =>
  let (response, w) := inner r { w with metrics := w.metrics.enter }
  match response with
  | some response =>
    (some response, { w with metrics := w.metrics.leave r.method r.path response.status })
  | none => (none, w)

/-! ## The limit on the body -/

/-- The length that a request gives for its body. -/
def declaredLength? (r : Request) : Option Nat :=
  ((r.header? "content-length").bind visibleText?).bind (Number.readNat? Number.maxWord64)

/-- Refuses a request whose body is said to be too long, and limits how much of the body is read. -/
def limited (limit : Nat) (inner : Handler) : Handler := fun r w =>
  match declaredLength? r with
  | some length =>
    if limit < length then (some (.plain 413 "length limit exceeded"), w)
    else inner { r with bodyLimit := some length } w
  | none => inner { r with bodyLimit := some limit } w

end VideoGreeting.Service
