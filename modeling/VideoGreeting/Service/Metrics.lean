/-!
# Counters

What the service counts: requests by method, path and status, requests under way, and reels by
style. Paths are grouped, so that the number of counters does not grow with the number of files.
-/

namespace VideoGreeting.Service

/-- How often each thing was counted, in the order in which they were first counted. -/
structure Tally (α : Type) where
  counts : List (α × Nat) := []
  deriving Repr, Inhabited

namespace Tally

variable {α : Type} [DecidableEq α]

/-- How often a thing was counted. -/
def count (t : Tally α) (a : α) : Nat := (t.counts.lookup a).getD 0

/-- Counts a thing in a list of counts. -/
def bump (a : α) : List (α × Nat) → List (α × Nat)
  | [] => [(a, 1)]
  | (b, n) :: rest => if a = b then (b, n + 1) :: rest else (b, n) :: bump a rest

/-- Counts a thing once more. -/
def add (t : Tally α) (a : α) : Tally α := ⟨bump a t.counts⟩

end Tally

/-- By what requests are told apart. -/
structure RequestLabel where
  method : String
  path : String
  status : Nat
  deriving Repr, DecidableEq

/-- Why a reel was not made. -/
inductive Reason where
  | validation
  | engine
  deriving Repr, DecidableEq

/-- The name of a reason. -/
def Reason.text : Reason → String
  | validation => "validation"
  | engine => "engine"

/-- All counters. Styles are given by their tags. -/
structure Metrics where
  requests : Tally RequestLabel := {}
  inFlight : Int := 0
  started : Tally String := {}
  completed : Tally String := {}
  failed : Tally (String × Reason) := {}
  deriving Repr, Inhabited

namespace Metrics

/-! ## Counting -/

/-- The paths that are counted by themselves. -/
def ownPaths : List String := ["/options", "/create-video", "/health", "/ready", "/metrics", "/"]

/-- Whether a path leads to a file right below `/outputs`. -/
def isOutputFile (path : String) : Bool :=
  let front := "/outputs/".toList
  let name := path.toList.drop front.length
  front.isPrefixOf path.toList && !name.isEmpty && !name.contains '/'

/-- The group of a path. -/
def pathGroup (path : String) : String :=
  if ownPaths.contains path then path
  else if isOutputFile path then "/outputs/:file"
  else "/static"

/-- A request comes in. -/
def enter (m : Metrics) : Metrics := { m with inFlight := m.inFlight + 1 }

/-- A request is answered. -/
def leave (m : Metrics) (method path : String) (status : Nat) : Metrics :=
  { m with
    inFlight := m.inFlight - 1
    requests := m.requests.add { method, path := pathGroup path, status } }

/-- A reel of a style is begun. -/
def start (m : Metrics) (tag : String) : Metrics := { m with started := m.started.add tag }

/-- A reel of a style is finished. -/
def complete (m : Metrics) (tag : String) : Metrics := { m with completed := m.completed.add tag }

/-- A reel of a style is not made. -/
def fail (m : Metrics) (tag : String) (reason : Reason) : Metrics :=
  { m with failed := m.failed.add (tag, reason) }

/-! ## The counters as text -/

/-- A character of a label's value. -/
def labelChar (c : Char) : List Char :=
  if c = '\\' ∨ c = '"' then ['\\', c] else if c = '\n' then ['\\', 'n'] else [c]

/-- A label with its value in quotes. -/
def labelText (label : String × String) : String :=
  label.1 ++ "=\"" ++ String.ofList (label.2.toList.flatMap labelChar) ++ "\""

/-- One sample: a name, labels and a number. -/
def sample (name : String) (labels : List (String × String)) (value : Int) : String :=
  let labels :=
    if labels.isEmpty then "" else "\x7b" ++ ",".intercalate (labels.map labelText) ++ "\x7d"
  s!"{name}{labels} {value}"

/-- The samples of a tally. -/
def samples {α : Type} (name : String) (labels : α → List (String × String)) (t : Tally α) :
    List String :=
  t.counts.map fun (a, n) => sample name (labels a) n

/-- The labels of a request. -/
def requestLabels (l : RequestLabel) : List (String × String) :=
  [("method", l.method), ("path", l.path), ("status", toString l.status)]

/-- The label of a style. -/
def styleLabels (tag : String) : List (String × String) := [("animation", tag)]

/-- The labels of a reel that was not made. -/
def failureLabels (l : String × Reason) : List (String × String) :=
  [("animation", l.1), ("reason", l.2.text)]

/-- The samples of one kind of thing: a line with their name and type, a line for each, and an empty
line. Without samples there is no text. -/
def family (name type : String) (samples : List String) : String :=
  if samples.isEmpty then ""
  else String.join ((s!"# TYPE {name} {type}" :: samples).map (· ++ "\n")) ++ "\n"

/-- The text of counts. -/
def counter {α : Type} (name : String) (labels : α → List (String × String)) (t : Tally α) :
    String :=
  family name "counter" (samples name labels t)

/-- The text of durations, of which only the number is told. -/
def durations {α : Type} (name : String) (labels : α → List (String × String)) (t : Tally α) :
    String :=
  family name "summary" (samples (name ++ "_count") labels t)

/-- The text of all counters. Every request and every finished reel also counts as one measured
duration. -/
def text (m : Metrics) : String :=
  let inFlight := "reel_http_requests_in_flight"
  counter "reel_http_requests_total" requestLabels m.requests ++
  counter "reel_renders_started_total" styleLabels m.started ++
  counter "reel_renders_completed_total" styleLabels m.completed ++
  counter "reel_renders_failed_total" failureLabels m.failed ++
  family inFlight "gauge" [sample inFlight [] m.inFlight] ++
  durations "reel_http_request_duration_seconds" requestLabels m.requests ++
  durations "reel_render_duration_seconds" styleLabels m.completed

end Metrics

end VideoGreeting.Service
