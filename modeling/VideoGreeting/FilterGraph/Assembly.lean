import VideoGreeting.FilterGraph.Fragment
import VideoGreeting.Text.Quoted

/-!
# Assembling a filter graph

The engine takes each label exactly once. An assembly therefore keeps the labels that are live,
written and not yet read, while fragments are appended: a chain may read live labels and input pads,
reading uses a label up, a label that is live may not be written again, and at the end the output of
the graph is the only live label.
-/

namespace VideoGreeting.FilterGraph

/-- Why fragments do not make a graph. -/
inductive Fault where
  | missingInput (fragment label : String)
  | duplicateOutput (fragment label : String)
  | missingOutput (label : String)
  | danglingOutputs (labels : List String)
  | noClips
  deriving Repr, DecidableEq

/-- The wording of a fault. -/
def Fault.message : Fault → String
  | missingInput fragment label => s!"{fragment}: input [{label}] is not available"
  | duplicateOutput fragment label => s!"{fragment}: output [{label}] is already live"
  | missingOutput label => s!"graph output [{label}] is never produced"
  | danglingOutputs labels => "unconsumed outputs: " ++ Text.quoteList labels
  | noClips => "at least one clip fragment is required"

/-! ## Reading and writing labels -/

/-- What happens to a label. -/
inductive Event where
  | read (l : Label)
  | write (l : Label)
  deriving Repr, DecidableEq

/-- A chain reads its inputs and then writes its outputs. -/
def Chain.events (c : Chain) : List Event := c.inputs.map .read ++ c.outputs.map .write

/-- The events of a fragment, chain after chain. -/
def Fragment.events (f : Fragment) : List Event := f.chains.flatMap Chain.events

/-- The live labels after an event, if it is allowed. -/
def Event.after? (live : List Label) : Event → Option (List Label)
  | read l =>
    if l.isPad then some live
    else if l ∈ live then some (live.erase l)
    else none
  | write l => if l ∈ live then none else some (l :: live)

/-- Goes through events up to the first that is not allowed: the live labels then, and that
event. -/
def follow (live : List Label) : List Event → List Label × Option Event
  | [] => (live, none)
  | e :: rest =>
    match e.after? live with
    | some live => follow live rest
    | none => (live, some e)

/-- The fault of a fragment at an event that is not allowed. -/
def Event.fault (fragment : String) : Event → Fault
  | read l => .missingInput fragment l.name
  | write l => .duplicateOutput fragment l.name

/-! ## The assembly -/

/-- A finished graph. -/
structure Graph where
  fragments : List Fragment
  /-- The stream that goes into the reel. -/
  output : Label
  deriving Repr, DecidableEq, Inhabited

/-- The fragments so far and the labels that are live, without repetition. -/
structure Assembly where
  fragments : List Fragment := []
  live : List Label := []
  deriving Repr, DecidableEq, Inhabited

namespace Assembly

/-- Appends a fragment. One that is refused is not appended, but the labels keep what happened to
them before the event that is not allowed. -/
def push (a : Assembly) (f : Fragment) : Except Fault Unit × Assembly :=
  match follow a.live f.events with
  | (live, none) => (.ok (), { fragments := a.fragments ++ [f], live })
  | (live, some e) => (.error (e.fault f.role.text), { a with live })

/-- Appends fragments up to the first that is refused. -/
def pushAll (a : Assembly) : List Fragment → Except Fault Assembly
  | [] => .ok a
  | f :: rest =>
    match a.push f with
    | (.ok (), a) => a.pushAll rest
    | (.error fault, _) => .error fault

/-- The graph, if `output` is the only live label. -/
def finish (a : Assembly) (output : Label) : Except Fault Graph :=
  if output ∈ a.live then
    match (a.live.filter (· != output)).map Label.name with
    | [] => .ok { fragments := a.fragments, output }
    | dangling => .error (.danglingOutputs (dangling.mergeSort (fun x y => decide (x ≤ y))))
  else .error (.missingOutput output.name)

end Assembly

/-! ## The text of a graph -/

namespace Graph

/-- All statements in order. -/
def statements (g : Graph) : List String := g.fragments.flatMap Fragment.statements

/-- The graph as the engine reads it. -/
def script (g : Graph) : String := ";".intercalate g.statements

end Graph

end VideoGreeting.FilterGraph
