import VideoGreeting.FilterGraph.Label

/-!
# Fragments of a filter graph

A chain reads labelled streams, sends them through filters and labels the results. A fragment is the
ordered chains that one part of a reel contributes.
-/

namespace VideoGreeting.FilterGraph

/-- One chain: streams read, filters applied in order, streams written. -/
structure Chain where
  inputs : List Label := []
  filters : List String := []
  outputs : List Label := []
  deriving Repr, DecidableEq, Inhabited

/-- A chain as a statement of the graph language. -/
def Chain.text (c : Chain) : String :=
  String.join (c.inputs.map Label.text) ++ ",".intercalate c.filters ++
    String.join (c.outputs.map Label.text)

/-- What a fragment is for. -/
inductive Role where
  | backgroundScale
  | imageScale (clip : Nat)
  | motion (clip : Nat) (tag : String)
  | caption
  deriving Repr, DecidableEq, Inhabited

/-- The name of a role in messages. -/
def Role.text : Role → String
  | backgroundScale => "background-scale"
  | imageScale clip => s!"image-scale[{clip}]"
  | motion clip tag => s!"{tag}[{clip}]"
  | caption => "caption"

/-- The chains of one part of a reel. -/
structure Fragment where
  role : Role
  chains : List Chain
  deriving Repr, DecidableEq, Inhabited

namespace Fragment

/-- The chains as statements. -/
def statements (f : Fragment) : List String := f.chains.map Chain.text

/-! ## What a fragment takes and leaves -/

/-- The labels read from elsewhere, in the order of their first reading, and the labels written but
not read so far. -/
structure Needs where
  external : List Label := []
  produced : List Label := []

/-- Reads a label: one that was written within the fragment is used up, another one is needed from
elsewhere. -/
def Needs.read (n : Needs) (l : Label) : Needs :=
  if l ∈ n.produced then { n with produced := n.produced.filter (· != l) }
  else if l ∈ n.external then n
  else { n with external := n.external ++ [l] }

/-- Reads the inputs of a chain, then writes its outputs. -/
def Needs.chain (n : Needs) (c : Chain) : Needs :=
  let n := c.inputs.foldl Needs.read n
  { n with produced := n.produced ++ c.outputs }

/-- The labels that a fragment reads from elsewhere. -/
def inputs (f : Fragment) : List Label := (f.chains.foldl Needs.chain {}).external

/-- The labels that a fragment leaves for later ones: each chain takes the labels it reads, once
each, and adds those it writes. -/
def outputs (f : Fragment) : List Label :=
  f.chains.foldl (fun live c => c.inputs.foldl List.erase live ++ c.outputs) []

end Fragment

end VideoGreeting.FilterGraph
