import VideoGreeting.FilterGraph.Assembly
import VideoGreeting.Proofs.FilterGraph.Labels

/-!
# What a graph means

The engine hands streams from chain to chain under labels. Here a stream is a
*term* over the streams of the engine's inputs, and a graph is run on bindings
of labels to terms: reading a label takes its term away, a chain applies its
filters to what it read, and writing binds the result. Running gets stuck at a
label that is not bound, so a graph that runs to its end never reads one.
-/

namespace VideoGreeting.FilterGraph

/-! ## Terms -/

/-- A stream as a term: a stream of an engine input, or filters applied to
streams. -/
inductive Stream where
  | video (input : Nat)
  | audio (input : Nat)
  | filtered (filters : List String) (sources : List Stream)

mutual

/-- The engine inputs that a stream draws on, from left to right and as often
as it does. -/
def Stream.inputs : Stream → List Nat
  | .video n => [n]
  | .audio n => [n]
  | .filtered _ sources => Stream.inputsAll sources

/-- The engine inputs that streams draw on, one stream after the other. -/
def Stream.inputsAll : List Stream → List Nat
  | [] => []
  | s :: rest => s.inputs ++ Stream.inputsAll rest

end

/-- The stream that a pad stands for: `k:v` is the video of input `k`. -/
def Label.stream? (l : Label) : Option Stream :=
  match Text.splitOnce ':' l.name.toList with
  | some (index, ['v']) => (Number.digits? index).map .video
  | some (index, ['a']) => (Number.digits? index).map .audio
  | _ => none

/-- The labels that stand for streams of the engine are the pads. -/
theorem Label.isSome_stream? (l : Label) : l.stream?.isSome = l.isPad := by
  have hdigits : ∀ index, (Number.digits? index).isSome =
      (!index.isEmpty && index.all Number.isDigit) := by
    intro index
    unfold Number.digits?
    cases index.isEmpty <;> cases index.all Number.isDigit <;> rfl
  unfold Label.stream? Label.isPad
  split
  next index hsplit => simp [hsplit, hdigits]
  next index hsplit => simp [hsplit, hdigits]
  next hv ha =>
    rcases hsplit : Text.splitOnce ':' l.name.toList with _ | ⟨index, kind⟩
    · rfl
    · have hkv : kind ≠ ['v'] := fun h => hv index (by rw [hsplit, h])
      have hka : kind ≠ ['a'] := fun h => ha index (by rw [hsplit, h])
      simp [hkv, hka]

@[simp] theorem Label.stream?_inputVideo (n : Nat) :
    (inputVideo n).stream? = some (.video n) := by
  rw [stream?, toList_inputVideo, splitOnce_toDigits]
  simp [Number.digits?_toDigits]

@[simp] theorem Label.stream?_inputAudio (n : Nat) :
    (inputAudio n).stream? = some (.audio n) := by
  rw [stream?, toList_inputAudio, splitOnce_toDigits]
  simp [Number.digits?_toDigits]

theorem Label.stream?_eq_none {l : Label} (h : l.isPad = false) :
    l.stream? = none := by
  rw [← isSome_stream?] at h
  simpa using h

/-! ## Running chains -/

/-- The labels that are bound, each with its stream. -/
abbrev Bindings := List (Label × Stream)

/-- Reads a label. A pad may be read at any time, any other label has to be
bound and is bound no longer. -/
def Bindings.take? (b : Bindings) (l : Label) : Option (Stream × Bindings) :=
  match l.stream? with
  | some s => some (s, b)
  | none => (b.lookup l).map fun s => (s, b.filter (·.1 != l))

/-- Reads labels one after the other. -/
def Bindings.takeAll? (b : Bindings) : List Label → Option (List Stream × Bindings)
  | [] => some ([], b)
  | l :: rest =>
    (b.take? l).bind fun (s, b) =>
      (Bindings.takeAll? b rest).map fun (ss, b) => (s :: ss, b)

/-- Runs a chain. One without outputs, such as a sink, binds nothing. -/
def Chain.run? (b : Bindings) (c : Chain) : Option Bindings :=
  (b.takeAll? c.inputs).map fun (sources, b) =>
    c.outputs.map (fun l => (l, .filtered c.filters sources)) ++ b

/-- Runs chains in order. -/
def Bindings.run? (b : Bindings) (chains : List Chain) : Option Bindings :=
  chains.foldlM Chain.run? b

/-- All chains of a graph in order. -/
def Graph.chains (g : Graph) : List Chain := g.fragments.flatMap Fragment.chains

/-- What is bound when all chains of a graph have run. -/
def Graph.streams? (g : Graph) : Option Bindings := Bindings.run? [] g.chains

theorem Bindings.run?_append (b : Bindings) (chains chains' : List Chain) :
    b.run? (chains ++ chains') = (b.run? chains).bind (Bindings.run? · chains') :=
  List.foldlM_append

theorem Bindings.run?_cons (b : Bindings) (c : Chain) (chains : List Chain) :
    b.run? (c :: chains) = (c.run? b).bind (Bindings.run? · chains) :=
  List.foldlM_cons

@[simp] theorem Bindings.run?_nil (b : Bindings) : b.run? [] = some b := rfl

/-! ## Reading -/

@[simp] theorem Bindings.take?_inputVideo (b : Bindings) (n : Nat) :
    b.take? (.inputVideo n) = some (.video n, b) := by
  rw [take?, Label.stream?_inputVideo]

/-- Reading a label that is no pad takes its binding away. -/
theorem Bindings.take?_of_not_isPad (b : Bindings) {l : Label}
    (h : l.isPad = false) :
    b.take? l = (b.lookup l).map fun s => (s, b.filter (·.1 != l)) := by
  rw [take?, Label.stream?_eq_none h]

/-! ## The pads of a graph -/

/-- The pads that a graph reads, chain after chain and as often as it does. -/
def Graph.pads (g : Graph) : List Label := (g.chains.flatMap Chain.inputs).filter Label.isPad

/-- The engine input that a label stands for, if it is a pad. -/
def Label.input? (l : Label) : Option Nat :=
  match l.stream? with
  | some (.video n) | some (.audio n) => some n
  | _ => none

@[simp] theorem Label.input?_inputVideo (n : Nat) : (inputVideo n).input? = some n := by
  rw [input?, stream?_inputVideo]

@[simp] theorem Label.input?_inputAudio (n : Nat) : (inputAudio n).input? = some n := by
  rw [input?, stream?_inputAudio]

theorem Label.input?_eq_none {l : Label} (h : l.isPad = false) : l.input? = none := by
  rw [input?, stream?_eq_none h]

end VideoGreeting.FilterGraph
