import Mathlib
import VideoGreeting.Engine.Command

/-!
# How the engine reads its arguments

The engine goes through its arguments from left to right. An option applies to
the next file, unless it is one for the whole run, and the value of an option is
the argument behind it. `-i` takes the next argument and closes an input; a word
that is no option closes an output.

Which options stand alone is a table of the engine, of which only the entries
for the options of a reel are fixed. Reading is a fold, so that the parts of an
argument list can be read one after the other.
-/

namespace VideoGreeting.Engine

/-! ## Reading -/

/-- The options of reels that stand alone. -/
def reelFlags : List String := ["-y", "-shortest"]

/-- The options of reels that take a value. -/
def reelOptions : List String :=
  ["-v", "-progress", "-loop", "-t", "-filter_complex", "-map", "-c:v", "-c:a", "-pix_fmt", "-b:v",
    "-maxrate", "-bufsize", "-b:a", "-ac", "-r", "-preset"]

/-- The options for the run as a whole. -/
def wholeRunOptions : List String := ["-y", "-v", "-progress", "-filter_complex"]

/-- Which options the engine lets stand alone; all others take a value. -/
structure OptionTable where
  standsAlone : String → Bool
  flags : ∀ option ∈ reelFlags, standsAlone option = true
  valued : ∀ option ∈ reelOptions, standsAlone option = false

/-- Whether an argument is an option: a dash with something behind it. -/
def isOption (argument : String) : Bool :=
  match argument.toList with
  | '-' :: _ :: _ => true
  | _ => false

/-- What was read so far. -/
structure Reading where
  /-- Options for the whole run, with their values. -/
  wholeRun : List String := []
  inputs : List Input := []
  /-- The outputs, each behind the options before it. -/
  outputs : List (List String × String) := []
  /-- Options since the last file, with their values. -/
  pending : List String := []
  /-- An option whose value comes next. -/
  awaiting : Option String := none
  deriving DecidableEq

namespace Reading

/-- Takes an option with its value, if it has one. -/
def takeOption (r : Reading) (option : String) (value : List String) : Reading :=
  if option ∈ wholeRunOptions then
    { r with wholeRun := r.wholeRun ++ option :: value, awaiting := none }
  else { r with pending := r.pending ++ option :: value, awaiting := none }

@[simp] theorem inputs_takeOption (r : Reading) (option : String) (value : List String) :
    (r.takeOption option value).inputs = r.inputs := by
  unfold takeOption
  split <;> rfl

@[simp] theorem awaiting_takeOption (r : Reading) (option : String) (value : List String) :
    (r.takeOption option value).awaiting = none := by
  unfold takeOption
  split <;> rfl

/-- Closes an input. -/
def closeInput (r : Reading) (path : String) : Reading :=
  { r with
    inputs := r.inputs ++ [{ path := ⟨path⟩, options := r.pending }]
    pending := []
    awaiting := none }

/-- Closes an output. -/
def closeOutput (r : Reading) (path : String) : Reading :=
  { r with outputs := r.outputs ++ [(r.pending, path)], pending := [] }

end Reading

namespace OptionTable

/-- The table in which the options of reels are the only ones that stand alone. -/
def standard : OptionTable where
  standsAlone option := reelFlags.contains option
  flags := by decide
  valued := by decide

variable (t : OptionTable)

/-- Reads one argument. -/
def readOne (r : Reading) (argument : String) : Reading :=
  match r.awaiting with
  | some option =>
    if option = "-i" then r.closeInput argument else r.takeOption option [argument]
  | none =>
    if !isOption argument then r.closeOutput argument
    else if argument ≠ "-i" ∧ t.standsAlone argument = true then r.takeOption argument []
    else { r with awaiting := some argument }

/-- Reads further arguments. -/
def readOn (r : Reading) (arguments : List String) : Reading := arguments.foldl t.readOne r

/-- Reads an argument list. -/
def read (arguments : List String) : Reading := t.readOn {} arguments

variable {t} {r : Reading}

theorem readOn_append (xs ys : List String) :
    t.readOn r (xs ++ ys) = t.readOn (t.readOn r xs) ys :=
  List.foldl_append

@[simp] theorem readOn_nil : t.readOn r [] = r := rfl

@[simp] theorem readOn_cons (argument : String) (arguments : List String) :
    t.readOn r (argument :: arguments) = t.readOn (t.readOne r argument) arguments := rfl

/-! ## Options of reels -/

/-- An option with a value is two arguments. -/
theorem readOn_option {option value : String} (hr : r.awaiting = none)
    (hoption : option ∈ reelOptions) (rest : List String) :
    t.readOn r (option :: value :: rest) = t.readOn (r.takeOption option [value]) rest := by
  have hvalued := t.valued option hoption
  have hshape : ∀ option ∈ reelOptions, isOption option = true ∧ option ≠ "-i" := by decide
  obtain ⟨hdash, hinput⟩ := hshape option hoption
  have hopen : t.readOne r option = { r with awaiting := some option } := by
    simp [readOne, hr, hdash, hvalued]
  rw [readOn_cons, readOn_cons, hopen]
  simp [readOne, hinput, Reading.takeOption]

/-- An option that stands alone is one argument. -/
theorem readOn_flag {option : String} (hr : r.awaiting = none) (hoption : option ∈ reelFlags)
    (rest : List String) :
    t.readOn r (option :: rest) = t.readOn (r.takeOption option []) rest := by
  have halone := t.flags option hoption
  have hshape : ∀ option ∈ reelFlags, isOption option = true ∧ option ≠ "-i" := by decide
  obtain ⟨hdash, hinput⟩ := hshape option hoption
  rw [readOn_cons]
  simp [readOne, hr, hdash, hinput, halone]

/-- Options with values close no input and leave none open, whatever the values
are. -/
theorem readOn_options {options : List (String × String)}
    (hoptions : ∀ o ∈ options, o.1 ∈ reelOptions) (hr : r.awaiting = none) :
    (t.readOn r (options.flatMap fun o => [o.1, o.2])).inputs = r.inputs ∧
      (t.readOn r (options.flatMap fun o => [o.1, o.2])).awaiting = none := by
  induction options generalizing r with
  | nil => exact ⟨rfl, hr⟩
  | cons o options ih =>
      obtain ⟨hfirst, hrest⟩ := List.forall_mem_cons.mp hoptions
      rw [List.flatMap_cons, List.cons_append, List.singleton_append, readOn_option hr hfirst]
      obtain ⟨hinputs, hawaiting⟩ := ih hrest (r.awaiting_takeOption o.1 [o.2])
      exact ⟨hinputs.trans (r.inputs_takeOption o.1 [o.2]), hawaiting⟩

/-- `-i` and the next argument close an input. -/
theorem readOn_input {path : String} (hr : r.awaiting = none) (rest : List String) :
    t.readOn r ("-i" :: path :: rest) = t.readOn (r.closeInput path) rest := by
  have hdash : isOption "-i" = true := by decide
  rw [readOn_cons, readOn_cons]
  simp [readOne, hr, hdash, Reading.closeInput]

/-! ## Inputs -/

/-- **Declared inputs are read back**, pictures that are repeated for a time and
plain files, in their order. -/
theorem readOn_inputArguments {inputs : List Input}
    (hinputs : ∀ i ∈ inputs, i.options = [] ∨ ∃ seconds, i.options = ["-loop", "1", "-t", seconds])
    (hpending : r.pending = []) (hawaiting : r.awaiting = none) :
    t.readOn r (inputs.flatMap Command.inputArguments) = { r with inputs := r.inputs ++ inputs } := by
  induction inputs generalizing r with
  | nil => simp
  | cons i inputs ih =>
      obtain ⟨hfirst, hrest⟩ := List.forall_mem_cons.mp hinputs
      have hone : t.readOn r (Command.inputArguments i) = { r with inputs := r.inputs ++ [i] } := by
        obtain ⟨path, options⟩ := i
        rcases hfirst with rfl | ⟨seconds, rfl⟩
        · rw [Command.inputArguments, List.nil_append, readOn_input hawaiting]
          simp [Reading.closeInput, hpending, hawaiting]
        · show t.readOn r ["-loop", "1", "-t", seconds, "-i", path.text] = _
          rw [readOn_option hawaiting (by decide), readOn_option (by rfl) (by decide),
            readOn_input (by rfl)]
          simp [Reading.takeOption, Reading.closeInput, wholeRunOptions, hpending, hawaiting]
      rw [List.flatMap_cons, readOn_append, hone,
        @ih { r with inputs := r.inputs ++ [i] } hrest hpending hawaiting]
      simp

/-- What is read on leaves the inputs before it. -/
theorem prefix_inputs_readOn (arguments : List String) :
    r.inputs <+: (t.readOn r arguments).inputs := by
  induction arguments generalizing r with
  | nil => exact List.prefix_refl _
  | cons argument arguments ih =>
      have hone : r.inputs <+: (t.readOne r argument).inputs := by
        unfold readOne Reading.takeOption Reading.closeInput Reading.closeOutput
        grind [List.prefix_refl, List.prefix_append]
      exact hone.trans ih

/-- Without `-i` no input is closed. -/
theorem inputs_readOn_of_not_mem {arguments : List String} (harguments : "-i" ∉ arguments)
    (hr : r.awaiting ≠ some "-i") :
    (t.readOn r arguments).inputs = r.inputs ∧ (t.readOn r arguments).awaiting ≠ some "-i" := by
  induction arguments generalizing r with
  | nil => exact ⟨rfl, hr⟩
  | cons argument arguments ih =>
      rw [List.mem_cons, not_or] at harguments
      have hone : (t.readOne r argument).inputs = r.inputs ∧
          (t.readOne r argument).awaiting ≠ some "-i" := by
        unfold readOne Reading.takeOption Reading.closeOutput
        grind
      obtain ⟨hinputs, hawaiting⟩ := ih harguments.2 hone.2
      exact ⟨hinputs.trans hone.1, hawaiting⟩

/-- The last argument closes an input only behind `-i`. -/
theorem inputs_readOne (hr : r.awaiting ≠ some "-i") (argument : String) :
    (t.readOne r argument).inputs = r.inputs := by
  unfold readOne Reading.takeOption Reading.closeOutput
  grind

end OptionTable

end VideoGreeting.Engine
