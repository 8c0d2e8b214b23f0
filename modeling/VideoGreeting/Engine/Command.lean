import VideoGreeting.Number.Decimal
import VideoGreeting.Path

/-!
# Engine commands

The argument list of one engine run. Inputs are numbered in the order of their declaration, each
with its own options before it; the options of the output follow all inputs, and the output is last.
-/

namespace VideoGreeting.Engine

/-- One input of the engine with the options that apply to it. -/
structure Input where
  path : Path
  options : List String := []
  deriving Repr, DecidableEq, Inhabited

/-- One run of the engine. -/
structure Command where
  output : Path
  inputs : List Input := []
  outputOptions : List String := []
  /-- The length of the output in seconds, where it is set. -/
  duration : Option Float := none
  deriving Repr, Inhabited

/-- Seconds as the engine's options take them. -/
def optionSeconds (seconds : Float) : String := Number.fixedText 3 seconds

namespace Command

/-- Adds an input with options before it. -/
def inputWith (c : Command) (path : Path) (options : List String) : Command :=
  { c with inputs := c.inputs ++ [{ path, options }] }

/-- Adds an input. -/
def input (c : Command) (path : Path) : Command := c.inputWith path []

/-- The options that repeat a picture as a stream, for a time or without end. -/
def loopOptions (seconds : Option Float) : List String :=
  ["-loop", "1"] ++
    match seconds with
    | some seconds => ["-t", optionSeconds seconds]
    | none => []

/-- Adds a picture that is repeated as a stream. -/
def loopedInput (c : Command) (path : Path) (seconds : Option Float) : Command :=
  c.inputWith path (loopOptions seconds)

/-- Adds options of the output. -/
def withOptions (c : Command) (options : List String) : Command :=
  { c with outputOptions := c.outputOptions ++ options }

/-- Sets the filter graph. -/
def filterGraph (c : Command) (script : String) : Command :=
  c.withOptions ["-filter_complex", script]

/-- Takes a stream into the output. -/
def map (c : Command) (stream : String) : Command := c.withOptions ["-map", stream]

/-- Sets the length of the output. -/
def lasting (c : Command) (seconds : Float) : Command :=
  { c.withOptions ["-t", optionSeconds seconds] with duration := some seconds }

/-- The length of the output in milliseconds, within 64 bits. -/
def durationMillis? (c : Command) : Option Int :=
  c.duration.map fun seconds =>
    (Number.Value.ofFloat (seconds * 1000.0)).toInt64With Number.Value.roundAway

/-- The options that every run begins with: write over the output, log errors only, and report
progress in the log. -/
def globalOptions : List String := ["-y", "-v", "error", "-progress", "pipe:2"]

/-- The arguments that declare an input. -/
def inputArguments (i : Input) : List String := i.options ++ ["-i", i.path.text]

/-- All arguments. -/
def arguments (c : Command) : List String :=
  globalOptions ++ c.inputs.flatMap inputArguments ++ c.outputOptions ++ [c.output.text]

/-- The command as one would type it. -/
def line (c : Command) : String := "ffmpeg " ++ " ".intercalate c.arguments

end Command

end VideoGreeting.Engine
