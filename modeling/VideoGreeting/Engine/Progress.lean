import VideoGreeting.Number.Numeral
import VideoGreeting.Text.Blank

/-!
# Progress of an engine run

While it works, the engine writes lines `key=value`. They set what is known about its progress, and
a line with the key `progress` marks the end of a report.
-/

namespace VideoGreeting.Engine

/-- What can be told of the time that is left. -/
inductive TimeLeft where
  /-- Nothing yet. -/
  | unknown
  | seconds (s : Float)
  /-- The milliseconds that are left are no 64-bit word. Telling them breaks off. -/
  | overflow
  deriving Repr, Inhabited

/-- What is known about a run. Times are 64-bit words. -/
structure Progress where
  frame : Nat := 0
  fps : Float := 0.0
  /-- How much of the output is there, in milliseconds. -/
  outTimeMillis : Int64 := 0
  outTime : String := ""
  /-- How many seconds of output are made in a second. -/
  speed : Float := 0.0
  isComplete : Bool := false
  deriving Repr, Inhabited

namespace Progress

/-- The double nearest to a 64-bit word. -/
def toFloat (n : Int64) : Float := Float.ofInt n.toInt

/-- A double brought into the range from `low` to `high`. -/
def clamp (low high x : Float) : Float := if x < low then low else if high < x then high else x

/-- How many percent of an output of `total` milliseconds are there. -/
def percentage (p : Progress) (total : Int64) : Float :=
  if p.isComplete then 100.0
  else if total ≤ 0 then 0.0
  else clamp 0.0 100.0 (toFloat p.outTimeMillis / toFloat total * 100.0)

/-- How many seconds are left at the current speed, once something is there. -/
def timeLeft (p : Progress) (total : Int64) : TimeLeft :=
  if p.speed ≤ 0.0 || p.outTimeMillis ≤ 0 then .unknown
  else
    match Number.subInt64? total p.outTimeMillis with
    | some left => .seconds (toFloat (max left 0) / 1000.0 / p.speed)
    | none => .overflow

/-! ## Reading reports -/

/-- Whether a character may stand in a key. -/
def isKeyChar (c : Char) : Bool := c.isAlphanum || c == '_'

/-- A line of the form `key=value`, white space around it apart. -/
def assignment? (line : String) : Option (String × String) :=
  match Text.splitOnce '=' (Text.trim line).toList with
  | some (key, value) =>
    if !key.isEmpty && key.all isKeyChar then some (String.ofList key, String.ofList value)
    else none
  | none => none

/-- A time in microseconds as milliseconds, cut off toward zero. -/
def millis? (value : String) : Option Int64 := (Number.readInt64? value).map (· / 1000)

/-- A speed such as `1.5x`. -/
def speed? (value : String) : Option Float :=
  match value.toList.reverse with
  | 'x' :: rest => Number.readFloat? (Text.trim (String.ofList rest.reverse))
  | _ => none

/-- What is known after an assignment; a value that cannot be read changes nothing. -/
def assign (p : Progress) (key value : String) : Progress :=
  if key = "out_time_ms" ∨ key = "out_time_us" then
    { p with outTimeMillis := (millis? value).getD p.outTimeMillis }
  else if key = "out_time" then { p with outTime := value }
  else if key = "frame" then
    { p with frame := (Number.readNat? Number.maxWord64 value).getD p.frame }
  else if key = "fps" then { p with fps := (Number.readFloat? value).getD p.fps }
  else if key = "speed" then { p with speed := (speed? value).getD p.speed }
  else if key = "progress" then { p with isComplete := p.isComplete || value == "end" }
  else p

/-- Whether an assignment ends a report. -/
def endsReport (key : String) : Bool := key == "progress"

end Progress

end VideoGreeting.Engine
