import VideoGreeting.Number.Decimal

/-!
# The timeline of a reel

Seconds as text, and the windows in which the clips of a reel are shown: contiguous, of equal
length, together the whole reel.
-/

namespace VideoGreeting

/-! ## Seconds -/

/-- Drops the zeros at the end of a decimal, and then the point if it is last. -/
def trimDecimals (cs : List Char) : List Char :=
  ((cs.reverse.dropWhile (· == '0')).dropWhile (· == '.')).reverse

/-- Seconds as text: a whole number within 64 bits when the value is whole, else three decimals
without the zeros at their end. -/
def seconds (v : Number.Value) : List Char :=
  if v.isWhole then (toString (Number.clampInt64 v.truncate)).toList
  else trimDecimals (Number.fixed 3 v)

/-- Seconds of a double as text. -/
def secondsText (x : Float) : String := String.ofList (seconds (.ofFloat x))

/-! ## Windows -/

/-- The time from `start` up to, and without, `stop`. -/
structure Window (α : Type) where
  start : α
  stop : α
  deriving Repr, DecidableEq

namespace Window

/-- Whether an instant lies in the window. -/
def contains {α : Type} [LE α] [LT α] [DecidableLE α] [DecidableLT α] (w : Window α) (t : α) :
    Bool :=
  w.start ≤ t && t < w.stop

/-- The engine expression that holds during the window. -/
def expression (w : Window Float) : String :=
  s!"gte(t,{secondsText w.start})*lt(t,{secondsText w.stop})"

end Window

namespace Timeline

/-- Numbers of clips among times in seconds. -/
instance natCastFloat : NatCast Float := ⟨Float.ofNat⟩

variable {α : Type} [NatCast α] [Mul α] [Div α]

/-- The bound between the windows `i - 1` and `i` of `n`; the last is the duration itself. -/
def bound (duration : α) (n i : Nat) : α := if i = n then duration else i * duration / n

/-- Window `i` of `n`. -/
def window (duration : α) (n i : Nat) : Window α := ⟨bound duration n i, bound duration n (i + 1)⟩

/-- All `n` windows in order. -/
def windows (duration : α) (n : Nat) : List (Window α) := (List.range n).map (window duration n)

/-- Why a reel has no timeline. -/
inductive Fault where
  | noClips
  | duration (given : Float)
  deriving Repr

/-- The wording of a fault. -/
def Fault.message : Fault → String
  | noClips => "clip count must be at least 1"
  | duration given => s!"duration must be positive, got {Number.shortestText given}"

/-- Whether a length of time is finite and above zero. -/
def isPositive (x : Float) : Bool := x.isFinite && 0.0 < x

/-- The windows of a reel, if it has clips and a length. -/
def plan (duration : Float) (n : Nat) : Except Fault (List (Window Float)) :=
  if n = 0 then .error .noClips
  else if !isPositive duration then .error (.duration duration)
  else .ok (windows duration n)

theorem plan_eq_ok_iff {duration : Float} {n : Nat} {planned : List (Window Float)} :
    plan duration n = .ok planned ↔
      n ≠ 0 ∧ isPositive duration = true ∧ planned = windows duration n := by
  unfold plan
  by_cases hn : n = 0
  · simp [hn]
  · by_cases hduration : isPositive duration = true
    · simp [hn, hduration, eq_comm]
    · simp [hn, hduration]

end Timeline

end VideoGreeting
