import VideoGreeting.Number.Numeral

/-!
# Environment variables
-/

namespace VideoGreeting

/-- The variables that are set, with their values. -/
structure Environment where
  assignments : List (String × String)
  deriving Repr, DecidableEq, Inhabited

namespace Environment

/-- The value of a variable. -/
def get? (env : Environment) (name : String) : Option String := env.assignments.lookup name

/-- The value of a variable that holds a double. -/
def float? (env : Environment) (name : String) : Option Float :=
  (env.get? name).bind Number.readFloat?

/-- The value of a variable that holds a number of at most `bound`. -/
def nat? (env : Environment) (bound : Nat) (name : String) : Option Nat :=
  (env.get? name).bind (Number.readNat? bound)

end Environment

end VideoGreeting
