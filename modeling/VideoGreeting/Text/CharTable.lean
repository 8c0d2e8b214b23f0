/-!
# Tables of characters

A set with thousands of characters numbers them by their places in a table. The table is written
run by run, and a place between two runs is empty.
-/

namespace VideoGreeting.Text

/-- What stands at consecutive places. -/
inductive CharTable.Run where
  /-- One character after the other. -/
  | listed (chars : String)
  /-- `count` characters in the order of their code points. -/
  | counted (first count : Nat)
  /-- A single place with several characters that are written together. -/
  | joined (chars : String)
  deriving Repr, DecidableEq

/-- The runs of a table in order, each with the place at which it begins. -/
abbrev CharTable := List (Nat × CharTable.Run)

namespace CharTable

/-- What a run holds at its place `i`, counted from zero. -/
def Run.chars? : Run → Nat → Option (List Char)
  | listed chars, i => (chars.toList[i]?).map ([·])
  | counted first count, i => if i < count then some [Char.ofNat (first + i)] else none
  | joined chars, i => if i = 0 then some chars.toList else none

/-- What stands at a place: the last run that begins no later holds it, if any does. -/
def chars? (table : CharTable) (place : Nat) : Option (List Char) :=
  (table.takeWhile fun entry => entry.1 ≤ place).getLast?.bind fun (start, run) =>
    run.chars? (place - start)

end CharTable

end VideoGreeting.Text
