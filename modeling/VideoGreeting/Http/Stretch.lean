import VideoGreeting.Number.Numeral
import VideoGreeting.Text.Blank

/-!
# Parts of a content

A request can ask for a part of a content by the places of its bytes, which are counted from 0:
`bytes=2-5`, `bytes=2-` for the rest, `bytes=-3` for the last three. Commas stand between several
parts.
-/

namespace VideoGreeting.Http

/-- A part of a content, as it is asked for. -/
inductive Stretch where
  | between (first last : Nat)
  | since (first : Nat)
  /-- So many bytes at the end. -/
  | atEnd (count : Nat)
  deriving Repr, DecidableEq, Inhabited

namespace Stretch

/-! ## Reading -/

/-- A place: digits without a zero in front. -/
def place? (cs : List Char) : Option Nat :=
  if cs.length != 1 && cs.head? == some '0' then none
  else (Number.digits? cs).filter (· ≤ Number.maxWord64)

/-- One part. -/
def ofPiece? (cs : List Char) : Option Stretch := do
  let (first, last) ← Text.splitOnce '-' cs
  if first.isEmpty then return .atEnd (← place? last)
  if last.isEmpty then return .since (← place? first)
  return .between (← place? first) (← place? last)

/-- One part after a comma, where one blank may stand before it. -/
def ofLaterPiece? : List Char → Option Stretch
  | ' ' :: cs | '\t' :: cs => ofPiece? cs
  | cs => ofPiece? cs

/-- The parts that a text asks for, of which there is at least one. -/
def ofText? (text : String) : Option (List Stretch) :=
  match text.toList with
  | 'b' :: 'y' :: 't' :: 'e' :: 's' :: '=' :: cs =>
    match Text.splitBy (· == ',') cs with
    | [] => none
    | piece :: later => do return (← ofPiece? piece) :: (← later.mapM ofLaterPiece?)
  | _ => none

/-! ## Within a content -/

/-- The first and the last place of a part of a content of so many bytes. A part may end behind the
content but not begin there, and at the end it is one byte at least. -/
def places? (size : Nat) : Stretch → Option (Nat × Nat)
  | between first last => within first last
  | since first => within first (size - 1)
  | atEnd count => if count = 0 ∨ size < count then none else within (size - count) (size - 1)
where
  /-- Two places in their order, the last of them inside the content. -/
  within (first last : Nat) : Option (Nat × Nat) :=
    if first ≤ min last (size - 1) then some (first, min last (size - 1)) else none

/-- Whether two parts, given by their places, have a byte in common. -/
def meet (a b : Nat × Nat) : Bool := a.1 ≤ b.2 && b.1 ≤ a.2

/-- The places of several parts, if each of them has some and no two have a byte in common. -/
def allPlaces? (size : Nat) (parts : List Stretch) : Option (List (Nat × Nat)) := do
  let places ← parts.mapM (places? size)
  if places.Pairwise fun a b => meet a b = false then some places else none

/-- The bytes from one place to another. -/
def cut {α : Type} (content : List α) (first last : Nat) : List α :=
  (content.drop first).take (last + 1 - first)

end Stretch

end VideoGreeting.Http
