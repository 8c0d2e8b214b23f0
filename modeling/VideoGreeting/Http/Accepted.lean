import VideoGreeting.Http.Target
import VideoGreeting.Text.Blank

/-!
# What a client accepts

A header such as `gzip;q=0.5, identity` lists names with weights, which are counted in thousandths
here. A name without a weight has all of it; a name with the weight zero is not accepted.
-/

namespace VideoGreeting.Http.Accepted

/-- The thousandths of a number from 0 to 1 with three places at most. -/
def thousandths? (cs : List Char) : Option Nat :=
  let (whole, places) := (Text.splitOnce '.' cs).getD (cs, [])
  if whole.length = 1 ∧ places.length ≤ 3 then
    (Number.digits? (whole ++ places.rightpad 3 '0')).filter (· ≤ 1000)
  else none

/-- A weight such as `q=0.5`. -/
def weight? : List Char → Option Nat
  | 'q' :: '=' :: rest | 'Q' :: '=' :: rest => thousandths? rest
  | _ => none

/-- A name in lower case, and its weight. -/
def ofPiece? (cs : List Char) : Option (String × Nat) :=
  let trim := Text.stripBy Text.isBlank
  match Text.splitOnce ';' cs with
  | none => some (lowerName (String.ofList (trim cs)), 1000)
  | some (name, weight) =>
    (weight? (trim weight)).map fun weight => (lowerName (String.ofList (trim name)), weight)

/-- Whether a list accepts a name. Pieces that cannot be read do not count. -/
def accepts (list name : String) : Bool :=
  ((Text.splitBy (· == ',') list.toList).filterMap ofPiece?).any fun (given, weight) =>
    given == name && 0 < weight

end VideoGreeting.Http.Accepted
