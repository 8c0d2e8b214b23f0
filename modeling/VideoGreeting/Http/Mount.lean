import VideoGreeting.Text.Blank

/-!
# Mounts

A folder can be served below a path, which is given as pieces between slashes. A colon in a piece
begins a parameter: requests may have any text in its place.
-/

namespace VideoGreeting.Http

/-- The pieces below which a folder is served; at least one. -/
structure Mount where
  pieces : List (List Char)
  deriving Repr, DecidableEq

namespace Mount

/-- The pieces between the slashes of a path, of which the first follows the slash at its start. -/
def split (path : String) : List (List Char) := Text.splitBy (· == '/') (path.toList.drop 1)

/-- The mount that a text writes; slashes at its ends do not count, and without anything else there
is no mount. -/
def ofText? (text : String) : Option Mount :=
  match Text.stripBy (· == '/') text.toList with
  | [] => none
  | inner => some ⟨Text.splitBy (· == '/') inner⟩

/-! ## Reaching a mount -/

/-- What stands in a piece before its parameter. -/
def fixed (piece : List Char) : List Char := piece.takeWhile (· != ':')

/-- Whether a piece has a parameter. -/
def hasParameter (piece : List Char) : Bool := piece.contains ':'

/-- Whether a piece of a request's path fits a piece of a mount. -/
def fits (piece given : List Char) : Bool :=
  if hasParameter piece then (fixed piece).isPrefixOf given else given == piece

/-- Whether the first piece of a mount is a name with a parameter after it. -/
def continues (m : Mount) (name : String) : Bool :=
  m.pieces.head?.any fun piece => hasParameter piece && fixed piece == name.toList

/-- Whether the pieces of a request's path begin with those of a mount. A parameter at the end of
the path takes one character at least. -/
def reaches : List (List Char) → List (List Char) → Bool
  | [], _ => true
  | _, [] => false
  | [piece], [given] =>
    fits piece given && (!hasParameter piece || (fixed piece).length < given.length)
  | piece :: pieces, given :: rest => fits piece given && reaches pieces rest

/-! ## The path below -/

/-- Whether a piece can be taken off a path: it is as written, or a parameter altogether. -/
def comesOff (piece given : List Char) : Bool := piece.head? == some ':' || given == piece

/-- A path made of pieces; a slash at its start is not doubled. -/
def rooted (pieces : List (List Char)) : String :=
  let path := ['/'].intercalate pieces
  String.ofList (if path.head? == some '/' then path else '/' :: path)

/-- The path below a mount, for a request that reaches it. Where a piece cannot be taken off, the
path is left as it is. -/
def below? (m : Mount) (path : String) : Option String :=
  let given := split path
  if !reaches m.pieces given then none
  else if (m.pieces.zip given).all fun (piece, given) => comesOff piece given then
    some (rooted (given.drop m.pieces.length))
  else some path

end Mount

end VideoGreeting.Http
