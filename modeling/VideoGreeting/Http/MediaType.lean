import VideoGreeting.Http.Message
import VideoGreeting.Text.Blank

/-!
# Media types

A media type such as `text/plain; charset=utf-8`: a type and a subtype, and after semicolons its
parameters. The value of a parameter is a bare word, or any text in quotes.
-/

namespace VideoGreeting.Http

/-- A media type. Its words and the names of its parameters are in lower case. -/
structure MediaType where
  type : String
  subtype : String
  parameters : List (String × String)
  deriving Repr, DecidableEq, Inhabited

namespace MediaType

/-! ## Words -/

/-- Whether a character may stand in a bare word. -/
def isTokenChar (c : Char) : Bool := c.isAlphanum || "!#$%&'*+-.^_`|~".toList.contains c

/-- One or more characters of bare words. -/
def token? (cs : List Char) : Option String :=
  if !cs.isEmpty && cs.all isTokenChar then some (String.ofList cs) else none

/-- Whether a character may stand between quotes. -/
def isQuotable (c : Char) : Bool := ' ' ≤ c && c != '\x7f'

/-! ## Splitting at semicolons -/

/-- Where in a parameter a character stands. -/
inductive Spot where
  | bare
  /-- Right after an equals sign, where a quote opens a text. -/
  | afterEquals
  /-- Right after an opening quote, where a quote does not close the text. -/
  | opened
  | quoted
  deriving Repr, DecidableEq

/-- Where the character after `c` stands. -/
def Spot.next : Spot → Char → Spot
  | quoted, c => if c = '"' then bare else quoted
  | opened, _ => quoted
  | afterEquals, '"' => opened
  | _, c => if c = '=' then afterEquals else bare

/-- Whether a semicolon separates parameters here. -/
def Spot.separates : Spot → Bool
  | bare | afterEquals => true
  | opened | quoted => false

/-- Splits at the semicolons outside quotes; there is always at least one piece. -/
def splitParameters : Spot → List Char → List (List Char)
  | _, [] => [[]]
  | spot, c :: rest =>
    if c = ';' ∧ spot.separates then [] :: splitParameters .bare rest
    else
      match splitParameters (spot.next c) rest with
      | [] => [[c]]
      | piece :: pieces => (c :: piece) :: pieces

/-! ## Parameters -/

/-- The text after an opening quote: one or more characters up to the next quote, of which the first
may be a quote itself. Only blanks may follow. -/
def quotedValue? : List Char → Option String
  | [] => none
  | first :: rest =>
    match Text.splitOnce '"' rest with
    | some (inner, after) =>
      if (first :: inner).all isQuotable && after.all (· == ' ') then
        some (String.ofList (first :: inner))
      else none
    | none => none

/-- The value of a parameter. That of the `final` one may be nothing at all. -/
def value? (final : Bool) : List Char → Option String
  | '"' :: rest => quotedValue? rest
  | [] => if final then some "" else none
  | word => token? word

/-- A parameter: a name in any case, an equals sign and a value, after any blanks. -/
def parameter? (final : Bool) (cs : List Char) : Option (String × String) := do
  let (name, value) ← Text.splitOnce '=' (cs.dropWhile (· == ' '))
  return (lowerName (← token? name), ← value? final value)

/-- The parameters that pieces write; the last piece may be blank. -/
def parameters? : List (List Char) → Option (List (String × String))
  | [] => some []
  | [last] => if last.all (· == ' ') then some [] else (parameter? true last).map ([·])
  | piece :: rest => do return (← parameter? false piece) :: (← parameters? rest)

/-! ## Types -/

/-- A subtype without the suffix that its last plus sign begins. -/
def withoutSuffix (subtype : List Char) : List Char :=
  match Text.splitOnce '+' subtype.reverse with
  | some (_, before) => if before.isEmpty then subtype else before.reverse
  | none => subtype

/-- The media type with an essence such as `text/plain`. -/
def ofEssence? (essence : List Char) (parameters : List (String × String)) : Option MediaType := do
  let (type, subtype) ← Text.splitOnce '/' essence
  let _ ← token? subtype
  return {
    type := lowerName (← token? type)
    subtype := lowerName (String.ofList (withoutSuffix subtype))
    parameters }

/-- The media type that a text writes, if it writes one. -/
def parse? (text : String) : Option MediaType :=
  match Text.splitOnce ';' text.toList with
  | none => ofEssence? text.toList []
  | some (essence, rest) => do ofEssence? essence (← parameters? (splitParameters .bare rest))

/-- The value of the first parameter with a name. -/
def parameterNamed? (m : MediaType) (name : String) : Option String := m.parameters.lookup name

end MediaType

end VideoGreeting.Http
