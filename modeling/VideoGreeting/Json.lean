import VideoGreeting.Number.Decimal

/-!
# Structured values

The values in which requests, answers and settings are exchanged, their text, and the reading of
records from them.
-/

namespace VideoGreeting

/-- A structured value. Numbers written without a fraction are whole. -/
inductive Json where
  | null
  | bool (value : Bool)
  | int (value : Int)
  | real (value : Float)
  | string (text : String)
  | array (items : List Json)
  | object (fields : List (String × Json))
  deriving Repr, Inhabited

namespace Json

/-! ## Text -/

/-- A character as it stands inside a string. -/
def escaped (c : Char) : List Char :=
  if c = '"' ∨ c = '\\' then ['\\', c]
  else if c = '\x08' then ['\\', 'b']
  else if c = '\x0c' then ['\\', 'f']
  else if c = '\n' then ['\\', 'n']
  else if c = '\r' then ['\\', 'r']
  else if c = '\t' then ['\\', 't']
  else if c < ' ' then
    ['\\', 'u', '0', '0', Nat.digitChar (c.toNat / 16), Nat.digitChar (c.toNat % 16)]
  else [c]

/-- A text in quotes. -/
def quoted (text : String) : String :=
  String.ofList (['"'] ++ text.toList.flatMap escaped ++ ['"'])

mutual

/-- The compact text of a value; a number that is not finite stands as null. -/
def render : Json → String
  | null => "null"
  | bool value => if value then "true" else "false"
  | int value => toString value
  | real value => if value.isFinite then Number.shortestText value else "null"
  | string text => quoted text
  | array items => "[" ++ ",".intercalate (renderItems items) ++ "]"
  | object fields => "\x7b" ++ ",".intercalate (renderFields fields) ++ "\x7d"

/-- The texts of a list of values. -/
def renderItems : List Json → List String
  | [] => []
  | item :: rest => render item :: renderItems rest

/-- The texts of the fields of an object. -/
def renderFields : List (String × Json) → List String
  | [] => []
  | (name, value) :: rest => (quoted name ++ ":" ++ render value) :: renderFields rest

end

/-- A list of texts. -/
def strings (items : List String) : Json := array (items.map string)

/-! ## Reading -/

/-- A text. -/
def string? : Json → Option String
  | string text => some text
  | _ => none

/-- A truth value. -/
def bool? : Json → Option Bool
  | bool value => some value
  | _ => none

/-- A whole number from `0` to `bound`; one written with a fraction is refused. -/
def nat? (bound : Nat) : Json → Option Nat
  | int value => if 0 ≤ value ∧ value ≤ bound then some value.toNat else none
  | _ => none

/-- A list of which every item is read by `item?`. -/
def list? {α : Type} (item? : Json → Option α) : Json → Option (List α)
  | array items => items.mapM item?
  | _ => none

@[simp] theorem list?_strings (items : List String) : list? string? (strings items) = some items := by
  show (items.map string).mapM string? = some items
  rw [List.mapM_map]
  induction items with
  | nil => rfl
  | cons item items ih =>
      rw [List.mapM_cons, ih]
      rfl

/-- The values given for the named fields of a record. A record is an object, whose other fields do
not count, or the list of its values in the order of the names, from which values may be missing at
the end. -/
def record? (names : List String) : Json → Option (List (Option Json))
  | object fields => some (names.map fun name => fields.lookup name)
  | array items =>
    if items.length ≤ names.length then
      some (items.map some ++ List.replicate (names.length - items.length) none)
    else none
  | _ => none

/-- The value of a field that must be given. -/
def required {α : Type} (read? : Json → Option α) (value : Option Json) : Option α :=
  value.bind read?

/-- The value of a field that may be left out, in favour of `standard`. -/
def optional {α : Type} (read? : Json → Option α) (standard : α) : Option Json → Option α
  | none => some standard
  | some value => read? value

end Json

end VideoGreeting
