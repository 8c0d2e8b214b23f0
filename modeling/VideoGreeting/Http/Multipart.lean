import VideoGreeting.Http.MediaType
import VideoGreeting.Text.Charset
import VideoGreeting.Text.Lines
import VideoGreeting.Text.Quoted

/-!
# Forms with several parts

A form is a sequence of parts between boundary lines. Each part has headers, which name it, and a
content. Reading goes on until the closing boundary or the first thing that is wrong; the parts
before it count.
-/

namespace VideoGreeting.Http.Multipart

open Text (Bytes)

/-- One part of a form. -/
structure Part where
  name : Option String
  fileName : Option String
  /-- The character set of the content, if it is text. -/
  charset : Text.Charset := .utf8
  content : Bytes
  deriving Repr, DecidableEq, Inhabited

/-- The content as text. -/
def Part.text (p : Part) : String := p.charset.read p.content

/-- What can be wrong with a form. -/
inductive Fault where
  /-- The body cannot be read to its end. -/
  | unreadable
  /-- Something other than a boundary, headers or the end stands where one of them should. -/
  | incomplete
  | badHeaders
  /-- The content of a part has no end. -/
  | incompletePart (name : Option String)
  deriving Repr, DecidableEq

/-- The wording of a fault. -/
def Fault.message : Fault → String
  | unreadable => "failed to read stream"
  | incomplete => "incomplete multipart stream"
  | badHeaders => "failed to read headers"
  | incompletePart name =>
    "field " ++ Text.quote (name.getD "<unknown>") ++ " received with incomplete data"

/-- The parts of a form up to its end or its first fault. -/
structure Form where
  parts : List Part := []
  fault : Option Fault := none
  deriving Repr, DecidableEq, Inhabited

/-- A form that ends with a fault. -/
def Form.broken (fault : Fault) : Form := { fault := some fault }

/-- The form with one more part in front. -/
def Form.cons (p : Part) (f : Form) : Form := { f with parts := p :: f.parts }

/-! ## Headers of a part -/

/-- Whether a byte is a space or a tab. -/
def isPadding (b : UInt8) : Bool := b == 0x20 || b == 0x09

/-- Whether a byte is white space in a header. -/
def isSpace (b : UInt8) : Bool := isPadding b || b == 0x0a || b == 0x0c || b == 0x0d

/-- Whether a byte may stand in the value of a header. -/
def isValueByte (b : UInt8) : Bool := (0x20 ≤ b && b != 0x7f) || b == 0x09

/-- A header line: a name, a colon and a value. -/
def headerLine? (line : Bytes) : Option (String × Bytes) := do
  let (name, value) ← Text.breakOn [0x3a] line
  let name ← MediaType.token? (name.map fun b => Char.ofNat b.toNat)
  let value := ((value.dropWhile isPadding).reverse.dropWhile isPadding).reverse
  if value.all isValueByte then return (lowerName name, value) else none

/-- The greatest number of headers of a part. -/
def maxHeaders : Nat := 32

/-- The headers in a block of lines, up to an empty line. -/
def headers? (block : Bytes) : Option (List (String × Bytes)) := do
  let headers ← ((Text.lines block).takeWhile (!·.isEmpty)).mapM headerLine?
  if headers.length ≤ maxHeaders then return headers else none

/-- The value of a header; of several headers with one name the last counts. -/
def lastHeader? (headers : List (String × Bytes)) (name : String) : Option Bytes :=
  headers.reverse.lookup name

/-! ## What a part is -/

/-- The text between quotes; a quote after a backslash is part of it, without the backslash. -/
def quotedValue? : Bytes → Option Bytes
  | [] => none
  | 0x5c :: 0x22 :: rest => (quotedValue? rest).map (0x22 :: ·)
  | b :: rest => if b = 0x22 then some [] else (quotedValue? rest).map (b :: ·)

/-- The value after the equals sign: in quotes, or up to a space or a semicolon. -/
def assignedValue? : Bytes → Option Bytes
  | 0x22 :: rest => quotedValue? rest
  | bytes => some (bytes.takeWhile fun b => b != 0x20 && b != 0x3b)

/-- The value of an assignment such as `name="x"` in a header. The word begins at the start, after
white space or after a semicolon; the first one that does must be followed by an equals sign. -/
def assigned? (word header : Bytes) : Option Bytes :=
  match h : Text.breakOn word header with
  | none => none
  | some (before, after) =>
    have := Text.length_after_breakOn h
    if word.isEmpty then none
    else
      let begins := before.getLast?.all fun b => isSpace b || b == 0x3b
      if begins then
        match after.dropWhile isSpace with
        | 0x3d :: rest => assignedValue? (rest.dropWhile isSpace)
        | _ => none
      else assigned? word after
  termination_by header.length
  decreasing_by
    all_goals
      have positive : 0 < word.length := by
        cases word with
        | nil => simp at *
        | cons => simp
      omega

/-- What the header that describes a part says about a word, as text. -/
def disposition? (headers : List (String × Bytes)) (word : String) : Option String := do
  let value ← lastHeader? headers "content-disposition"
  Text.strict? (← assigned? (Text.encode word) value)

/-- The character set that the headers give, if they give one that is known. -/
def charset (headers : List (String × Bytes)) : Text.Charset :=
  let label? := do
    let text ← visibleText? (← Text.strict? (← lastHeader? headers "content-type"))
    (← MediaType.parse? text).parameterNamed? "charset"
  (label?.bind Text.Charset.ofLabel?).getD .utf8

/-! ## Parts -/

/-- A line end. -/
def lineEnd : Bytes := [0x0d, 0x0a]

/-- What stands in front of a boundary. -/
def dashes : Bytes := [0x2d, 0x2d]

/-- The parts that follow a boundary. -/
def partsAfter (boundary bytes : Bytes) : Form :=
  if dashes.isPrefixOf bytes then {}
  else
    match hline : bytes.dropWhile isPadding with
    | 0x0d :: 0x0a :: rest =>
      have restShorter : rest.length + 2 ≤ bytes.length := by
        have kept := (List.dropWhile_sublist (l := bytes) isPadding).length_le
        rw [hline, List.length_cons, List.length_cons] at kept
        exact kept
      match hblock : Text.breakOn (lineEnd ++ lineEnd) rest with
      | none => .broken .incomplete
      | some (block, data) =>
        have dataShorter := Text.length_after_breakOn hblock
        match headers? (block ++ lineEnd) with
        | none => .broken .badHeaders
        | some headers =>
          let name := disposition? headers "name"
          match hdata : Text.breakOn (lineEnd ++ dashes ++ boundary) data with
          | none => .broken (.incompletePart name)
          | some (content, rest) =>
            have nextShorter := Text.length_after_breakOn hdata
            (partsAfter boundary rest).cons
              { name, fileName := disposition? headers "filename", charset := charset headers,
                content }
    | _ => .broken .incomplete
  termination_by bytes.length
  decreasing_by omega

/-- The form in a body; what stands before the first boundary does not count. -/
def ofBytes (boundary : String) (body : Bytes) : Form :=
  let boundary := Text.encode boundary
  match Text.breakOn (dashes ++ boundary) body with
  | none => .broken .incomplete
  | some (_, rest) => partsAfter boundary rest

/-- The boundary of a form, given by its type. -/
def boundary? (contentType : String) : Option String := do
  let m ← MediaType.parse? (← visibleText? contentType)
  if m.type = "multipart" ∧ m.subtype = "form-data" then m.parameterNamed? "boundary" else none

/-- The form in the body of a request. -/
def ofRequest (boundary : String) (r : Request) : Form :=
  match r.readableBody? with
  | none => .broken .unreadable
  | some body => ofBytes boundary body

end VideoGreeting.Http.Multipart
