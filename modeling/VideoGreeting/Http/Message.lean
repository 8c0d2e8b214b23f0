import VideoGreeting.Http.Target
import VideoGreeting.Json
import VideoGreeting.Text.Bytes

/-!
# Requests and responses

Header names are written in lower case in responses and compared without regard to case.
-/

namespace VideoGreeting.Http

open Text (Bytes)

/-- A request. -/
structure Request where
  method : String
  target : Target
  headers : List (String × String) := []
  body : Bytes := []
  /-- The greatest number of bytes of the body that may be read. -/
  bodyLimit : Option Nat := none
  deriving Repr, DecidableEq, Inhabited

namespace Request

/-- The value of a header. -/
def header? (r : Request) (name : String) : Option String :=
  (r.headers.find? fun header => lowerName header.1 == name).map (·.2)

/-- The path asked for. -/
def path (r : Request) : String := r.target.path

/-- The same request for another path. -/
def withPath (r : Request) (path : String) : Request := { r with target := { r.target with path } }

/-- Whether a request asks for something to look at. -/
def isReading (r : Request) : Bool := r.method == "GET" || r.method == "HEAD"

/-- The body, unless it is longer than what may be read. -/
def readableBody? (r : Request) : Option Bytes :=
  match r.bodyLimit with
  | some limit => if limit < r.body.length then none else some r.body
  | none => some r.body

end Request

/-- A response. -/
structure Response where
  status : Nat
  headers : List (String × String) := []
  /-- The body; nothing if it breaks off when it is read. -/
  body : Option Bytes := some []
  deriving Repr, DecidableEq, Inhabited

namespace Response

/-- The value of a header. -/
def header? (r : Response) (name : String) : Option String := r.headers.lookup name

/-- Sets a header, in place of any value that it had. -/
def set (r : Response) (name value : String) : Response :=
  { r with headers := r.headers.filter (·.1 != name) ++ [(name, value)] }

/-- Sets a header unless it has a value. -/
def setDefault (r : Response) (name value : String) : Response :=
  if (r.header? name).isSome then r else r.set name value

/-- Sets several headers. -/
def setAll (r : Response) (headers : List (String × String)) : Response :=
  headers.foldl (fun r (name, value) => r.set name value) r

/-- A response without a body. -/
def empty (status : Nat) : Response := { status }

/-- A response with a text. -/
def plain (status : Nat) (text : String) : Response :=
  { status
    headers := [("content-type", "text/plain; charset=utf-8")]
    body := some (Text.encode text) }

/-- A response with a structured value. -/
def json (status : Nat) (value : Json) : Response :=
  { status
    headers := [("content-type", "application/json")]
    body := some (Text.encode value.render) }

/-- The response to a method that is not one of those allowed. -/
def notAllowed (allowed : String) : Response :=
  { status := 405, headers := [("allow", allowed)] }

/-- The response without its body. -/
def bodiless (r : Response) : Response := { r with body := some [] }

end Response

/-! ## Header values -/

/-- Whether a character may stand in a header that is read as text. -/
def isVisible (c : Char) : Bool := (' ' ≤ c && c < '\x7f') || c == '\t'

/-- The text of a header value, if it is one. -/
def visibleText? (value : String) : Option String :=
  if value.toList.all isVisible then some value else none

/-- Whether a text can be a header value: it holds no control characters but tabs. -/
def isHeaderValue (value : String) : Bool :=
  value.toList.all fun c => (' ' ≤ c && c != '\x7f') || c == '\t'

end VideoGreeting.Http
