import VideoGreeting.Number.Numeral

/-!
# Targets of requests

A request names what it asks for by a target. Most targets are a path with a query after it, as in
`/reels/a.mp4?x=1`. The site of the service may stand before the path, as in `http://host/reels`,
and a target may also be a host alone, which has no path at all.
-/

namespace VideoGreeting.Http

/-- A name in lower case. -/
def lowerName (name : String) : String := String.ofList (name.toList.map Number.lowerAscii)

/-- What a target says about the site of the service. -/
inductive Site where
  | unnamed
  /-- A host alone; such a target has no path. -/
  | host (name : String)
  /-- A protocol and a host. -/
  | full (scheme host : String)
  deriving Repr, DecidableEq, Inhabited

/-- A target. -/
structure Target where
  site : Site := .unnamed
  path : String
  /-- What follows the question mark, if there is one. -/
  query : Option String := none
  deriving Repr, DecidableEq, Inhabited

namespace Target

/-! ## Sites -/

/-- Whether a character may stand in the name of a protocol. -/
def isSchemeChar (c : Char) : Bool := c.isAlphanum || "+-.~".toList.contains c

/-- Whether a character may stand in a host, up to where the path begins. -/
def isHostChar (c : Char) : Bool := c != '/' && c != '?' && c != '#'

/-- The name of a protocol as it is written: the two names of this one in lower case. -/
def writtenScheme (scheme : String) : String :=
  if lowerName scheme ∈ ["http", "https"] then lowerName scheme else scheme

/-- The site at the start of a target, and what follows it. A text without a slash at its start and
without a protocol is a host, except for a star, which stands for a path. -/
def splitSite (cs : List Char) : Site × List Char :=
  let scheme := cs.takeWhile isSchemeChar
  match cs.drop scheme.length with
  | ':' :: '/' :: '/' :: rest =>
    let host := rest.takeWhile isHostChar
    (.full (writtenScheme (String.ofList scheme)) (String.ofList host), rest.drop host.length)
  | _ =>
    if cs.head? = some '/' ∨ cs = ['*'] then (.unnamed, cs) else (.host (String.ofList cs), [])

/-! ## Reading -/

/-- The path and the query that a text without a site writes. What follows a number sign does not
count. -/
def splitQuery (cs : List Char) : String × Option String :=
  let cs := cs.takeWhile (· != '#')
  let path := cs.takeWhile (· != '?')
  match cs.drop path.length with
  | _ :: query => (String.ofList path, some (String.ofList query))
  | [] => (String.ofList path, none)

/-- The target that a text writes. Behind a protocol and a host the path may be left out. -/
def ofText (text : String) : Target :=
  match splitSite text.toList with
  | (.host name, _) => { site := .host name, path := "" }
  | (site, rest) =>
    let (path, query) := splitQuery rest
    { site, path := if path.isEmpty then "/" else path, query }

/-! ## Folders -/

/-- The same target with a slash after its path. There is none for a star, and none for a host alone,
which cannot stand before a path without a protocol. -/
def withSlash? (t : Target) : Option String :=
  let path := t.path ++ "/" ++ (t.query.elim "" ("?" ++ ·))
  match t.site with
  | .unnamed => if t.path = "*" then none else some path
  | .host _ => none
  | .full scheme host => some (scheme ++ "://" ++ host ++ path)

end Target

end VideoGreeting.Http
