import VideoGreeting.Text.Blank

/-!
# Paths

A path keeps the text it was written with. Two paths are the same when their components are: double
slashes, inner dots and a slash at the end make no difference, `..` and a dot at the start do.
-/

namespace VideoGreeting

/-- A path, as written. -/
structure Path where
  text : String
  deriving Repr, DecidableEq, Inhabited

namespace Path

/-- One component of a path. -/
inductive Component where
  | root
  | here
  | up
  | name (text : String)
  deriving Repr, DecidableEq

/-- Whether the path starts at the root. -/
def isAbsolute (p : Path) : Bool := p.text.toList.head? == some '/'

/-- The pieces between slashes, without the empty ones. -/
def segments (p : Path) : List String :=
  ((Text.splitBy (· == '/') p.text.toList).filter (!·.isEmpty)).map String.ofList

/-- Whether the text ends in a slash. -/
def endsInSlash (p : Path) : Bool := p.text.toList.getLast? == some '/'

/-- The component that a piece stands for; a dot counts only at the start. -/
def Component.ofSegment (s : String) : Component :=
  if s = "." then .here else if s = ".." then .up else .name s

/-- The components: the root if the path starts there, then every piece that is not a dot; a dot at
the very start of a relative path is kept. -/
def components (p : Path) : List Component :=
  match p.segments with
  | [] => if p.isAbsolute then [.root] else []
  | first :: rest =>
    let kept := (rest.map Component.ofSegment).filter (· != .here)
    if p.isAbsolute then .root :: ((Component.ofSegment first :: kept).filter (· != .here))
    else .ofSegment first :: kept

/-- Equality by components. -/
def same (p q : Path) : Bool := p.components == q.components

/-- `q` taken from `p`: `q` itself if it is absolute, else both with one slash between them. -/
def join (p q : Path) : Path :=
  if q.isAbsolute then q
  else if p.text.isEmpty || p.endsInSlash then ⟨p.text ++ q.text⟩
  else ⟨p.text ++ "/" ++ q.text⟩

/-- The last component, if it is a name. -/
def fileName? (p : Path) : Option String :=
  match p.components.getLast? with
  | some (.name s) => some s
  | _ => none

/-- What stands in the file name before and after its last dot; a dot at the start of the name does
not count. -/
def splitName? (p : Path) : Option (String × String) :=
  p.fileName?.bind fun name =>
    match Text.splitOnce '.' name.toList.reverse with
    | some (after, before) =>
      if before.isEmpty then none
      else some (String.ofList before.reverse, String.ofList after.reverse)
    | none => none

/-- What follows the last dot of the file name. -/
def extension? (p : Path) : Option String := p.splitName?.map (·.2)

/-- The path without its last component; the root and the empty path have none. -/
def parent? (p : Path) : Option Path :=
  let dots (segments : List String) := segments.reverse.dropWhile (· == ".")
  let start := if p.isAbsolute then "/" else ""
  match dots p.segments with
  | [] => none
  | _ :: front => some ⟨start ++ "/".intercalate (dots front.reverse).reverse⟩

/-- The path with the file name up to its last dot. -/
def withoutExtension (p : Path) : Path :=
  match p.parent?, p.splitName? with
  | some folder, some (stem, _) => folder.join ⟨stem⟩
  | _, _ => p

end Path

end VideoGreeting
