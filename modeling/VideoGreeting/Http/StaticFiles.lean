import VideoGreeting.Disk
import VideoGreeting.Http.Accepted
import VideoGreeting.Http.Date
import VideoGreeting.Http.FileType
import VideoGreeting.Http.Message
import VideoGreeting.Http.Percent
import VideoGreeting.Http.Stretch

/-!
# Serving files

A folder served under a path. A request never leads out of the folder; for a folder inside it its
`index.html` is served. One part of a file can be asked for alone, and a file can be asked for on
the condition that it was changed since some date or was not.
-/

namespace VideoGreeting.Http.StaticFiles

/-- Goes down from a folder by components, of which none may lead up. -/
def descend? (folder : Path) : List Path.Component → Option Path
  | [] => some folder
  | .name s :: rest => descend? (folder.join ⟨s⟩) rest
  | .here :: rest => descend? folder rest
  | .root :: _ => none
  | .up :: _ => none

/-- The path below a folder that a request path stands for. -/
def locate? (folder : Path) (path : String) : Option Path := do
  let below := String.ofList (path.toList.dropWhile (· == '/'))
  descend? folder (Path.mk (← Percent.decodeText? below)).components

/-- The response when there is no such file. -/
def notFound : Response := .empty 404

/-- What is found under a path: its size and its content. A folder can be opened like a file but has
no content that can be read. -/
structure Opened where
  size : Nat
  content : Option Text.Bytes
  deriving Repr, DecidableEq

/-- A response with a body, of the type that the path tells. -/
def typed (p : Path) (status : Nat) (body : Option Text.Bytes) : Response :=
  { status, headers := [("content-type", FileType.ofPath p)], body }

/-- What is sent of a content. A request for the headers alone gets none of it. -/
def sent (r : Request) (content : Option Text.Bytes) : Option Text.Bytes :=
  if r.method = "HEAD" then some [] else content

/-- The response with a content, or with the one part of it that is asked for. -/
def found (r : Request) (p : Path) (o : Opened) : Response :=
  match (r.header? "range").bind visibleText? with
  | none => typed p 200 (sent r o.content)
  | some wanted =>
    match (Stretch.ofText? wanted).bind (Stretch.allPlaces? o.size) with
    | some [(first, last)] => typed p 206 (sent r (o.content.map (Stretch.cut · first last)))
    | some _ => typed p 416 (some (Text.encode "Cannot serve multipart range requests"))
    | none => typed p 416 (some [])

/-- The moment that a header of a request names. -/
def date? (r : Request) (name : String) : Option Int := (r.header? name).bind Date.read?

/-- The response to a condition that does not hold for a file that was changed at some moment. -/
def refusal? (changed : Int) (r : Request) : Option Response :=
  if (date? r "if-unmodified-since").any (· < changed) then some (.empty 412)
  else if (date? r "if-modified-since").any (changed ≤ ·) then some (.empty 304)
  else none

/-- The size of a folder that is opened like a file: one block of the disk. -/
def folderSize : Nat := 4096

/-- Opens what a path leads to. -/
def openAt (d : Disk) (p : Path) : Except Fault Opened :=
  match d.read p with
  | .ok content => .ok { size := content.length, content := some content }
  | .error .isFolder => .ok { size := folderSize, content := none }
  | .error fault => .error fault

/-- Whether a request says that it accepts contents as they are. -/
def takesIdentity (r : Request) : Bool :=
  r.headers.any fun (name, value) =>
    lowerName name == "accept-encoding" && (visibleText? value).any (Accepted.accepts · "identity")

/-- Opens the file that a request is for. Files have one encoding only, that of contents as they
are. For a request that accepts it by name, a missing file is looked for without its extension too,
as if that were the mark of an encoding. -/
def openFor (d : Disk) (r : Request) (p : Path) : Except Fault Opened :=
  match openAt d p with
  | .error .missing => openAt d (if takesIdentity r then p.withoutExtension else p)
  | result => result

/-- The response with a file. That no file can have a path is noticed when one is opened; a request
for the headers alone opens none. -/
def file (d : Disk) (changed : Int) (r : Request) (p : Path) : Response :=
  match openFor d r p with
  | .ok opened => (refusal? changed r).getD (found r p opened)
  | .error .missing | .error .notFolder => notFound
  | .error .nulInName => if r.method = "HEAD" then .empty 500 else notFound
  | .error _ => .empty 500

/-- Sends the client from a folder to the target with a slash after its path, if there is one. -/
def redirect (r : Request) : Response :=
  match r.target.withSlash? with
  | some location => { status := 307, headers := [("location", location)] }
  | none => .empty 500

/-- Serves a folder at some moment. When a file was changed is not recorded; files count as changed
at that moment. -/
def serve (folder : Path) (d : Disk) (now : Int) (r : Request) : Response :=
  if !r.isReading then .notAllowed "GET,HEAD"
  else
    match locate? folder r.path with
    | none => notFound
    | some p =>
      if d.isFolder p then
        if (Path.mk r.path).endsInSlash then file d now r (p.join ⟨"index.html"⟩) else redirect r
      else file d now r p

end VideoGreeting.Http.StaticFiles
