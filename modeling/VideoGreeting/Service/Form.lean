import VideoGreeting.Disk.Guard
import VideoGreeting.Http.Multipart
import VideoGreeting.Service.Problem
import VideoGreeting.Service.World

/-!
# The form of a reel

The parts of a form become a selection. Images are stored as they are read, each under a fresh name,
and a guard tracks them, so that none is left behind when the form turns out to be broken.
-/

namespace VideoGreeting.Service

open Http (Multipart.Part Multipart.Form)

/-- What was taken from a form so far. -/
structure Intake where
  selection : Selection := {}
  /-- The images stored so far. -/
  uploads : Guard := .empty
  disk : Disk
  /-- How many identifiers were given out. -/
  issued : Nat
  deriving Repr, Inhabited

namespace Intake

/-! ## Storing images -/

/-- Whether an extension is kept: one to eight ASCII letters or digits. -/
def keepsExtension (ext : String) : Bool :=
  !ext.isEmpty && ext.utf8ByteSize ≤ 8 && ext.toList.all Char.isAlphanum

/-- The extension under which an image is stored, from what the client called it. -/
def extensionOf (clientName : String) : String :=
  match (Path.mk clientName).extension?.filter keepsExtension with
  | some ext => Http.lowerName ext
  | none => "img"

/-- Where the next image is stored. -/
def uploadPath (ids : Identifiers) (folder : Path) (issued : Nat) (clientName : String) : Path :=
  folder.join ⟨s!"{ids.text issued}.{extensionOf clientName}"⟩

/-- Takes an image that is stored at a path. -/
def takeImage (i : Intake) (path : Path) (clientName : String) : Intake :=
  { i with
    uploads := i.uploads.push path
    selection :=
      { i.selection with images := i.selection.images ++ [{ path, clientName }] } }

/-- Writes an image, unless something other than the disk refuses it. -/
def writeImage (host : Host) (d : Disk) (path : Path) (content : Text.Bytes) :
    Except Fault Disk :=
  match host.refusal? path with
  | some fault => .error fault
  | none => d.write path content

/-- Stores an image; one without content is passed over. -/
def storeImage (host : Host) (i : Intake) (folder : Path) (clientName : String)
    (content : Text.Bytes) : Except Problem Unit × Intake :=
  if content.isEmpty then (.ok (), i)
  else
    match i.disk.ensureFolder folder with
    | (.error fault, disk) =>
      (.error (.internal (Failure.disk fault).message), { i with disk })
    | (.ok (), disk) =>
      let path := uploadPath host.identifiers folder i.issued clientName
      let i := { i with disk, issued := i.issued + 1 }
      match writeImage host disk path content with
      | .error fault => (.error (.internal ("failed to store upload: " ++ fault.message)), i)
      | .ok disk => (.ok (), { i with disk }.takeImage path clientName)

/-! ## Reading parts -/

/-- Sets the field of a selection that a part is named for; other parts are passed over. -/
def setField (s : Selection) (name value : String) : Selection :=
  if name = "song" then { s with song := value }
  else if name = "background" then { s with background := value }
  else if name = "animation" then { s with animation := value }
  else if name = "text" then { s with caption := value }
  else s

/-- Takes one part. -/
def takePart (host : Host) (i : Intake) (folder : Path) (p : Multipart.Part) :
    Except Problem Unit × Intake :=
  let name := p.name.getD ""
  if name = "images" then i.storeImage host folder (p.fileName.getD "") p.content
  else (.ok (), { i with selection := setField i.selection name p.text })

/-- Takes parts up to the first with a problem. -/
def takeParts (host : Host) (folder : Path) :
    List Multipart.Part → Intake → Except Problem Unit × Intake
  | [], i => (.ok (), i)
  | p :: rest, i =>
    match i.takePart host folder p with
    | (.ok (), i) => takeParts host folder rest i
    | (.error problem, i) => (.error problem, i)

/-- Takes a form: its parts, and then what is wrong with it, if anything is. -/
def takeForm (host : Host) (folder : Path) (form : Multipart.Form) (i : Intake) :
    Except Problem Unit × Intake :=
  match takeParts host folder form.parts i with
  | (.error problem, i) => (.error problem, i)
  | (.ok (), i) =>
    match form.fault with
    | some fault => (.error (.badRequest fault.message), i)
    | none => (.ok (), i)

/-- The disk after the images of a form that is given up are removed. -/
def giveUp (i : Intake) : Disk := i.uploads.drop i.disk

end Intake

end VideoGreeting.Service
