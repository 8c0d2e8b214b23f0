import VideoGreeting.Path
import VideoGreeting.Text.Bytes

/-!
# Files and folders

The state of a file system: which places hold a file, and with what content, and which hold a
folder. A place is the list of names that leads to it from the top. Every operation walks its path
one piece at a time, as a file system does: each piece but the last must lead to a folder, `..` goes
back to the folder above, and a name has at most 255 bytes. A path as a whole has at most 4095.
-/

namespace VideoGreeting

open Text (Bytes)

/-- The names from the top down to a file or folder. -/
abbrev Place := List String

/-- What a place holds. -/
inductive Entry where
  | file (content : Bytes)
  | folder
  deriving Repr, DecidableEq

/-- Why a file operation is refused. -/
inductive Fault where
  | missing
  | notFolder
  | alreadyExists
  | isFolder
  | nameTooLong
  | nulInName
  /-- Every name that may be tried for a file in a folder is taken. -/
  | namesTaken (file : String) (folder : Path)
  /-- A fault that comes with its own wording. -/
  | other (text : String)
  deriving Repr, DecidableEq

/-- The wording of a fault; what a system call refuses carries the system's number. -/
def Fault.message : Fault → String
  | missing => "No such file or directory (os error 2)"
  | notFolder => "Not a directory (os error 20)"
  | alreadyExists => "File exists (os error 17)"
  | isFolder => "Is a directory (os error 21)"
  | nameTooLong => "File name too long (os error 36)"
  | nulInName => "file name contained an unexpected NUL byte"
  | namesTaken file folder => s!"no free name for {file} in {folder.text}"
  | other text => text

/-- Files and folders by place. The top is always a folder; of two entries for one place the first
counts. -/
structure Disk where
  entries : List (Place × Entry)
  deriving Repr, DecidableEq, Inhabited

namespace Disk

/-- The disk with the top folder only. -/
def empty : Disk := ⟨[]⟩

/-- What lies at a place. -/
def entry? (d : Disk) (place : Place) : Option Entry :=
  if place = [] then some .folder else d.entries.lookup place

/-- The disk without the entry at a place. -/
def erase (d : Disk) (place : Place) : Disk := ⟨d.entries.filter (·.1 != place)⟩

/-- The disk with `entry` at a place. -/
def insert (d : Disk) (place : Place) (entry : Entry) : Disk :=
  ⟨(place, entry) :: (d.erase place).entries⟩

/-! ## Walking a path -/

/-- The greatest number of bytes in a name. -/
def maxNameBytes : Nat := 255

/-- Refuses a place that is no folder. -/
def needFolder (d : Disk) (place : Place) : Except Fault Unit :=
  match d.entry? place with
  | none => .error .missing
  | some (.file _) => .error .notFolder
  | some .folder => .ok ()

/-- One step from the folder `place` to the piece `segment`. -/
def enter (d : Disk) (place : Place) (segment : String) : Except Fault Place := do
  d.needFolder place
  if segment = "." then return place
  else if segment = ".." then return place.dropLast
  else if maxNameBytes < segment.utf8ByteSize then throw .nameTooLong
  else return place ++ [segment]

/-- Follows pieces from a place. The last piece may lead to a place that holds nothing. -/
def follow (d : Disk) (place : Place) (segments : List String) : Except Fault Place :=
  segments.foldlM d.enter place

/-- The greatest number of bytes in a path. -/
def maxPathBytes : Nat := 4095

/-- Refuses a path that cannot be walked at all: one with a NUL character, or one that is too
long. -/
def walkable (p : Path) : Except Fault Unit :=
  if p.text.toList.contains '\x00' then .error .nulInName
  else if maxPathBytes < p.text.utf8ByteSize then .error .nameTooLong
  else .ok ()

/-- The place a path leads to and what it holds. A slash at the end asks for a folder. -/
def find (d : Disk) (p : Path) : Except Fault (Place × Entry) := do
  walkable p
  if p.text.isEmpty then throw .missing
  let place ← d.follow [] (if p.endsInSlash then p.segments ++ ["."] else p.segments)
  match d.entry? place with
  | none => throw .missing
  | some entry => return (place, entry)

/-- Whether a path leads to a file or a folder. -/
def holds (d : Disk) (p : Path) : Bool := (d.find p).isOk

/-- Whether a path leads to a folder. -/
def isFolder (d : Disk) (p : Path) : Bool :=
  match d.find p with
  | .ok (_, .folder) => true
  | _ => false

/-- The content of the file that a path leads to. -/
def read (d : Disk) (p : Path) : Except Fault Bytes := do
  match ← d.find p with
  | (_, .file content) => return content
  | (_, .folder) => throw .isFolder

/-- The folder that the pieces before the last lead to, and the last piece. -/
def lastStep (d : Disk) (p : Path) : Except Fault (Place × String) := do
  walkable p
  match p.segments.getLast? with
  | none => throw (if p.isAbsolute then .isFolder else .missing)
  | some last => return (← d.follow [] p.segments.dropLast, last)

/-- Whether a piece names an entry rather than leads to one. -/
def isName (segment : String) : Bool := segment != "." && segment != ".."

/-! ## Changing files -/

/-- Creates an empty file where there is nothing yet. -/
def createNew (d : Disk) (p : Path) : Except Fault Disk := do
  let (folder, last) ← d.lastStep p
  d.needFolder folder
  if !isName last then throw .alreadyExists
  if p.endsInSlash then throw .isFolder
  let place ← d.enter folder last
  if (d.entry? place).isSome then throw .alreadyExists
  return d.insert place (.file [])

/-- The place of the file that a path asks to write, which need not exist yet. -/
def target (d : Disk) (p : Path) : Except Fault Place := do
  let (folder, last) ← d.lastStep p
  d.needFolder folder
  if p.endsInSlash || !isName last then throw .isFolder
  let place ← d.enter folder last
  match d.entry? place with
  | some .folder => throw .isFolder
  | _ => return place

/-- Writes a file, which may exist already. -/
def write (d : Disk) (p : Path) (content : Bytes) : Except Fault Disk := do
  return d.insert (← d.target p) (.file content)

/-- Removes a file. -/
def remove (d : Disk) (p : Path) : Except Fault Disk := do
  let (folder, last) ← d.lastStep p
  if !isName last then throw .isFolder
  let place ← d.enter folder last
  match d.entry? place with
  | none => throw .missing
  | some .folder => throw .isFolder
  | some (.file _) => if p.endsInSlash then throw .notFolder else return d.erase place

/-! ## Creating folders -/

/-- Creates one folder where there is nothing yet. -/
def createFolder (d : Disk) (p : Path) : Except Fault Disk := do
  let (folder, last) ← match d.lastStep p with
    | .error .isFolder => throw Fault.alreadyExists
    | step => step
  let place ← d.enter folder last
  if !isName last || (d.entry? place).isSome then throw .alreadyExists
  return d.insert place .folder

/-- Creates a folder and, where they are missing, the folders that lead to it; `depth` bounds how
many. Folders made before a failure stay. -/
def createFolders (d : Disk) (p : Path) : Nat → Except Fault Unit × Disk
  | 0 => (.error .missing, d)
  | depth + 1 =>
    let settle (d : Disk) (fault : Fault) : Except Fault Unit × Disk :=
      (if d.isFolder p then .ok () else .error fault, d)
    if p.text.isEmpty then (.ok (), d)
    else
      match d.createFolder p with
      | .ok d => (.ok (), d)
      | .error .missing =>
        match p.parent? with
        | none => settle d .missing
        | some parent =>
          match d.createFolders parent depth with
          | (.error fault, d) => (.error fault, d)
          | (.ok (), d) =>
            match d.createFolder p with
            | .ok d => (.ok (), d)
            | .error fault => settle d fault
      | .error fault => settle d fault

end Disk

end VideoGreeting
