import VideoGreeting.Disk

/-!
# Work in a folder

What a reel needs of the disk: a folder to write to, the files to read from, a file name that nobody
else uses, and removal of files that are no longer needed.
-/

namespace VideoGreeting.Disk

/-- Makes sure that something lies at a path: a folder is created, with those that lead to it,
where there is nothing yet. -/
def ensureFolder (d : Disk) (p : Path) : Except Fault Unit × Disk :=
  if d.holds p then (.ok (), d) else d.createFolders p (p.segments.length + 2)

/-- The first of the paths that leads nowhere. -/
def firstMissing? (d : Disk) (paths : List Path) : Option Path := paths.find? (!d.holds ·)

/-! ## Reserving a name -/

/-- The name tried at each attempt: the plain one first, then numbered ones. -/
def candidateName (stem ext : String) (attempt : Nat) : String :=
  if attempt = 0 then s!"{stem}.{ext}" else s!"{stem}-{attempt}.{ext}"

/-- The path tried at each attempt. -/
def candidate (folder : Path) (stem ext : String) (attempt : Nat) : Path :=
  folder.join ⟨candidateName stem ext attempt⟩

/-- How many names are tried. -/
def maxAttempts : Nat := 100

/-- How one attempt at reserving a file goes. -/
inductive Attempt where
  | reserved (path : Path) (disk : Disk)
  | taken
  | failed (fault : Fault)
  deriving Repr, DecidableEq

/-- One attempt: the file is created in the same instant in which it is found to be missing. -/
def tryReserve (d : Disk) (folder : Path) (stem ext : String) (attempt : Nat) : Attempt :=
  let path := candidate folder stem ext attempt
  match d.createNew path with
  | .ok disk => .reserved path disk
  | .error .alreadyExists => .taken
  | .error fault => .failed fault

/-- The fault when no attempt is left. -/
def noneLeft (folder : Path) (stem ext : String) : Fault :=
  .namesTaken (candidateName stem ext 0) folder

/-- Reserves the first free name from `attempt` on; `left` counts the attempts that remain. -/
def reserveFrom (d : Disk) (folder : Path) (stem ext : String) (attempt : Nat) :
    (left : Nat) → Except Fault (Path × Disk)
  | 0 => .error (noneLeft folder stem ext)
  | left + 1 =>
    match d.tryReserve folder stem ext attempt with
    | .reserved path disk => .ok (path, disk)
    | .taken => d.reserveFrom folder stem ext (attempt + 1) left
    | .failed fault => .error fault

/-- Reserves an empty file under the first name that is free. -/
def reserve (d : Disk) (folder : Path) (stem ext : String) : Except Fault (Path × Disk) :=
  d.reserveFrom folder stem ext 0 maxAttempts

/-! ## Removing files -/

/-- The disk without the file at a path, or as it was when there is none to remove. -/
def discard (d : Disk) (p : Path) : Disk := (d.remove p).toOption.getD d

/-- Removes what it can of the files at the paths, and counts them. -/
def removeAll (d : Disk) (paths : List Path) : Nat × Disk :=
  paths.foldl
    (fun (count, d) p =>
      match d.remove p with
      | .ok d => (count + 1, d)
      | .error _ => (count, d))
    (0, d)

end VideoGreeting.Disk
