import VideoGreeting.Disk.Folder

/-!
# Files that are removed unless released

A guard tracks files that must not outlive the work they were made for. When the work ends, however
it ends, the guard is dropped and removes what it still tracks.
-/

namespace VideoGreeting

/-- The paths that are removed when the guard is dropped, in the order in which they were given to
it. -/
structure Guard where
  paths : List Path
  deriving Repr, DecidableEq, Inhabited

namespace Guard

/-- The guard that tracks nothing. -/
def empty : Guard := ⟨[]⟩

/-- Tracks one more path. -/
def push (g : Guard) (p : Path) : Guard := ⟨g.paths ++ [p]⟩

/-- Stops tracking every path that is the same as `p`. -/
def release (g : Guard) (p : Path) : Guard := ⟨g.paths.filter (!·.same p)⟩

/-- Whether a path the same as `p` is tracked. -/
def tracks (g : Guard) (p : Path) : Bool := g.paths.any (·.same p)

/-- Removes the tracked files that can be removed. -/
def drop (g : Guard) (d : Disk) : Disk := g.paths.foldl Disk.discard d

end Guard

end VideoGreeting
