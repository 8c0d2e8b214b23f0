import VideoGreeting.Catalog
import VideoGreeting.Disk

/-!
# Assets

Where the backgrounds, the songs, the font of captions and the auxiliary image lie under a root
folder.
-/

namespace VideoGreeting

/-- The folder that holds `backgrounds`, `songs` and `public`. -/
structure Assets where
  root : Path
  deriving Repr, DecidableEq, Inhabited

namespace Assets

/-- The picture of a background. -/
def background (a : Assets) (name : String) : Path :=
  (a.root.join ⟨"backgrounds"⟩).join ⟨s!"{name}.jpg"⟩

/-- The recording of a song. -/
def song (a : Assets) (name : String) : Path := (a.root.join ⟨"songs"⟩).join ⟨s!"{name}.mp3"⟩

/-- The font of captions. -/
def font (a : Assets) : Path := a.root.join ⟨"public/ktav.otf"⟩

/-- The image that the engine gets as its last input. -/
def auxiliaryImage (a : Assets) : Path := a.root.join ⟨"public/test.png"⟩

/-- The folder of the pages served at the top. -/
def publicFolder (a : Assets) : Path := a.root.join ⟨"public"⟩

/-- Every asset that reels of a catalog need. -/
def expected (a : Assets) (catalog : Catalog) : List Path :=
  catalog.backgrounds.map a.background ++ catalog.songs.map a.song ++ [a.font, a.auxiliaryImage]

/-- The assets that a disk does not hold. -/
def missing (a : Assets) (catalog : Catalog) (d : Disk) : List Path :=
  (a.expected catalog).filter (!d.holds ·)

end Assets

end VideoGreeting
