import VideoGreeting.Assets
import VideoGreeting.Selection

/-!
# Resolving a selection

A selection is held against the catalog, and its names are turned into paths and a style.
-/

namespace VideoGreeting

/-- A selection that was accepted. -/
structure Resolved where
  background : Path
  song : Path
  font : Path
  auxiliaryImage : Path
  style : Style
  caption : String
  images : List UploadedImage
  deriving Repr, DecidableEq, Inhabited

/-- How many clips the reel has: one for each image. -/
def Resolved.clipCount (r : Resolved) : Nat := r.images.length

namespace Selection

/-- Accepts a number of images from one to `maxClips`. -/
def checkImages (s : Selection) (maxClips : Nat) : Except Rejection Unit :=
  if s.images.isEmpty then .error .noImages
  else if maxClips < s.images.length then .error (.tooManyImages s.images.length maxClips)
  else .ok ()

/-- Accepts a song and a background that the catalog offers. -/
def checkNames (s : Selection) (catalog : Catalog) : Except Rejection Unit :=
  if !catalog.hasSong s.song then .error (.unknownSong s.song)
  else if !catalog.hasBackground s.background then .error (.unknownBackground s.background)
  else .ok ()

/-- Resolves a selection. The images are checked first, then the caption, the song and the
background. -/
def resolve (s : Selection) (catalog : Catalog) (assets : Assets) (maxClips : Nat) :
    Except Rejection Resolved := do
  s.checkImages maxClips
  Caption.check s.caption
  s.checkNames catalog
  return { background := assets.background s.background
           song := assets.song s.song
           font := assets.font
           auxiliaryImage := assets.auxiliaryImage
           style := .named s.animation
           caption := s.caption
           images := s.images }

end Selection

end VideoGreeting
