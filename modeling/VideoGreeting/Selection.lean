import VideoGreeting.Json
import VideoGreeting.Path
import VideoGreeting.Text.Quoted

/-!
# What a customer asks for

A selection as it arrives, the reasons for which one is turned down, and the rule for captions.
-/

namespace VideoGreeting

/-- An image that a customer sent: where it was stored, and what the customer called it. The stored
file belongs to the reel made from it and goes when the reel is done. -/
structure UploadedImage where
  path : Path
  clientName : String
  deriving Repr, DecidableEq, Inhabited

/-- A selection as received. -/
structure Selection where
  song : String := ""
  background : String := ""
  animation : String := ""
  caption : String := ""
  images : List UploadedImage := []
  deriving Repr, DecidableEq, Inhabited

/-- Why a selection is turned down. -/
inductive Rejection where
  | noImages
  | tooManyImages (count max : Nat)
  | captionTooLong (length max : Nat)
  | captionCharacter (c : Char)
  | unknownSong (name : String)
  | unknownBackground (name : String)
  deriving Repr, DecidableEq

/-- The wording of a rejection. -/
def Rejection.message : Rejection → String
  | noImages => "No images uploaded"
  | tooManyImages count max => s!"Too many images: {count} (max {max})"
  | captionTooLong length max => s!"Caption too long: {length} characters (max {max})"
  | captionCharacter c => "Caption contains disallowed character " ++ Text.quoteChar c
  | unknownSong name => "Unknown song: " ++ name
  | unknownBackground name => "Unknown background: " ++ name

/-! ## Captions -/

namespace Caption

/-- The greatest number of characters in a caption. -/
def maxLength : Nat := 30

/-- Whether a character may stand in a caption: the Hebrew block, white space, digits and some
punctuation. -/
def allows (c : Char) : Bool :=
  ('\u0590' ≤ c && c ≤ '\u05ff') || Text.isBlank c || ('0' ≤ c && c ≤ '9') ||
    "!@#$%^&*,'()_".toList.contains c || ('+' ≤ c && c ≤ '=')

/-- Accepts a caption that is short enough and holds allowed characters only. -/
def check (caption : String) : Except Rejection Unit :=
  if maxLength < caption.length then .error (.captionTooLong caption.length maxLength)
  else
    match caption.toList.find? (!allows ·) with
    | some c => .error (.captionCharacter c)
    | none => .ok ()

end Caption

/-! ## Exchange -/

/-- Path and name of an image. -/
def UploadedImage.toJson (image : UploadedImage) : Json :=
  .object [("path", .string image.path.text), ("original_name", .string image.clientName)]

/-- Reads an image; both fields are needed. -/
def UploadedImage.ofJson? (j : Json) : Option UploadedImage := do
  match ← j.record? ["path", "original_name"] with
  | [path, clientName] =>
    return { path := ⟨← Json.required Json.string? path⟩
             clientName := ← Json.required Json.string? clientName }
  | _ => none

namespace Selection

/-- All fields of a selection. -/
def toJson (s : Selection) : Json :=
  .object [("song", .string s.song), ("background", .string s.background),
    ("animation", .string s.animation), ("caption", .string s.caption),
    ("images", .array (s.images.map UploadedImage.toJson))]

/-- Reads a selection; all five fields are needed. -/
def ofJson? (j : Json) : Option Selection := do
  match ← j.record? ["song", "background", "animation", "caption", "images"] with
  | [song, background, animation, caption, images] =>
    let text := Json.required Json.string?
    return { song := ← text song
             background := ← text background
             animation := ← text animation
             caption := ← text caption
             images := ← Json.required (Json.list? UploadedImage.ofJson?) images }
  | _ => none

end Selection

end VideoGreeting
