import VideoGreeting.Style

/-!
# The catalog

The songs, backgrounds and motion styles that a customer can pick.
-/

namespace VideoGreeting

/-- What is offered, each list in the order in which it is shown. -/
structure Catalog where
  songs : List String
  backgrounds : List String
  animations : List String
  deriving Repr, DecidableEq

namespace Catalog

/-- The catalog that is offered when no other is given. -/
def standard : Catalog where
  songs := ["מלאכי השלום", "ביבי המלך", "עם ישראל חי", "התקווה", "מזרחי טיפוסי", "שבוע טוב"]
  backgrounds := ["שקיעה", "חיילים", "כותל", "שבת שלום", "פרחים"]
  animations := Style.known.filterMap Style.displayName?

instance : Inhabited Catalog := ⟨standard⟩

/-- Whether a song is offered. -/
def hasSong (c : Catalog) (name : String) : Bool := c.songs.contains name

/-- Whether a background is offered. -/
def hasBackground (c : Catalog) (name : String) : Bool := c.backgrounds.contains name

/-- Whether a motion style is offered. -/
def hasAnimation (c : Catalog) (name : String) : Bool := c.animations.contains name

/-- The listing that customers see. -/
def toJson (c : Catalog) : Json :=
  .object [("songs", .strings c.songs), ("backgrounds", .strings c.backgrounds),
    ("animations", .strings c.animations)]

/-- Reads a catalog; all three lists are needed. -/
def ofJson? (j : Json) : Option Catalog := do
  match ← j.record? ["songs", "backgrounds", "animations"] with
  | [songs, backgrounds, animations] =>
    let names := Json.required (Json.list? Json.string?)
    return { songs := ← names songs
             backgrounds := ← names backgrounds
             animations := ← names animations }
  | _ => none

end Catalog

end VideoGreeting
