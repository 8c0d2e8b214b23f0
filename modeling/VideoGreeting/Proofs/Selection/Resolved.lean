import VideoGreeting.Proofs.Disk.Files
import VideoGreeting.Resolution

/-!
# What a selection is resolved to

Each check of a selection says what it lets through. What a selection that passes all of
them is resolved to depends on nothing but the selection and the assets.
-/

namespace VideoGreeting.Selection

open Disk

variable {s : Selection} {catalog : Catalog} {assets : Assets} {maxClips : Nat} {r : Resolved}

theorem checkImages_eq_ok_iff :
    s.checkImages maxClips = .ok () ↔ s.images ≠ [] ∧ s.images.length ≤ maxClips := by
  unfold checkImages
  by_cases hnone : s.images = []
  · simp [hnone]
  · by_cases hmany : maxClips < s.images.length
    · simp [hnone, hmany]
    · simp [hnone, hmany, Nat.le_of_not_lt hmany]

theorem checkNames_eq_ok_iff :
    s.checkNames catalog = .ok () ↔
      catalog.hasSong s.song = true ∧ catalog.hasBackground s.background = true := by
  unfold checkNames
  by_cases hsong : catalog.hasSong s.song = true
  · by_cases hbackground : catalog.hasBackground s.background = true
    · simp [hsong, hbackground]
    · simp [hsong, hbackground]
  · simp [hsong]

/-- The paths and the style that the names of a selection stand for. -/
def resolved (s : Selection) (assets : Assets) : Resolved where
  background := assets.background s.background
  song := assets.song s.song
  font := assets.font
  auxiliaryImage := assets.auxiliaryImage
  style := .named s.animation
  caption := s.caption
  images := s.images

/-- **A selection that passes its checks is resolved**, and no other. -/
theorem resolve_eq_ok_iff :
    s.resolve catalog assets maxClips = .ok r ↔
      s.checkImages maxClips = .ok () ∧ Caption.check s.caption = .ok () ∧
        s.checkNames catalog = .ok () ∧ r = s.resolved assets := by
  simp only [resolve, bind_eq_ok, pure_eq_ok]
  constructor
  · rintro ⟨⟨⟩, himages, ⟨⟩, hcaption, ⟨⟩, hnames, rfl⟩
    exact ⟨himages, hcaption, hnames, rfl⟩
  · rintro ⟨himages, hcaption, hnames, rfl⟩
    exact ⟨(), himages, (), hcaption, (), hnames, rfl⟩

theorem eq_resolved (h : s.resolve catalog assets maxClips = .ok r) : r = s.resolved assets :=
  (resolve_eq_ok_iff.mp h).2.2.2

end VideoGreeting.Selection
