import Mathlib
import VideoGreeting.Proofs.Selection.Resolved

/-!
# The conditions on a selection

A selection is accepted under five conditions, which are looked at in a fixed order, and
the first that is not met is the one that is reported. The conditions are said here
without the checks: characters by their code points, names by membership in the lists of
the catalog. Each check is then one or two conditions and what is reported for them
(`checkImages_eq_error_iff`, `check_caption_eq_error_iff`, `checkNames_eq_error_iff`).

Main theorem: `accepted_or_first_reported`. The listing that customers see can be read
back, so what it offers is what is accepted.
-/

namespace VideoGreeting

open Disk (bind_eq_error)

/-! ## Characters -/

namespace Text

/-- The code points with the property `White_Space`. -/
def whiteSpace : List Nat :=
  [0x9, 0xa, 0xb, 0xc, 0xd, 0x20, 0x85, 0xa0, 0x1680, 0x2000, 0x2001, 0x2002, 0x2003, 0x2004,
    0x2005, 0x2006, 0x2007, 0x2008, 0x2009, 0x200a, 0x2028, 0x2029, 0x202f, 0x205f, 0x3000]

/-- Characters between two others, by their code points. -/
theorem between_iff (low c high : Char) :
    (low ≤ c && c ≤ high) = true ↔ low.toNat ≤ c.toNat ∧ c.toNat ≤ high.toNat := by
  rw [Bool.and_eq_true, decide_eq_true_iff, decide_eq_true_iff]
  rfl

theorem beq_iff_toNat (c d : Char) : (c == d) = true ↔ c.toNat = d.toNat := by
  rw [beq_iff_eq, Char.toNat_inj]

theorem isBlank_iff (c : Char) : isBlank c = true ↔ c.toNat ∈ whiteSpace := by
  simp only [isBlank, Bool.or_eq_true, between_iff, beq_iff_toNat, whiteSpace, List.mem_cons,
    List.not_mem_nil, or_false, Char.reduceToNat]
  omega

end Text

namespace Caption

/-- What may stand in a caption. -/
inductive Allowed (c : Char) : Prop where
  | hebrew (low : 0x590 ≤ c.toNat) (high : c.toNat ≤ 0x5ff)
  | blank (white : c.toNat ∈ Text.whiteSpace)
  | plusToEquals (low : '+'.toNat ≤ c.toNat) (high : c.toNat ≤ '='.toNat)
  | mark (listed : c ∈ ['!', '@', '#', '$', '%', '^', '&', '*', '\'', '(', ')', '_'])

/-- The digits and the comma lie between the plus and the equals sign. -/
theorem allows_iff (c : Char) : allows c = true ↔ Allowed c := by
  simp only [allows, Bool.or_eq_true, Text.between_iff, Text.isBlank_iff, List.contains_iff_mem]
  constructor
  · rintro ((((⟨low, high⟩ | white) | ⟨low, high⟩) | listed) | ⟨low, high⟩)
    · exact .hebrew low high
    · exact .blank white
    · exact .plusToEquals (le_trans (by decide) low) (le_trans high (by decide))
    · by_cases hcomma : c = ','
      · subst hcomma
        exact .plusToEquals (by decide) (by decide)
      · apply Allowed.mark
        simpa [hcomma] using listed
    · exact .plusToEquals low high
  · intro h
    cases h with
    | hebrew low high => exact .inl (.inl (.inl (.inl ⟨low, high⟩)))
    | blank white => exact .inl (.inl (.inl (.inr white)))
    | plusToEquals low high => exact .inr ⟨low, high⟩
    | mark listed =>
        have hsubset : ['!', '@', '#', '$', '%', '^', '&', '*', '\'', '(', ')', '_'] ⊆
            "!@#$%^&*,'()_".toList := by simp
        exact .inl (.inr (hsubset listed))

/-- Neighbours of what may stand in a caption. -/
example : ['?', '>', '[', ']', 'a', '\u058f', '\u0600', '"', '\\'].any allows = false := by decide

end Caption

/-! ## The conditions -/

namespace Selection

/-- What is asked of a selection. -/
inductive Condition where
  | imageCount
  | captionLength
  | captionCharacters
  | song
  | background
  deriving DecidableEq

namespace Condition

/-- The order in which the conditions are looked at. -/
def order : List Condition := [imageCount, captionLength, captionCharacters, song, background]

/-- The conditions that are looked at before one. -/
def earlier (k : Condition) : List Condition := order.takeWhile (· ≠ k)

end Condition

/-- Whether a selection meets a condition. -/
def Meets (s : Selection) (catalog : Catalog) (maxClips : Nat) : Condition → Prop
  | .imageCount => 1 ≤ s.images.length ∧ s.images.length ≤ maxClips
  | .captionLength => s.caption.toList.length ≤ 30
  | .captionCharacters => ∀ c ∈ s.caption.toList, Caption.Allowed c
  | .song => s.song ∈ catalog.songs
  | .background => s.background ∈ catalog.backgrounds

/-- A condition that is not met, while all before it are. -/
def FirstUnmet (s : Selection) (catalog : Catalog) (maxClips : Nat) (k : Condition) : Prop :=
  (∀ k' ∈ k.earlier, s.Meets catalog maxClips k') ∧ ¬s.Meets catalog maxClips k

/-- What is said of a selection that does not meet a condition. -/
inductive Reports (s : Selection) (maxClips : Nat) : Condition → Rejection → Prop where
  | noImages (none : s.images = []) : Reports s maxClips .imageCount .noImages
  | tooManyImages (many : maxClips < s.images.length) (some : s.images ≠ []) :
    Reports s maxClips .imageCount (.tooManyImages s.images.length maxClips)
  | captionTooLong :
    Reports s maxClips .captionLength (.captionTooLong s.caption.toList.length 30)
  | captionCharacter {before after : List Char} {c : Char}
    (found : s.caption.toList = before ++ c :: after)
    (fine : ∀ b ∈ before, Caption.Allowed b) (wrong : ¬Caption.Allowed c) :
    Reports s maxClips .captionCharacters (.captionCharacter c)
  | unknownSong : Reports s maxClips .song (.unknownSong s.song)
  | unknownBackground : Reports s maxClips .background (.unknownBackground s.background)

/-! ## The checks -/

theorem hasSong_iff {catalog : Catalog} {name : String} :
    catalog.hasSong name = true ↔ name ∈ catalog.songs := by
  rw [Catalog.hasSong, List.contains_iff_mem]

theorem hasBackground_iff {catalog : Catalog} {name : String} :
    catalog.hasBackground name = true ↔ name ∈ catalog.backgrounds := by
  rw [Catalog.hasBackground, List.contains_iff_mem]

section Checks

variable {s : Selection} {rejection : Rejection} (catalog : Catalog) (maxClips : Nat)

theorem checkImages_eq_error_iff :
    s.checkImages maxClips = .error rejection ↔
      ¬s.Meets catalog maxClips .imageCount ∧ s.Reports maxClips .imageCount rejection := by
  have hpos : 1 ≤ s.images.length ↔ s.images ≠ [] := by
    rw [Nat.one_le_iff_ne_zero, Ne, List.length_eq_zero_iff]
  unfold checkImages Meets
  rw [hpos]
  constructor
  · intro h
    split at h
    next hnone =>
      cases h
      have hempty : s.images = [] := List.isEmpty_iff.mp hnone
      exact ⟨fun hmeets => hmeets.1 hempty, .noImages hempty⟩
    next hsome =>
      split at h
      next hmany =>
        cases h
        refine ⟨fun hmeets => Nat.not_le.mpr hmany hmeets.2, .tooManyImages hmany ?_⟩
        exact mt List.isEmpty_iff.mpr hsome
      next => cases h
  · rintro ⟨-, hreports⟩
    cases hreports with
    | noImages hnone => rw [if_pos (List.isEmpty_iff.mpr hnone)]
    | tooManyImages hmany hsome =>
        rw [if_neg (mt List.isEmpty_iff.mp hsome), if_pos hmany]

/-- The first character that may not stand in a caption. -/
theorem find?_allows_eq_some_iff {cs : List Char} {c : Char} :
    cs.find? (!Caption.allows ·) = some c ↔
      ∃ before after, cs = before ++ c :: after ∧ (∀ b ∈ before, Caption.Allowed b) ∧
        ¬Caption.Allowed c := by
  rw [List.find?_eq_some_iff_append]
  simp only [Bool.not_not, Caption.allows_iff, Bool.not_eq_true', ← Bool.not_eq_true]
  constructor
  · rintro ⟨hwrong, before, after, hfound, hfine⟩
    exact ⟨before, after, hfound, hfine, hwrong⟩
  · rintro ⟨before, after, hfound, hfine, hwrong⟩
    exact ⟨hwrong, before, after, hfound, hfine⟩

theorem find?_allows_eq_none_iff {cs : List Char} :
    cs.find? (!Caption.allows ·) = none ↔ ∀ c ∈ cs, Caption.Allowed c := by
  simp only [List.find?_eq_none, Bool.not_eq_true', Bool.not_eq_false, Caption.allows_iff]

theorem check_caption_eq_ok_iff :
    Caption.check s.caption = .ok () ↔
      s.Meets catalog maxClips .captionLength ∧ s.Meets catalog maxClips .captionCharacters := by
  unfold Meets Caption.check
  rw [String.length_toList, ← find?_allows_eq_none_iff]
  by_cases hlong : Caption.maxLength < s.caption.length
  · rw [if_pos hlong]
    constructor
    · intro h
      cases h
    · rintro ⟨hshort, -⟩
      exact absurd hshort (Nat.not_le.mpr hlong)
  · have hshort : s.caption.length ≤ 30 := Nat.not_lt.mp hlong
    rw [if_neg hlong]
    rcases s.caption.toList.find? (!Caption.allows ·) with _ | c
    · exact ⟨fun _ => ⟨hshort, rfl⟩, fun _ => rfl⟩
    · constructor
      · intro h
        cases h
      · rintro ⟨-, hnone⟩
        cases hnone

theorem check_caption_eq_error_iff :
    Caption.check s.caption = .error rejection ↔
      (¬s.Meets catalog maxClips .captionLength ∧
        s.Reports maxClips .captionLength rejection) ∨
      (s.Meets catalog maxClips .captionLength ∧
        ¬s.Meets catalog maxClips .captionCharacters ∧
          s.Reports maxClips .captionCharacters rejection) := by
  unfold Meets Caption.check
  rw [String.length_toList, ← find?_allows_eq_none_iff]
  by_cases hlong : Caption.maxLength < s.caption.length
  · rw [if_pos hlong]
    constructor
    · intro h
      cases h
      exact .inl ⟨Nat.not_le.mpr hlong, .captionTooLong⟩
    · rintro (⟨-, hreports⟩ | ⟨hshort, -⟩)
      · cases hreports
        rfl
      · exact absurd hshort (Nat.not_le.mpr hlong)
  · have hshort : s.caption.length ≤ 30 := Nat.not_lt.mp hlong
    rw [if_neg hlong]
    rcases hfind : s.caption.toList.find? (!Caption.allows ·) with _ | c
    · constructor
      · intro h
        cases h
      · rintro (⟨hnot, -⟩ | ⟨-, hnot, -⟩)
        · exact absurd hshort hnot
        · exact absurd rfl hnot
    · obtain ⟨before, after, hfound, hfine, hwrong⟩ := find?_allows_eq_some_iff.mp hfind
      constructor
      · intro h
        cases h
        exact .inr ⟨hshort, Option.some_ne_none c, .captionCharacter hfound hfine hwrong⟩
      · rintro (⟨hnot, -⟩ | ⟨-, -, hreports⟩)
        · exact absurd hshort hnot
        · cases hreports with
          | captionCharacter hfound' hfine' hwrong' =>
              -- a text has one first character that does not fit
              have hfind' := find?_allows_eq_some_iff.mpr ⟨_, _, hfound', hfine', hwrong'⟩
              rw [hfind] at hfind'
              cases hfind'
              rfl

theorem checkNames_eq_error_iff :
    s.checkNames catalog = .error rejection ↔
      (¬s.Meets catalog maxClips .song ∧ s.Reports maxClips .song rejection) ∨
      (s.Meets catalog maxClips .song ∧ ¬s.Meets catalog maxClips .background ∧
        s.Reports maxClips .background rejection) := by
  unfold checkNames Meets
  rw [← hasSong_iff, ← hasBackground_iff]
  constructor
  · intro h
    split at h
    next hsong =>
      cases h
      exact .inl ⟨by simpa using hsong, .unknownSong⟩
    next hsong =>
      split at h
      next hbackground =>
        cases h
        exact .inr ⟨by simpa using hsong, by simpa using hbackground, .unknownBackground⟩
      next => cases h
  · rintro (⟨hsong, hreports⟩ | ⟨hsong, hbackground, hreports⟩)
    · cases hreports
      rw [if_pos (by simpa using hsong)]
    · cases hreports
      rw [if_neg (by simpa using hsong), if_pos (by simpa using hbackground)]

end Checks

/-! ## All checks -/

section Resolve

variable {s : Selection} {catalog : Catalog} {assets : Assets} {maxClips : Nat}
  {rejection : Rejection}

theorem resolve_eq_error_iff :
    s.resolve catalog assets maxClips = .error rejection ↔
      s.checkImages maxClips = .error rejection ∨
      (s.checkImages maxClips = .ok () ∧
        (Caption.check s.caption = .error rejection ∨
        (Caption.check s.caption = .ok () ∧ s.checkNames catalog = .error rejection))) := by
  unfold resolve
  rw [bind_eq_error]
  refine or_congr_right ⟨?_, ?_⟩
  · rintro ⟨⟨⟩, himages, h⟩
    refine ⟨himages, ?_⟩
    rcases bind_eq_error.mp h with hcaption | ⟨⟨⟩, hcaption, h⟩
    · exact .inl hcaption
    · rcases bind_eq_error.mp h with hnames | ⟨⟨⟩, -, h⟩
      · exact .inr ⟨hcaption, hnames⟩
      · cases h
  · rintro ⟨himages, hcaption | ⟨hcaption, hnames⟩⟩
    · exact ⟨(), himages, bind_eq_error.mpr (.inl hcaption)⟩
    · exact ⟨(), himages, bind_eq_error.mpr (.inr ⟨(), hcaption,
        bind_eq_error.mpr (.inl hnames)⟩)⟩

/-- **A selection is accepted** if it meets all conditions. -/
theorem accepted_iff :
    (∃ r, s.resolve catalog assets maxClips = .ok r) ↔ ∀ k, s.Meets catalog maxClips k := by
  simp only [resolve_eq_ok_iff, checkImages_eq_ok_iff, checkNames_eq_ok_iff, hasSong_iff,
    hasBackground_iff, check_caption_eq_ok_iff catalog maxClips]
  constructor
  · rintro ⟨r, ⟨himages, hcount⟩, ⟨hlength, hcharacters⟩, ⟨hsong, hbackground⟩, -⟩ k
    cases k with
    | imageCount => exact ⟨List.length_pos_iff.mpr himages, hcount⟩
    | captionLength => exact hlength
    | captionCharacters => exact hcharacters
    | song => exact hsong
    | background => exact hbackground
  · intro h
    have himages : s.Meets catalog maxClips .imageCount := h .imageCount
    exact ⟨_, ⟨List.length_pos_iff.mp himages.1, himages.2⟩,
      ⟨h .captionLength, h .captionCharacters⟩, ⟨h .song, h .background⟩, rfl⟩

/-- **A selection that is turned down** is told the first condition that it does not
meet. -/
theorem rejected_iff :
    s.resolve catalog assets maxClips = .error rejection ↔
      ∃ k, s.FirstUnmet catalog maxClips k ∧ s.Reports maxClips k rejection := by
  have himages : s.checkImages maxClips = .ok () ↔ s.Meets catalog maxClips .imageCount := by
    rw [checkImages_eq_ok_iff, ← List.length_pos_iff]
    rfl
  rw [resolve_eq_error_iff, himages, checkImages_eq_error_iff catalog maxClips,
    check_caption_eq_error_iff catalog maxClips, check_caption_eq_ok_iff catalog maxClips,
    checkNames_eq_error_iff catalog maxClips]
  constructor
  · rintro (⟨hunmet, hreports⟩ | ⟨hcount, (⟨hunmet, hreports⟩ | ⟨hlength, hunmet, hreports⟩) |
      ⟨⟨hlength, hcharacters⟩, ⟨hunmet, hreports⟩ | ⟨hsong, hunmet, hreports⟩⟩⟩)
    · refine ⟨.imageCount, ⟨?_, hunmet⟩, hreports⟩
      simp [Condition.earlier, Condition.order]
    · refine ⟨.captionLength, ⟨?_, hunmet⟩, hreports⟩
      simp [Condition.earlier, Condition.order, hcount]
    · refine ⟨.captionCharacters, ⟨?_, hunmet⟩, hreports⟩
      simp [Condition.earlier, Condition.order, hcount, hlength]
    · refine ⟨.song, ⟨?_, hunmet⟩, hreports⟩
      simp [Condition.earlier, Condition.order, hcount, hlength, hcharacters]
    · refine ⟨.background, ⟨?_, hunmet⟩, hreports⟩
      simp [Condition.earlier, Condition.order, hcount, hlength, hcharacters, hsong]
  · rintro ⟨k, ⟨hearlier, hunmet⟩, hreports⟩
    cases k with
    | imageCount => exact .inl ⟨hunmet, hreports⟩
    | captionLength =>
        have hcount := hearlier .imageCount (by decide)
        exact .inr ⟨hcount, .inl (.inl ⟨hunmet, hreports⟩)⟩
    | captionCharacters =>
        have hcount := hearlier .imageCount (by decide)
        have hlength := hearlier .captionLength (by decide)
        exact .inr ⟨hcount, .inl (.inr ⟨hlength, hunmet, hreports⟩)⟩
    | song =>
        have hcount := hearlier .imageCount (by decide)
        have hlength := hearlier .captionLength (by decide)
        have hcharacters := hearlier .captionCharacters (by decide)
        exact .inr ⟨hcount, .inr ⟨⟨hlength, hcharacters⟩, .inl ⟨hunmet, hreports⟩⟩⟩
    | background =>
        have hcount := hearlier .imageCount (by decide)
        have hlength := hearlier .captionLength (by decide)
        have hcharacters := hearlier .captionCharacters (by decide)
        have hsong := hearlier .song (by decide)
        exact .inr ⟨hcount, .inr ⟨⟨hlength, hcharacters⟩, .inr ⟨hsong, hunmet, hreports⟩⟩⟩

end Resolve

/-! ## What is offered -/

/-- The listing can be read. -/
theorem ofJson?_toJson (catalog : Catalog) : Catalog.ofJson? catalog.toJson = some catalog := by
  have hnames (names : List String) :
      Json.required (Json.list? Json.string?) (some (Json.strings names)) = some names :=
    Json.list?_strings names
  have hrecord : catalog.toJson.record? ["songs", "backgrounds", "animations"] =
      some [some (.strings catalog.songs), some (.strings catalog.backgrounds),
        some (.strings catalog.animations)] := by
    simp [Catalog.toJson, Json.record?, List.lookup]
  unfold Catalog.ofJson?
  rw [hrecord]
  simp only [bind, Option.bind, hnames]
  rfl

/-- **Every selection is accepted, or told the first thing that is wrong with it.** It is
accepted if it meets all conditions. If it does not, the first that it does not meet is
reported, with its numbers, its first character that may not stand in a caption or the
name that it gave. What is accepted keeps its images and its caption, and its paths are
those of the recording and the picture with the names that it chose, in their folders under
the root. And what the listing offers is what can be chosen. -/
theorem accepted_or_first_reported (s : Selection) (catalog : Catalog) (assets : Assets)
    (maxClips : Nat) :
    ((∃ r, s.resolve catalog assets maxClips = .ok r) ↔
      ∀ k, s.Meets catalog maxClips k) ∧
    (∀ rejection, s.resolve catalog assets maxClips = .error rejection ↔
      ∃ k, s.FirstUnmet catalog maxClips k ∧ s.Reports maxClips k rejection) ∧
    (∀ r, s.resolve catalog assets maxClips = .ok r →
      r.images = s.images ∧ r.caption = s.caption ∧
      (∃ song ∈ catalog.songs,
        song = s.song ∧ r.song = (assets.root.join ⟨"songs"⟩).join ⟨song ++ ".mp3"⟩) ∧
      (∃ background ∈ catalog.backgrounds, background = s.background ∧
        r.background = (assets.root.join ⟨"backgrounds"⟩).join ⟨background ++ ".jpg"⟩)) ∧
    ∃ offered, Catalog.ofJson? catalog.toJson = some offered ∧
      ∀ song background,
        (∃ r, resolve { s with song, background } catalog assets maxClips = .ok r) ↔
          s.Meets catalog maxClips .imageCount ∧ s.Meets catalog maxClips .captionLength ∧
          s.Meets catalog maxClips .captionCharacters ∧
          song ∈ offered.songs ∧ background ∈ offered.backgrounds := by
  refine ⟨accepted_iff, fun rejection => rejected_iff, ?_, catalog, ofJson?_toJson catalog, ?_⟩
  · intro r hresolve
    have hmeets := accepted_iff.mp ⟨r, hresolve⟩
    obtain rfl := eq_resolved hresolve
    exact ⟨rfl, rfl, ⟨s.song, hmeets .song, rfl, rfl⟩,
      ⟨s.background, hmeets .background, rfl, rfl⟩⟩
  · intro song background
    rw [accepted_iff]
    constructor
    · intro h
      exact ⟨h .imageCount, h .captionLength, h .captionCharacters, h .song, h .background⟩
    · rintro ⟨hcount, hlength, hcharacters, hsong, hbackground⟩ k
      cases k with
      | imageCount => exact hcount
      | captionLength => exact hlength
      | captionCharacters => exact hcharacters
      | song => exact hsong
      | background => exact hbackground

/-- A greeting for a holiday. -/
def holiday : Selection where
  song := "התקווה"
  background := "כותל"
  animation := "zoom"
  caption := "חג שמח"
  images := [⟨⟨"uploads/1"⟩, "first.jpg"⟩, ⟨⟨"uploads/2"⟩, "second.jpg"⟩]

theorem accepted_or_first_reported_holiday :
    ∃ r, holiday.resolve .standard ⟨⟨"/srv/reel"⟩⟩ 2 = .ok r ∧
      r.images = holiday.images ∧ r.caption = "חג שמח" ∧
      r.song.text = "/srv/reel/songs/התקווה.mp3" ∧
      r.background.text = "/srv/reel/backgrounds/כותל.jpg" := by
  obtain ⟨haccepted, -, hkept, -⟩ :=
    accepted_or_first_reported holiday .standard ⟨⟨"/srv/reel"⟩⟩ 2
  have hmeets : ∀ k, holiday.Meets .standard 2 k := by
    intro k
    cases k with
    | imageCount => exact ⟨by decide, by decide⟩
    | captionLength =>
        show holiday.caption.toList.length ≤ 30
        decide
    | captionCharacters =>
        have hallowed : holiday.caption.toList.all Caption.allows = true := by decide +kernel
        exact fun c hc => (Caption.allows_iff c).mp (List.all_eq_true.mp hallowed c hc)
    | song =>
        show holiday.song ∈ Catalog.standard.songs
        decide +kernel
    | background =>
        show holiday.background ∈ Catalog.standard.backgrounds
        decide +kernel
  obtain ⟨r, hr⟩ := haccepted.mpr hmeets
  obtain ⟨himages, hcaption, ⟨_, -, rfl, hsong⟩, ⟨_, -, rfl, hbackground⟩⟩ := hkept r hr
  refine ⟨r, hr, himages, hcaption, ?_, ?_⟩
  · rw [hsong]
    decide +kernel
  · rw [hbackground]
    decide +kernel

end Selection

end VideoGreeting
