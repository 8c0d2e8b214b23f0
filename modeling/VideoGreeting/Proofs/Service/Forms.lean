import VideoGreeting.Proofs.Service.Uploads

/-!
# What a form selects

A form is read part by part, and each part may change the selection, the guard and
the disk. What comes out is said here without reading: of the parts with one name the
last counts, and each image that has a content becomes an image of the selection,
in the order of the parts (`selectionOf`). The parts of different names do not meet.

`Taken` compares the two for the parts read so far; `taken_takePart` is one part and
`taken_takeParts` the run. What is tracked and which files are new is the matter of
`Stored`. Main theorem: `form_taken`.
-/

namespace VideoGreeting.Service

open Disk
open Http.Multipart (Part Form)

/-! ## The selection of a form -/

/-- The parts with a name. -/
def named (name : String) (parts : List Part) : List Part :=
  parts.filter fun part => part.name = some name

/-- The text of the last part with a name; empty if there is none. -/
def lastText (name : String) (parts : List Part) : String :=
  ((named name parts).getLast?.map Part.text).getD ""

/-- The images that have a content. -/
def pictures (parts : List Part) : List Part :=
  (named "images" parts).filter fun part => part.content ≠ []

/-- The image that a part becomes under the identifier with a number. -/
def imageOf (ids : Identifiers) (folder : Path) (number : Nat) (part : Part) : UploadedImage where
  path := Intake.uploadPath ids folder number (part.fileName.getD "")
  clientName := part.fileName.getD ""

/-- The selection that parts stand for; `first` is the number of the first image. -/
def selectionOf (ids : Identifiers) (folder : Path) (first : Nat) (parts : List Part) :
    Selection where
  song := lastText "song" parts
  background := lastText "background" parts
  animation := lastText "animation" parts
  caption := lastText "text" parts
  images := ((pictures parts).zipIdx first).map fun entry => imageOf ids folder entry.2 entry.1

/-- The selections differ in the identifiers of their images only. -/
structure SameUpToNames (ids ids' : Identifiers) (folder : Path) (s s' : Selection) :
    Prop where
  song : s.song = s'.song
  background : s.background = s'.background
  animation : s.animation = s'.animation
  caption : s.caption = s'.caption
  images : List.Forall₂ (fun image image' => ∃ number number' clientName,
    image = ⟨Intake.uploadPath ids folder number clientName, clientName⟩ ∧
      image' = ⟨Intake.uploadPath ids' folder number' clientName, clientName⟩) s.images s'.images

/-- The image of a part is a new file in the folder itself. Its name is an identifier
with a short extension, and its content is the part's. -/
structure StoredAs (ids : Identifiers) (folder : Path) (d d' : Disk) (part : Part) (number : Nat)
    (image : UploadedImage) : Prop where
  clientName : image.clientName = part.fileName.getD ""
  path : ∃ ext, IsShortExtension ext ∧
    image.path = folder.join ⟨s!"{ids.text number}.{ext}"⟩ ∧
    image.path.place = folder.place ++ [s!"{ids.text number}.{ext}"]
  new : d.file? image.path.place = none
  content : d'.file? image.path.place = some part.content

variable {ids ids' : Identifiers} {folder : Path} {first : Nat} {past : List Part} {part : Part}
  {name : String} {host : Host} {i i' : Intake}

theorem path_imageOf (ids : Identifiers) (folder : Path) (number : Nat) (part : Part) :
    (imageOf ids folder number part).path =
      Intake.uploadPath ids folder number (part.fileName.getD "") := by
  simp only [imageOf]

/-- Images under different identifiers have different places. -/
theorem place_imageOf_ne {number number' : Nat} (h : number ≠ number') (part part' : Part) :
    (imageOf ids folder number part).path.place ≠
      (imageOf ids folder number' part').path.place := by
  intro hplace
  rw [path_imageOf, path_imageOf] at hplace
  exact h (number_eq_of_place_eq hplace)

/-- A file under a fresh identifier that has the content of a part stores it. -/
theorem storedAs_imageOf {d d' : Disk} {issued number : Nat}
    (hfresh : FreshNames ids folder issued d) (hnumber : issued ≤ number)
    (hcontent : d'.file? (imageOf ids folder number part).path.place = some part.content) :
    StoredAs ids folder d d' part number (imageOf ids folder number part) where
  clientName := rfl
  path := by
    rw [path_imageOf, place_uploadPath]
    exact ⟨_, isShortExtension_extensionOf (part.fileName.getD ""), rfl, rfl⟩
  new := by
    rw [path_imageOf]
    exact hfresh number hnumber (part.fileName.getD "")
  content := hcontent

/-! ### One more part -/

theorem named_concat (name : String) (past : List Part) (part : Part) :
    named name (past ++ [part]) =
      if part.name = some name then named name past ++ [part] else named name past := by
  unfold named
  rw [List.filter_append, List.filter_singleton]
  by_cases hname : part.name = some name <;> simp [hname]

theorem lastText_concat (name : String) (past : List Part) (part : Part) :
    lastText name (past ++ [part]) =
      if part.name = some name then part.text else lastText name past := by
  unfold lastText
  rw [named_concat]
  by_cases hname : part.name = some name
  · rw [if_pos hname, if_pos hname, List.getLast?_concat]
    rfl
  · rw [if_neg hname, if_neg hname]

theorem pictures_concat (past : List Part) (part : Part) :
    pictures (past ++ [part]) =
      if part.name = some "images" ∧ part.content ≠ [] then pictures past ++ [part]
      else pictures past := by
  unfold pictures
  rw [named_concat]
  by_cases hname : part.name = some "images"
  · rw [if_pos hname, List.filter_append, List.filter_singleton]
    by_cases hcontent : part.content = [] <;> simp [hname, hcontent]
  · rw [if_neg hname, if_neg fun h => hname h.1]

/-- An image comes last of the images, and the fields stay. -/
theorem selectionOf_concat_picture (hname : part.name = some "images")
    (hcontent : part.content ≠ []) :
    selectionOf ids folder first (past ++ [part]) =
      { selectionOf ids folder first past with
        images := (selectionOf ids folder first past).images ++
          [imageOf ids folder (first + (pictures past).length) part] } := by
  unfold selectionOf
  rw [pictures_concat, if_pos ⟨hname, hcontent⟩, List.zipIdx_append, List.map_append]
  simp [lastText_concat, hname]

/-- Any other part sets its field, if it has one. -/
theorem selectionOf_concat_field (h : ¬(part.name = some "images" ∧ part.content ≠ [])) :
    selectionOf ids folder first (past ++ [part]) =
      Intake.setField (selectionOf ids folder first past) (part.name.getD "") part.text := by
  rw [setField_eq]
  unfold selectionOf
  simp only [lastText_concat, pictures_concat, if_neg h]
  cases part.name with
  | none => simp
  | some name => simp

/-! ## What a successful step does -/

/-- A part that was taken is an image that was written, or it set a field. -/
theorem takePart_eq_ok (h : i.takePart host folder part = (.ok (), i')) :
    (part.name = some "images" ∧ part.content ≠ [] ∧
      ∃ d d', Grows i.disk d ∧
        d.write (Intake.uploadPath host.identifiers folder i.issued (part.fileName.getD ""))
          part.content = .ok d' ∧
        i' = { i with disk := d', issued := i.issued + 1 }.takeImage
          (Intake.uploadPath host.identifiers folder i.issued (part.fileName.getD ""))
          (part.fileName.getD "")) ∨
    (¬(part.name = some "images" ∧ part.content ≠ []) ∧
      i' = { i with selection :=
        Intake.setField i.selection (part.name.getD "") part.text }) := by
  unfold Intake.takePart at h
  dsimp only at h
  by_cases hname : part.name = some "images"
  · rw [hname, Option.getD_some, if_pos rfl] at h
    by_cases hcontent : part.content = []
    · rw [hcontent] at h
      cases h
      refine .inr ⟨fun hpicture => hpicture.2 hcontent, ?_⟩
      rw [hname]
      rfl
    · have hgrows := grows_ensureFolder i.disk folder
      rcases storeImage_cases host i folder (part.fileName.getD "") hcontent with
        ⟨fault, d, hfolder, heq⟩ | ⟨fault, d, hfolder, heq⟩ | ⟨d, d', hfolder, hwrite, heq⟩
      · rw [heq] at h
        cases h
      · rw [heq] at h
        cases h
      · rw [heq] at h
        rw [hfolder] at hgrows
        cases h
        exact .inl ⟨hname, hcontent, d, d', hgrows, hwrite, rfl⟩
  · have hother : part.name.getD "" ≠ "images" := by
      cases hpart : part.name with
      | none => decide
      | some name =>
          rintro rfl
          exact hname hpart
    rw [if_neg hother] at h
    cases h
    exact .inr ⟨fun hpicture => hname hpicture.1, rfl⟩

theorem takeForm_eq_ok {form : Form} (h : Intake.takeForm host folder form i = (.ok (), i')) :
    Intake.takeParts host folder form.parts i = (.ok (), i') := by
  unfold Intake.takeForm at h
  rcases htake : Intake.takeParts host folder form.parts i with ⟨problem | ⟨⟩, i''⟩
  · rw [htake] at h
    cases h
  · rw [htake] at h
    dsimp only at h
    split at h
    next => cases h
    next => exact h

/-! ## Reading parts -/

/-- Reading the parts so far has selected what they stand for, and each of their
images is a file. -/
structure Taken (ids : Identifiers) (folder : Path) (first : Nat) (past : List Part)
    (i : Intake) : Prop where
  selection : i.selection = selectionOf ids folder first past
  issued : i.issued = first + (pictures past).length
  contents : ∀ entry ∈ (pictures past).zipIdx first,
    i.disk.file? (imageOf ids folder entry.2 entry.1).path.place = some entry.1.content

theorem taken_nil (ids : Identifiers) (folder : Path) (issued : Nat) (d : Disk) :
    Taken ids folder issued [] { disk := d, issued } where
  selection := rfl
  issued := rfl
  contents := nofun

/-- **One part.** -/
theorem taken_takePart (h : Taken host.identifiers folder first past i)
    (hpart : i.takePart host folder part = (.ok (), i')) :
    Taken host.identifiers folder first (past ++ [part]) i' := by
  rcases takePart_eq_ok hpart with
    ⟨hname, hcontent, d, d', hgrows, hwrite, rfl⟩ | ⟨hfield, rfl⟩
  · have hpictures : pictures (past ++ [part]) = pictures past ++ [part] := by
      rw [pictures_concat, if_pos ⟨hname, hcontent⟩]
    constructor
    · rw [selectionOf_concat_picture hname hcontent, ← h.selection, ← h.issued]
      rfl
    · rw [hpictures, List.length_append, ← Nat.add_assoc, ← h.issued]
      rfl
    · intro entry hentry
      rw [hpictures, List.zipIdx_append, List.mem_append] at hentry
      show d'.file? _ = _
      rw [file?_write hwrite, ← path_imageOf]
      rcases hentry with hbefore | hlast
      · -- an identifier is given out once, so the images before it stay
        have hnumber : entry.2 ≠ i.issued := by
          rw [h.issued]
          have hlt := List.snd_lt_of_mem_zipIdx hbefore
          omega
        rw [if_neg (place_imageOf_ne hnumber _ _), hgrows.files]
        exact h.contents entry hbefore
      · rw [List.zipIdx_singleton, List.mem_singleton] at hlast
        rw [hlast, ← h.issued, if_pos rfl]
  · have hpictures : pictures (past ++ [part]) = pictures past := by
      rw [pictures_concat, if_neg hfield]
    constructor
    · rw [selectionOf_concat_field hfield, ← h.selection]
    · rw [hpictures]
      exact h.issued
    · rw [hpictures]
      exact h.contents

/-- **The parts of a form.** -/
theorem taken_takeParts {parts : List Part} (h : Taken host.identifiers folder first past i)
    (htake : Intake.takeParts host folder parts i = (.ok (), i')) :
    Taken host.identifiers folder first (past ++ parts) i' := by
  induction parts generalizing past i with
  | nil =>
      cases htake
      rwa [List.append_nil]
  | cons part parts ih =>
      unfold Intake.takeParts at htake
      rcases hpart : i.takePart host folder part with ⟨problem | ⟨⟩, next⟩
      · rw [hpart] at htake
        cases htake
      · rw [hpart] at htake
        rw [List.append_cons]
        exact ih (taken_takePart h hpart) htake

theorem taken_takeForm {form : Form} {d : Disk} {issued : Nat}
    (h : Intake.takeForm host folder form { disk := d, issued } = (.ok (), i)) :
    Taken host.identifiers folder issued form.parts i :=
  taken_takeParts (taken_nil host.identifiers folder issued d) (takeForm_eq_ok h)

/-! ## Forms -/

/-- The parts of one name count in their order, so the order between names does not
matter. -/
theorem sameUpToNames_selectionOf {parts parts' : List Part}
    (h : ∀ name, named name parts = named name parts') (first first' : Nat) :
    SameUpToNames ids ids' folder (selectionOf ids folder first parts)
      (selectionOf ids' folder first' parts') := by
  have hpictures : pictures parts = pictures parts' := by
    rw [pictures, pictures, h]
  have hfield (name : String) : lastText name parts = lastText name parts' := by
    rw [lastText, lastText, h]
  refine ⟨hfield _, hfield _, hfield _, hfield _, ?_⟩
  show List.Forall₂ _ (((pictures parts).zipIdx first).map _)
    (((pictures parts').zipIdx first').map _)
  rw [hpictures]
  clear hpictures
  induction pictures parts' generalizing first first' with
  | nil => exact .nil
  | cons part rest ih => exact .cons ⟨first, first', _, rfl, rfl⟩ (ih (first + 1) (first' + 1))

theorem nodup_places (ids : Identifiers) (folder : Path) (first : Nat) (parts : List Part) :
    ((selectionOf ids folder first parts).images.map (·.path.place)).Nodup := by
  have hnumbers : ((pictures parts).zipIdx first).Pairwise fun entry entry' =>
      entry.2 ≠ entry'.2 := by
    rw [← List.pairwise_map, List.zipIdx_map_snd]
    exact List.nodup_range'
  simp only [selectionOf, List.Nodup, List.pairwise_map]
  refine hnumbers.imp ?_
  intro entry entry' hne
  exact place_imageOf_ne hne entry.1 entry'.1

/-- **A form is read faithfully.** Whatever parts it has, in whatever order, and
whatever the client calls its images: when it is read to its end, each field is the
text of the last part with its name, and the images are those with a content, in the
order of their parts. Each is a new file in the folder of uploads itself, under an
identifier of its own and a short extension, with the bytes of its part. The guard
tracks these files, and no other file is changed. So a form whose parts of each name
come in the same order selects the same, up to the identifiers. -/
theorem form_taken (host : Host) (folder : Path) (form : Form) (d : Disk)
    (issued : Nat) (i : Intake) (hfresh : FreshNames host.identifiers folder issued d)
    (htake : Intake.takeForm host folder form { disk := d, issued } = (.ok (), i)) :
    i.selection = selectionOf host.identifiers folder issued form.parts ∧
    List.Forall₂ (fun entry image =>
      StoredAs host.identifiers folder d i.disk entry.1 entry.2 image)
      ((pictures form.parts).zipIdx issued) i.selection.images ∧
    (i.selection.images.map (·.path.place)).Nodup ∧
    i.uploads.paths = i.selection.images.map (·.path) ∧
    (∀ place, (∀ image ∈ i.selection.images, image.path.place ≠ place) →
      i.disk.file? place = d.file? place) ∧
    ∀ (host' : Host) (form' : Form) (d' : Disk) (issued' : Nat) (i' : Intake),
      Intake.takeForm host' folder form' { disk := d', issued := issued' } = (.ok (), i') →
      (∀ name, named name form.parts = named name form'.parts) →
      SameUpToNames host.identifiers host'.identifiers folder i.selection i'.selection := by
  have htaken := taken_takeForm htake
  have hstored : Stored host.identifiers folder d i := by
    have h := stored_takeForm host (stored_opening hfresh) form
    rwa [htake] at h
  refine ⟨htaken.selection, ?_, ?_, hstored.images.symm, ?_, ?_⟩
  · rw [htaken.selection]
    show List.Forall₂ _ _ (((pictures form.parts).zipIdx issued).map _)
    rw [List.forall₂_map_right_iff, List.forall₂_same]
    intro entry hentry
    exact storedAs_imageOf hfresh (List.le_snd_of_mem_zipIdx hentry) (htaken.contents entry hentry)
  · rw [htaken.selection]
    exact nodup_places host.identifiers folder issued form.parts
  · intro place hplace
    apply hstored.files
    intro p hp
    rw [← hstored.images] at hp
    obtain ⟨image, himage, rfl⟩ := List.mem_map.mp hp
    exact hplace image himage
  · intro host' form' d' issued' i' htake' hnamed
    rw [htaken.selection, (taken_takeForm htake').selection]
    exact sameUpToNames_selectionOf hnamed issued issued'

/-- A form with a song that is changed, a field that nobody asks for, an image
without content and one that is called like a path. -/
def mixedForm : Form where
  parts := [textPart "song" "joy", imagePart "me.PNG", textPart "colour" "red",
    { imagePart "none.png" with content := [] }, textPart "song" "calm",
    imagePart "../../etc/passwd"]

/-- The same form with its images first. -/
def sortedForm : Form where
  parts := [imagePart "me.PNG", { imagePart "none.png" with content := [] },
    imagePart "../../etc/passwd", textPart "colour" "red", textPart "song" "joy",
    textPart "song" "calm"]

/-- How a form is read on the small disk, from a number on. -/
def readSmall (issued : Nat) (form : Form) : Except Problem Unit × Intake :=
  Intake.takeForm pickyHost smallService.settings.uploadFolder form
    { disk := Production.smallDisk, issued }

theorem form_taken_mixedForm :
    FreshNames pickyHost.identifiers smallService.settings.uploadFolder 0
        Production.smallDisk ∧
      readSmall 0 mixedForm = (.ok (), (readSmall 0 mixedForm).2) ∧
      (readSmall 0 mixedForm).2.selection.song = "calm" ∧
      (readSmall 0 mixedForm).2.selection.images.map (·.clientName) =
        ["me.PNG", "../../etc/passwd"] ∧
      SameUpToNames pickyHost.identifiers pickyHost.identifiers
        smallService.settings.uploadFolder (readSmall 0 mixedForm).2.selection
        (readSmall 7 sortedForm).2.selection := by
  have hread : readSmall 0 mixedForm = (.ok (), (readSmall 0 mixedForm).2) :=
    eq_ok_of_isOk (by decide +kernel)
  have hsorted : readSmall 7 sortedForm = (.ok (), (readSmall 7 sortedForm).2) :=
    eq_ok_of_isOk (by decide +kernel)
  have hnamed (name : String) : named name mixedForm.parts = named name sortedForm.parts := by
    by_cases himages : "images" = name
    · subst himages
      decide
    by_cases hsong : "song" = name
    · subst hsong
      decide +kernel
    simp [named, mixedForm, sortedForm, textPart, imagePart, himages, hsong, List.filter_cons]
  obtain ⟨hselection, -, -, -, -, hsame⟩ := form_taken pickyHost
    smallService.settings.uploadFolder mixedForm Production.smallDisk 0
    (readSmall 0 mixedForm).2 (freshNames_smallDisk _) hread
  refine ⟨freshNames_smallDisk _, hread, ?_, ?_, hsame _ _ _ _ _ hsorted hnamed⟩
  · rw [hselection]
    decide +kernel
  · rw [hselection]
    decide +kernel

end VideoGreeting.Service
