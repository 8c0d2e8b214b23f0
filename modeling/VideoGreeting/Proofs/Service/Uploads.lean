import VideoGreeting.Proofs.Production.Lifecycle
import VideoGreeting.Proofs.Service.Names
import VideoGreeting.Service.Router

/-!
# Uploads

Images are stored one by one while a form is still read. They change hands twice,
from the guard of the form to the reel in the making and on to its job, and the form
or the reel may fail at any point. Still no image is left once there is a response.

`Stored` says what was stored since the request came in; `stored_takePart` preserves
it, `stored_takeForm` is the form. Main theorem: `uploads_cleared`.
-/

namespace VideoGreeting.Service

open Disk
open Http.Multipart (Part Form)
open Production (Removable Outside imagePlaces)

/-! ## Where images are stored -/

/-- A place in a folder, or in one of the folders below it. -/
def Within (folder place : Place) : Prop := ∃ name rest, place = folder ++ name :: rest

/-- No file has one of the names that are yet to be given out. -/
def FreshNames (ids : Identifiers) (folder : Path) (issued : Nat) (d : Disk) : Prop :=
  ∀ number ≥ issued, ∀ clientName,
    d.file? (Intake.uploadPath ids folder number clientName).place = none

/-! ## What is stored -/

/-- Whatever was stored since `d₀` is tracked, and it is the images of the selection. -/
structure Stored (ids : Identifiers) (folder : Path) (d₀ : Disk) (i : Intake) : Prop where
  images : i.selection.images.map (·.path) = i.uploads.paths
  reaches : ∀ p ∈ i.uploads.paths, i.disk.Reaches p
  inFolder : ∀ p ∈ i.uploads.paths, ∃ name, p.place = folder.place ++ [name]
  news : ∀ p ∈ i.uploads.paths, d₀.file? p.place = none
  files : ∀ place, (∀ p ∈ i.uploads.paths, p.place ≠ place) →
    i.disk.file? place = d₀.file? place
  folders : d₀.KeepsFolders i.disk
  fresh : FreshNames ids folder i.issued d₀

variable {ids : Identifiers} {folder : Path} {d₀ d : Disk} {i : Intake}

theorem stored_opening {issued : Nat} (hfresh : FreshNames ids folder issued d₀) :
    Stored ids folder d₀ { disk := d₀, issued } where
  images := rfl
  reaches p hp := by cases hp
  inFolder p hp := by cases hp
  news p hp := by cases hp
  files _ _ := rfl
  folders := .refl d₀
  fresh := hfresh

/-- Each of the four names sets its own field. -/
theorem setField_eq (s : Selection) (name value : String) :
    Intake.setField s name value =
      { s with
        song := if name = "song" then value else s.song
        background := if name = "background" then value else s.background
        animation := if name = "animation" then value else s.animation
        caption := if name = "text" then value else s.caption } := by
  unfold Intake.setField
  by_cases hsong : name = "song"
  · simp [hsong]
  by_cases hbackground : name = "background"
  · simp [hbackground]
  by_cases hanimation : name = "animation"
  · simp [hanimation]
  by_cases htext : name = "text"
  · simp [htext]
  simp [hsong, hbackground, hanimation, htext]

namespace Stored

theorem setField (h : Stored ids folder d₀ i) (name value : String) :
    Stored ids folder d₀ { i with selection := Intake.setField i.selection name value } where
  images := by
    rw [← h.images, setField_eq]
  reaches := h.reaches
  inFolder := h.inFolder
  news := h.news
  files := h.files
  folders := h.folders
  fresh := h.fresh

/-- More folders do not matter, and names that were given out are not fresh any more. -/
theorem grows (h : Stored ids folder d₀ i) (hgrows : Grows i.disk d) {issued : Nat}
    (hissued : i.issued ≤ issued) : Stored ids folder d₀ { i with disk := d, issued } where
  images := h.images
  reaches p hp := (h.reaches p hp).mono hgrows.folders
  inFolder := h.inFolder
  news := h.news
  files place hplace := (hgrows.files place).trans (h.files place hplace)
  folders := h.folders.trans hgrows.folders
  fresh number hnumber := h.fresh number (hissued.trans hnumber)

/-- An image that is written is tracked and taken. -/
theorem takeImage (h : Stored ids folder d₀ i) {path : Path} {content : Text.Bytes}
    (clientName : String) (hname : ∃ name, path.place = folder.place ++ [name])
    (hnew : d₀.file? path.place = none) (hwrite : i.disk.write path content = .ok d) :
    Stored ids folder d₀ ({ i with disk := d }.takeImage path clientName) := by
  obtain ⟨hreach, -, -⟩ := of_write_eq_ok hwrite
  have hfolders := keepsFolders_write hwrite
  have hmem {p : Path} (hp : p ∈ (i.uploads.push path).paths) : p ∈ i.uploads.paths ∨ p = path :=
    (List.mem_append.mp hp).imp_right List.mem_singleton.mp
  constructor
  · show (i.selection.images ++ [_]).map UploadedImage.path = i.uploads.paths ++ [path]
    rw [List.map_append, h.images]
    rfl
  · intro p hp
    rcases hmem hp with hbefore | rfl
    · exact (h.reaches p hbefore).mono hfolders
    · exact hreach.mono hfolders
  · intro p hp
    rcases hmem hp with hbefore | rfl
    · exact h.inFolder p hbefore
    · exact hname
  · intro p hp
    rcases hmem hp with hbefore | rfl
    · exact h.news p hbefore
    · exact hnew
  · intro place hplace
    have hother : path.place ≠ place :=
      hplace path (List.mem_append_right _ (List.mem_singleton_self _))
    show d.file? place = _
    rw [file?_write hwrite, if_neg hother.symm]
    exact h.files place fun p hp => hplace p (List.mem_append_left _ hp)
  · exact h.folders.trans hfolders
  · exact h.fresh

end Stored

/-- What storing an image does: the folder cannot be created, or the file is refused,
or the image is written and taken. -/
theorem storeImage_cases (host : Host) (i : Intake) (folder : Path)
    (clientName : String) {content : Text.Bytes} (hcontent : content ≠ []) :
    (∃ fault d, i.disk.ensureFolder folder = (.error fault, d) ∧
      i.storeImage host folder clientName content =
        (.error (.internal (Failure.disk fault).message), { i with disk := d })) ∨
    (∃ (fault : Fault) (d : Disk), i.disk.ensureFolder folder = (.ok (), d) ∧
      i.storeImage host folder clientName content =
        (.error (.internal ("failed to store upload: " ++ fault.message)),
          { i with disk := d, issued := i.issued + 1 })) ∨
    ∃ d d', i.disk.ensureFolder folder = (.ok (), d) ∧
      d.write (Intake.uploadPath host.identifiers folder i.issued clientName) content = .ok d' ∧
      i.storeImage host folder clientName content =
        (.ok (), { i with disk := d', issued := i.issued + 1 }.takeImage
          (Intake.uploadPath host.identifiers folder i.issued clientName) clientName) := by
  unfold Intake.storeImage
  rw [List.isEmpty_eq_false_iff.mpr hcontent, if_neg Bool.false_ne_true]
  rcases i.disk.ensureFolder folder with ⟨fault | ⟨⟩, d⟩
  · exact .inl ⟨fault, d, rfl, rfl⟩
  · refine .inr ?_
    dsimp only
    split
    next fault hwrite => exact .inl ⟨fault, d, rfl, rfl⟩
    next d' hwrite =>
      refine .inr ⟨d, d', rfl, ?_, rfl⟩
      unfold Intake.writeImage at hwrite
      split at hwrite
      next => cases hwrite
      next => exact hwrite

/-- **One image.** -/
theorem stored_storeImage (host : Host) (h : Stored host.identifiers folder d₀ i)
    (clientName : String) (content : Text.Bytes) :
    Stored host.identifiers folder d₀ (i.storeImage host folder clientName content).2 := by
  have hgrows := grows_ensureFolder i.disk folder
  by_cases hcontent : content = []
  · rw [hcontent]
    exact h
  · rcases storeImage_cases host i folder clientName hcontent with
      ⟨fault, d, hfolder, heq⟩ | ⟨fault, d, hfolder, heq⟩ | ⟨d, d', hfolder, hwrite, heq⟩
    · rw [hfolder] at hgrows
      rw [heq]
      exact h.grows hgrows le_rfl
    · rw [hfolder] at hgrows
      rw [heq]
      exact h.grows hgrows (Nat.le_succ i.issued)
    · rw [hfolder] at hgrows
      rw [heq]
      exact (h.grows hgrows (Nat.le_succ i.issued)).takeImage clientName
        ⟨_, place_uploadPath host.identifiers folder i.issued clientName⟩
        (h.fresh i.issued le_rfl clientName) hwrite

/-- **One part.** -/
theorem stored_takePart (host : Host) (h : Stored host.identifiers folder d₀ i)
    (part : Part) :
    Stored host.identifiers folder d₀ (i.takePart host folder part).2 := by
  unfold Intake.takePart
  dsimp only
  split
  next => exact stored_storeImage host h _ _
  next => exact h.setField _ _

/-- **The parts of a form.** -/
theorem stored_takeParts (host : Host) (h : Stored host.identifiers folder d₀ i)
    (parts : List Part) :
    Stored host.identifiers folder d₀ (Intake.takeParts host folder parts i).2 := by
  induction parts generalizing i with
  | nil => exact h
  | cons part parts ih =>
      have hpart := stored_takePart host h part
      unfold Intake.takeParts
      rcases htake : i.takePart host folder part with ⟨problem | ⟨⟩, i'⟩
      · rw [htake] at hpart
        exact hpart
      · rw [htake] at hpart
        exact ih hpart

theorem stored_takeForm (host : Host) (h : Stored host.identifiers folder d₀ i)
    (form : Form) :
    Stored host.identifiers folder d₀ (Intake.takeForm host folder form i).2 := by
  have hparts := stored_takeParts host h form.parts
  unfold Intake.takeForm
  rcases htake : Intake.takeParts host folder form.parts i with ⟨problem | ⟨⟩, i'⟩
  · rw [htake] at hparts
    exact hparts
  · rw [htake] at hparts
    rcases form.fault with _ | fault
    · exact hparts
    · exact hparts

/-- Giving up a form leaves the files of the beginning. -/
theorem Stored.file?_giveUp (h : Stored ids folder d₀ i) (place : Place) :
    i.giveUp.file? place = d₀.file? place := by
  by_cases hplace : ∃ p ∈ i.uploads.paths, p.place = place
  · obtain ⟨p, hp, rfl⟩ := hplace
    rw [Intake.giveUp, file?_drop_of_reaches hp (h.reaches p hp), h.news p hp]
  · have hother : ∀ p ∈ i.uploads.paths, p.place ≠ place := fun p hp heq => hplace ⟨p, hp, heq⟩
    rw [Intake.giveUp, file?_drop_of_forall_ne hother, h.files place hother]

/-! ## The images of an order -/

theorem Stored.mem_uploads (h : Stored ids folder d₀ i) {image : UploadedImage}
    (himage : image ∈ i.selection.images) : image.path ∈ i.uploads.paths := by
  rw [← h.images]
  exact List.mem_map_of_mem himage

/-- What was stored can be removed. -/
theorem Stored.removable (h : Stored ids folder d₀ i) : Removable i.selection i.disk := by
  intro image himage hfile
  exact ⟨_, remove_eq_ok_iff.mpr ⟨h.reaches _ (h.mem_uploads himage), hfile, rfl⟩⟩

/-- Without the images, the files are those of the beginning. -/
theorem Stored.file?_eq (h : Stored ids folder d₀ i) (place : Place) :
    (if place ∈ imagePlaces i.selection then none else i.disk.file? place) = d₀.file? place := by
  by_cases hplace : place ∈ imagePlaces i.selection
  · obtain ⟨image, himage, rfl⟩ := Production.mem_imagePlaces.mp hplace
    rw [if_pos hplace, h.news _ (h.mem_uploads himage)]
  · rw [if_neg hplace]
    refine h.files place fun p hp => ?_
    rintro rfl
    rw [← h.images] at hp
    obtain ⟨image, himage, rfl⟩ := List.mem_map.mp hp
    exact hplace (Production.mem_imagePlaces.mpr ⟨image, himage, rfl⟩)

/-! ## Orders -/

section Orders

variable {s : Service} {host : Host} {w : World}

/-- The uploads of a studio are apart from its reels. -/
def Apart (s : Service) : Prop :=
  ¬s.settings.uploadFolder.place <+: s.studio.settings.resolvedOutputFolder.place

/-- What lies within the folder of uploads is not in the output folder. -/
theorem Apart.place_ne (h : Apart s) {place : Place}
    (hplace : Within s.settings.uploadFolder.place place) (name : String) :
    place ≠ s.studio.settings.resolvedOutputFolder.place ++ [name] := by
  rintro rfl
  obtain ⟨first, rest, heq⟩ := hplace
  apply h
  have hfront := congrArg List.dropLast heq
  rw [List.dropLast_concat, List.dropLast_append_of_ne_nil (List.cons_ne_nil _ _)] at hfront
  exact ⟨_, hfront.symm⟩

theorem Stored.outside (h : Stored ids s.settings.uploadFolder d₀ i) (hapart : Apart s) :
    Outside s.studio i.selection := by
  intro image himage name
  obtain ⟨stored, hstored⟩ := h.inFolder _ (h.mem_uploads himage)
  exact hapart.place_ne ⟨stored, [], hstored⟩ name

theorem disk_makeReel (selection : Selection) :
    (makeReel s host selection w).2.disk =
      (Production.make s.studio host.engine host.now w.disk selection).2 := by
  unfold makeReel
  dsimp only
  split
  next => rfl
  next => rfl

theorem response_makeReel (selection : Selection) :
    (makeReel s host selection w).1 =
      (Production.make s.studio host.engine host.now w.disk selection).1.result?.map
        fun result => (report s (Style.named selection.animation).tag result
          (w.metrics.start (Style.named selection.animation).tag)).1 := by
  unfold makeReel
  dsimp only
  split
  next hnone =>
    rw [hnone]
    rfl
  next result hresult =>
    rw [hresult]
    rfl

/-- **The files of an order.** -/
theorem file?_takeOrder
    (hfresh : FreshNames host.identifiers s.settings.uploadFolder w.issued w.disk)
    (hapart : Apart s) {form : Form} {response : Http.Response}
    (hresponse : (takeOrder s host form w).1 = some response) {place : Place}
    (hplace : Within s.settings.uploadFolder.place place) :
    (takeOrder s host form w).2.disk.file? place = w.disk.file? place := by
  have hstored := stored_takeForm host (stored_opening hfresh) form
  unfold takeOrder at hresponse ⊢
  dsimp only at hresponse ⊢
  rcases htake : Intake.takeForm host s.settings.uploadFolder form
    { disk := w.disk, issued := w.issued } with ⟨problem | ⟨⟩, i⟩
  · -- the form is given up, and its guard drops what was stored
    rw [htake] at hstored
    exact hstored.file?_giveUp place
  · -- the reel owns the images, and it is over since there is a response
    rw [htake] at hstored hresponse
    obtain ⟨result, hresult, -⟩ :=
      Option.map_eq_some_iff.mp ((response_makeReel i.selection).symm.trans hresponse)
    show (makeReel s host i.selection _).2.disk.file? place = _
    rw [disk_makeReel, Production.file?_make hstored.removable (hstored.outside hapart) hresult
      (hapart.place_ne hplace)]
    exact hstored.file?_eq place

/-- **No upload survives.** Whatever a form holds and wherever its reading breaks off,
whichever images cannot be stored, and however the reel fares: once there is a response,
the files in the folder of uploads are those that were there before. -/
theorem uploads_cleared (s : Service) (host : Host) (w : World)
    (hfresh : FreshNames host.identifiers s.settings.uploadFolder w.issued w.disk)
    (hapart : Apart s) :
    (∀ form response, (takeOrder s host form w).1 = some response →
      ∀ place, Within s.settings.uploadFolder.place place →
        (takeOrder s host form w).2.disk.file? place = w.disk.file? place) ∧
    ∀ request response, (createVideo s host request w).1 = some response →
      ∀ place, Within s.settings.uploadFolder.place place →
        (createVideo s host request w).2.disk.file? place = w.disk.file? place := by
  constructor
  · intro form response hresponse place hplace
    exact file?_takeOrder hfresh hapart hresponse hplace
  · intro request response hresponse place hplace
    unfold createVideo at hresponse ⊢
    split at hresponse
    next => rfl
    next => exact file?_takeOrder hfresh hapart hresponse hplace

/-- A service whose uploads have a folder of their own. -/
def smallService : Service where
  settings := { uploadFolder := ⟨"incoming"⟩ }
  studio := Production.smallStudio

/-- A host on which images of one kind cannot be stored. -/
def pickyHost : Host where
  now := 0
  engineFound := true
  engine := Production.byteEngine
  refusal? path := if path.extension? = some "bmp" then some (.other "medium full") else none

def imagePart (fileName : String) : Part :=
  { name := some "images", fileName := some fileName, content := [1, 2] }

def textPart (name value : String) : Part :=
  { name := some name, fileName := none, content := Text.encode value }

/-- A form with an image and everything that is to be picked. -/
def smallForm : Form where
  parts := [imagePart "me.png", textPart "song" "joy", textPart "background" "sea",
    textPart "animation" "zoom"]

/-- The form with one more image, which cannot be stored. -/
def fullForm : Form := { smallForm with parts := smallForm.parts ++ [imagePart "you.bmp"] }

theorem freshNames_smallDisk (ids : Identifiers) :
    FreshNames ids smallService.settings.uploadFolder 0 Production.smallDisk := by
  intro number _ clientName
  have hfolder : smallService.settings.uploadFolder.place = ["incoming"] := by decide
  rw [place_uploadPath, hfolder]
  simp [Production.smallDisk, file?, entry?, List.lookup_cons]

theorem uploads_cleared_smallForm :
    FreshNames pickyHost.identifiers smallService.settings.uploadFolder 0 Production.smallDisk ∧
      Apart smallService ∧
      ∀ order ∈ [(smallForm, 200), (fullForm, 500)],
        ∃ response, (takeOrder smallService pickyHost order.1
            { disk := Production.smallDisk }).1 = some response ∧
          response.status = order.2 ∧
          ∀ place, Within smallService.settings.uploadFolder.place place →
            (takeOrder smallService pickyHost order.1
              { disk := Production.smallDisk }).2.disk.file? place =
                Production.smallDisk.file? place := by
  have hapart : Apart smallService := by
    unfold Apart
    decide
  have hstatus : ∀ order ∈ [(smallForm, 200), (fullForm, 500)],
      (takeOrder smallService pickyHost order.1 { disk := Production.smallDisk }).1.map
        (·.status) = some order.2 := by
    decide +kernel
  refine ⟨freshNames_smallDisk _, hapart, fun order horder => ?_⟩
  obtain ⟨response, hresponse, hcode⟩ := Option.map_eq_some_iff.mp (hstatus order horder)
  have hcleared := (uploads_cleared smallService pickyHost { disk := Production.smallDisk }
    (freshNames_smallDisk _) hapart).1 order.1 response hresponse
  exact ⟨response, hresponse, hcode, hcleared⟩

end Orders

end VideoGreeting.Service
