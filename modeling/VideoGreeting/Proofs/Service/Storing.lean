import VideoGreeting.Proofs.Service.Forms

/-!
# An image that is not stored

An image is read, the folder of uploads is made sure of, and then a file is created
and the bytes are written to it. Each of these may fail, and the request may be
dropped meanwhile. A file operation that was begun takes effect even when nobody
waits for it any more, and a file that was created may lack some of its bytes.

`Step` is a step after which the storing goes on; without interruptions the steps
are those of `Intake.storeImage` (`run_of_storeImage`, `storeImage_of_run`,
`stops_of_storeImage`). `Stops` is every way in which the storing stops. `Begun` says
what has changed by then: `begun_step` preserves it and `begun_run` is the run. Main
theorem: `files_of_stop`. The guard is given the path of the file only after all bytes
were written, so a file that was created before the stop is left for ever.
-/

namespace VideoGreeting.Service

open Disk Relation
open Text (Bytes)
open Http.Multipart (Part)

/-- What the storing of an image waits for. -/
inductive Storing where
  /-- The content of the part. -/
  | reading
  /-- The folder of uploads. -/
  | opening (content : Bytes)
  /-- The file with its bytes. -/
  | writing (path : Path) (content : Bytes)
  | stored
  /-- The part is empty, so there is nothing to store. -/
  | passed
  deriving DecidableEq

namespace Storing

/-- One step after which the storing goes on or comes to its end. -/
inductive Step (ids : Identifiers) (folder : Path) (clientName : String) :
    Storing × Intake → Storing × Intake → Prop
  | read (i : Intake) (content : Bytes) : content ≠ [] →
      Step ids folder clientName (reading, i) (opening content, i)
  | pass (i : Intake) : Step ids folder clientName (reading, i) (passed, i)
  | opened (i : Intake) (content : Bytes) (d : Disk) :
      i.disk.ensureFolder folder = (.ok (), d) →
      Step ids folder clientName (opening content, i)
        (writing (Intake.uploadPath ids folder i.issued clientName) content,
          { i with disk := d, issued := i.issued + 1 })
  | written (i : Intake) (path : Path) (content : Bytes) (d : Disk) :
      i.disk.write path content = .ok d →
      Step ids folder clientName (writing path content, i)
        (stored, { i with disk := d }.takeImage path clientName)

/-- What becomes of the operation that a stage waits for: the content of the file that
it has created, and the disk. -/
inductive Effect (folder : Path) (d : Disk) : Storing → Option Bytes → Disk → Prop
  | unread : Effect folder d reading none d
  | unopened (content : Bytes) : Effect folder d (opening content) none d
  /-- The folder is there, or some of the folders that lead to it. -/
  | opened (content : Bytes) :
      Effect folder d (opening content) none (d.ensureFolder folder).2
  /-- The file is refused, or its creation was never begun. -/
  | unwritten (path : Path) (content : Bytes) : Effect folder d (writing path content) none d
  /-- The file is created, and `count` bytes are written to it. -/
  | written (path : Path) (content : Bytes) (count : Nat) (d' : Disk) :
      d.write path (content.take count) = .ok d' →
      Effect folder d (writing path content) (some (content.take count)) d'

/-- The ways in which the storing stops at a stage: the content of the file that was
created for the image, and the disk once the guard is dropped and every operation has
taken effect. -/
inductive Stops (folder : Path) (stage : Storing) (i : Intake) : Option Bytes → Disk → Prop
  /-- The operation fails, which ends the request. -/
  | fails (created : Option Bytes) (d : Disk) : Effect folder i.disk stage created d →
      Stops folder stage i created { i with disk := d }.giveUp
  /-- The request is dropped, and the operation takes effect when the guard has removed
  none of its files, some of them or all. -/
  | dropped (removed rest : List Path) (created : Option Bytes) (d : Disk) :
      i.uploads.paths = removed ++ rest →
      Effect folder ((Guard.mk removed).drop i.disk) stage created d →
      Stops folder stage i created ((Guard.mk rest).drop d)

/-- What has been done since the storing began. -/
def Begun (ids : Identifiers) (folder : Path) (clientName : String) (i₀ : Intake) :
    Storing × Intake → Prop
  | (reading, i) | (passed, i) => i = i₀
  | (opening content, i) => content ≠ [] ∧ i = i₀
  | (writing path content, i) =>
    content ≠ [] ∧ path = Intake.uploadPath ids folder i₀.issued clientName ∧
      ∃ d, i₀.disk.ensureFolder folder = (.ok (), d) ∧
        i = { i₀ with disk := d, issued := i₀.issued + 1 }
  | (stored, i) => ∃ content, content ≠ [] ∧
    ∀ host : Host, host.identifiers = ids → (∀ path, host.refusal? path = none) →
      i₀.storeImage host folder clientName content = (.ok (), i)

variable {ids : Identifiers} {folder : Path} {clientName : String} {host : Host}
  {i₀ i i' : Intake} {d₀ d d' : Disk} {stage : Storing} {content : Bytes}
  {created : Option Bytes}

/-! ## Storing without interruption -/

/-- Once the folder is there, the file is written next. -/
theorem run_writing (ids : Identifiers) (clientName : String) (hcontent : content ≠ [])
    (hfolder : i.disk.ensureFolder folder = (.ok (), d)) :
    ReflTransGen (Step ids folder clientName) (reading, i)
      (writing (Intake.uploadPath ids folder i.issued clientName) content,
        { i with disk := d, issued := i.issued + 1 }) := by
  apply ReflTransGen.head (Step.read i content hcontent)
  exact .single (Step.opened i content d hfolder)

theorem run_of_storeImage (hcontent : content ≠ [])
    (h : i.storeImage host folder clientName content = (.ok (), i')) :
    ReflTransGen (Step host.identifiers folder clientName) (reading, i) (stored, i') := by
  rcases storeImage_cases host i folder clientName hcontent with
    ⟨fault, d, hfolder, heq⟩ | ⟨fault, d, hfolder, heq⟩ | ⟨d, d', hfolder, hwrite, heq⟩
  · rw [heq] at h
    cases h
  · rw [heq] at h
    cases h
  · rw [heq] at h
    cases h
    exact (run_writing _ clientName hcontent hfolder).tail (Step.written _ _ content d' hwrite)

/-- A failed attempt is one of the ways to stop. -/
theorem stops_of_storeImage {problem : Problem}
    (h : i.storeImage host folder clientName content = (.error problem, i')) :
    ∃ stage next,
      ReflTransGen (Step host.identifiers folder clientName) (reading, i) (stage, next) ∧
      Stops folder stage next none i'.giveUp := by
  have hcontent : content ≠ [] := by
    rintro rfl
    cases h
  rcases storeImage_cases host i folder clientName hcontent with
    ⟨fault, d, hfolder, heq⟩ | ⟨fault, d, hfolder, heq⟩ | ⟨d, d', hfolder, hwrite, heq⟩
  · rw [heq] at h
    cases h
    have heffect : Effect folder i.disk (opening content) none (i.disk.ensureFolder folder).2 :=
      .opened content
    rw [hfolder] at heffect
    exact ⟨_, i, .single (Step.read i content hcontent), .fails none d heffect⟩
  · rw [heq] at h
    cases h
    exact ⟨_, _, run_writing _ clientName hcontent hfolder, .fails none d (.unwritten _ content)⟩
  · rw [heq] at h
    cases h

/-! ## Runs -/

/-- **One step.** -/
theorem begun_step {now next : Storing × Intake} (h : Begun ids folder clientName i₀ now)
    (hstep : Step ids folder clientName now next) : Begun ids folder clientName i₀ next := by
  cases hstep with
  | read i content hcontent => exact ⟨hcontent, h⟩
  | pass i => exact h
  | opened i content d hfolder =>
      obtain ⟨hcontent, rfl⟩ := h
      exact ⟨hcontent, rfl, d, hfolder, rfl⟩
  | written i path content d' hwrite =>
      obtain ⟨hcontent, rfl, d, hfolder, rfl⟩ := h
      refine ⟨content, hcontent, ?_⟩
      rintro host rfl hrefuses
      unfold Intake.storeImage
      rw [List.isEmpty_eq_false_iff.mpr hcontent, if_neg Bool.false_ne_true, hfolder]
      dsimp only at hwrite ⊢
      rw [Intake.writeImage, hrefuses, hwrite]

/-- **A run.** -/
theorem begun_run {next : Storing × Intake}
    (h : ReflTransGen (Step ids folder clientName) (reading, i₀) next) :
    Begun ids folder clientName i₀ next := by
  induction h with
  | refl => rfl
  | tail _ hstep ih => exact begun_step ih hstep

/-- What is stored in the end was stored by `Intake.storeImage`, if nothing is refused. -/
theorem storeImage_of_run
    (h : ReflTransGen (Step ids folder clientName) (reading, i) (stored, i')) :
    ∃ content, content ≠ [] ∧
      ∀ host : Host, host.identifiers = ids → (∀ path, host.refusal? path = none) →
        i.storeImage host folder clientName content = (.ok (), i') :=
  begun_run h

/-! ## What is left -/

theorem grows_effect (h : Effect folder d stage none d') : Grows d d' := by
  cases h with
  | unread | unopened | unwritten => exact .refl d
  | opened => exact grows_ensureFolder d folder

theorem write_of_effect {bytes : Bytes} (h : Effect folder d stage (some bytes) d') :
    ∃ path content count, stage = writing path content ∧ bytes = content.take count ∧
      d.write path bytes = .ok d' := by
  cases h with
  | written path content count d' hwrite => exact ⟨path, content, count, rfl, rfl, hwrite⟩

theorem keepsFolders_effect (h : Effect folder d stage created d') : d.KeepsFolders d' := by
  cases created with
  | none => exact (grows_effect h).folders
  | some bytes =>
      obtain ⟨_, _, _, _, _, hwrite⟩ := write_of_effect h
      exact keepsFolders_write hwrite

/-- An operation changes no file but the one that it creates. -/
theorem file?_effect (h : Effect folder d stage created d') {path : Path}
    (hpath : ∀ other content, stage = writing other content → other = path) (place : Place) :
    d'.file? place =
      if place = path.place ∧ created ≠ none then created else d.file? place := by
  cases created with
  | none => rw [if_neg fun hcreated => hcreated.2 rfl, (grows_effect h).files]
  | some bytes =>
      obtain ⟨other, content, -, hstage, -, hwrite⟩ := write_of_effect h
      obtain rfl := hpath other content hstage
      rw [file?_write hwrite]
      by_cases hplace : place = other.place
      · rw [if_pos hplace, if_pos ⟨hplace, Option.some_ne_none bytes⟩]
      · rw [if_neg hplace, if_neg fun hcreated => hplace hcreated.1]

/-- A failure leaves what is left when the request is dropped right after it. -/
theorem Stops.exists_dropped (h : Stops folder stage i created d) :
    ∃ removed rest d', i.uploads.paths = removed ++ rest ∧
      Effect folder ((Guard.mk removed).drop i.disk) stage created d' ∧
      d = (Guard.mk rest).drop d' := by
  cases h with
  | fails _ d' heffect => exact ⟨[], i.uploads.paths, d', rfl, heffect, rfl⟩
  | dropped removed rest _ d' hpaths heffect =>
      exact ⟨removed, rest, d', hpaths, heffect, rfl⟩

/-- Files that can be reached are gone when a guard has dropped them. -/
theorem file?_drop_of_reached {g : Guard} (hreach : ∀ p ∈ g.paths, d.Reaches p) (place : Place) :
    (g.drop d).file? place =
      if place ∈ g.paths.map Path.place then none else d.file? place := by
  by_cases hplace : place ∈ g.paths.map Path.place
  · obtain ⟨p, hp, rfl⟩ := List.mem_map.mp hplace
    rw [if_pos hplace, file?_drop_of_reaches hp (hreach p hp)]
  · rw [if_neg hplace]
    apply file?_drop_of_forall_ne
    intro p hp heq
    exact hplace (List.mem_map.mpr ⟨p, hp, heq⟩)

/-- While an operation is awaited, the guard is that of the beginning, no file was
changed, and the only file that may be under way is the one of the image. -/
theorem Begun.waits (h : Begun ids folder clientName i₀ (stage, i))
    (heffect : Effect folder d stage created d') :
    i.uploads = i₀.uploads ∧ Grows i₀.disk i.disk ∧
      ∀ path content, stage = writing path content →
        path = Intake.uploadPath ids folder i₀.issued clientName := by
  cases stage with
  | reading =>
      obtain rfl : i = i₀ := h
      exact ⟨rfl, .refl _, nofun⟩
  | opening content =>
      obtain ⟨-, rfl⟩ := h
      exact ⟨rfl, .refl _, nofun⟩
  | writing path content =>
      obtain ⟨-, rfl, d, hfolder, rfl⟩ := h
      have hgrows := grows_ensureFolder i₀.disk folder
      rw [hfolder] at hgrows
      refine ⟨rfl, hgrows, ?_⟩
      rintro path content ⟨⟩
      rfl
  | stored | passed => cases heffect

/-- **What a stop leaves.** The tracked files are gone, and the file of the image is
there if it was created. -/
theorem file?_stop (hstored : Stored ids folder d₀ i₀)
    (hnew : ∀ p ∈ i₀.uploads.paths,
      p.place ≠ (Intake.uploadPath ids folder i₀.issued clientName).place)
    (hbegun : Begun ids folder clientName i₀ (stage, i)) (hstop : Stops folder stage i created d)
    (place : Place) :
    d.file? place =
      if place = (Intake.uploadPath ids folder i₀.issued clientName).place then created
      else d₀.file? place := by
  obtain ⟨removed, rest, d', hpaths, heffect, rfl⟩ := hstop.exists_dropped
  obtain ⟨huploads, hgrows, hpath⟩ := hbegun.waits heffect
  rw [huploads] at hpaths
  have hmem {p : Path} : p ∈ i₀.uploads.paths ↔ p ∈ removed ∨ p ∈ rest := by
    rw [hpaths, List.mem_append]
  -- the folders stay throughout, so every tracked path can be reached when it is dropped
  have hremoved : ∀ p ∈ removed, i.disk.Reaches p := by
    intro p hp
    exact (hstored.reaches p (hmem.mpr (.inl hp))).mono hgrows.folders
  have hrest : ∀ p ∈ rest, d'.Reaches p := by
    intro p hp
    have hfolders := (hgrows.folders.trans (keepsFolders_drop ⟨removed⟩ i.disk)).trans
      (keepsFolders_effect heffect)
    exact (hstored.reaches p (hmem.mpr (.inr hp))).mono hfolders
  rw [file?_drop_of_reached hrest, file?_effect heffect hpath, file?_drop_of_reached hremoved,
    hgrows.files]
  dsimp only
  have hplaces : place ∈ i₀.uploads.paths.map Path.place ↔
      place ∈ removed.map Path.place ∨ place ∈ rest.map Path.place := by
    rw [hpaths, List.map_append, List.mem_append]
  by_cases htracked : place ∈ i₀.uploads.paths.map Path.place
  · obtain ⟨p, hp, rfl⟩ := List.mem_map.mp htracked
    have hother := hnew p hp
    rw [if_neg hother, hstored.news p hp]
    rcases hplaces.mp htracked with hbefore | hafter
    · have hnot : ¬(p.place = (Intake.uploadPath ids folder i₀.issued clientName).place ∧
          created ≠ none) := fun h => hother h.1
      rw [if_neg hnot, if_pos hbefore, ite_self]
    · rw [if_pos hafter]
  · have huntracked : ∀ p ∈ i₀.uploads.paths, p.place ≠ place := fun p hp heq =>
      htracked (List.mem_map.mpr ⟨p, hp, heq⟩)
    rw [hplaces, not_or] at htracked
    rw [if_neg htracked.2, if_neg htracked.1, hstored.files place huntracked]
    by_cases himage : place = (Intake.uploadPath ids folder i₀.issued clientName).place
    · rw [if_pos himage]
      cases created with
      | none =>
          rw [if_neg fun h => h.2 rfl, himage]
          exact hstored.fresh i₀.issued le_rfl clientName
      | some bytes => rw [if_pos ⟨himage, Option.some_ne_none bytes⟩]
    · rw [if_neg himage, if_neg fun h => himage h.1]

/-- The images of a form so far have other names than the next one. -/
theorem place_ne_of_taken {first : Nat} {past : List Part} (h : Taken ids folder first past i)
    (hstored : Stored ids folder d₀ i) (clientName : String) :
    ∀ p ∈ i.uploads.paths, p.place ≠ (Intake.uploadPath ids folder i.issued clientName).place := by
  intro p hp
  rw [← hstored.images, h.selection] at hp
  obtain ⟨image, himage, rfl⟩ := List.mem_map.mp hp
  obtain ⟨entry, hentry, rfl⟩ := List.mem_map.mp himage
  have hlt := List.snd_lt_of_mem_zipIdx hentry
  rw [path_imageOf]
  intro hplace
  have hnumber := number_eq_of_place_eq hplace
  rw [h.issued] at hnumber
  omega

/-- **Storing is not all or nothing.** However many parts were read before, at whatever
point the storing of an image stops, and whether the stop is a failure or the request
is dropped: the files are those from before the request, but for the file of the image.
It is left with what was written to it if it was created, and only its writing creates
it. A part without content changes nothing. -/
theorem files_of_stop (host : Host) (folder : Path) (parts : List Part)
    (d₀ : Disk) (issued : Nat) (i₀ : Intake) (clientName : String)
    (hfresh : FreshNames host.identifiers folder issued d₀)
    (hparts : Intake.takeParts host folder parts { disk := d₀, issued } = (.ok (), i₀))
    (stage : Storing) (i : Intake)
    (hrun : ReflTransGen (Step host.identifiers folder clientName) (reading, i₀) (stage, i)) :
    (∀ created d, Stops folder stage i created d →
      (∀ place, d.file? place =
        if place = (Intake.uploadPath host.identifiers folder i₀.issued clientName).place
        then created else d₀.file? place) ∧
      ∀ bytes, created = some bytes → ∃ content count,
        stage = writing (Intake.uploadPath host.identifiers folder i₀.issued clientName) content ∧
          bytes = content.take count) ∧
    (stage = passed → i = i₀) := by
  have hstored : Stored host.identifiers folder d₀ i₀ := by
    have h := stored_takeParts host (stored_opening hfresh) parts
    rwa [hparts] at h
  have htaken := taken_takeParts (taken_nil host.identifiers folder issued d₀) hparts
  have hbegun := begun_run hrun
  constructor
  · intro created d hstop
    constructor
    · exact file?_stop hstored (place_ne_of_taken htaken hstored clientName) hbegun hstop
    · rintro bytes rfl
      obtain ⟨_, _, _, _, heffect, -⟩ := hstop.exists_dropped
      obtain ⟨path, content, count, rfl, hbytes, -⟩ := write_of_effect heffect
      obtain rfl := (hbegun.waits heffect).2.2 path content rfl
      exact ⟨content, count, rfl, hbytes⟩
  · rintro rfl
    exact hbegun

/-- The small disk with one image that was read from a form. -/
def readOne : Intake :=
  (Intake.takeParts pickyHost smallService.settings.uploadFolder [imagePart "me.png"]
    { disk := Production.smallDisk, issued := 0 }).2

theorem files_of_stop_dropped :
    FreshNames pickyHost.identifiers smallService.settings.uploadFolder 0
        Production.smallDisk ∧
      ∃ stage i d,
        ReflTransGen (Step pickyHost.identifiers smallService.settings.uploadFolder "you.png")
          (reading, readOne) (stage, i) ∧
        Stops smallService.settings.uploadFolder stage i (some [1]) d ∧
        d.file? (Intake.uploadPath pickyHost.identifiers smallService.settings.uploadFolder
          readOne.issued "you.png").place = some [1] ∧
        d.file? (Intake.uploadPath pickyHost.identifiers smallService.settings.uploadFolder 0
          "me.png").place = none := by
  have hparts : Intake.takeParts pickyHost smallService.settings.uploadFolder
      [imagePart "me.png"] { disk := Production.smallDisk, issued := 0 } = (.ok (), readOne) :=
    eq_ok_of_isOk (by decide +kernel)
  have hfolder : readOne.disk.ensureFolder smallService.settings.uploadFolder =
      (.ok (), (readOne.disk.ensureFolder smallService.settings.uploadFolder).2) :=
    eq_ok_of_isOk (by decide +kernel)
  have hrun := run_writing pickyHost.identifiers "you.png"
    (show ([1, 2] : Bytes) ≠ [] by decide) hfolder
  -- the first image is removed before the file of the second one is created
  have hok : (((Guard.mk readOne.uploads.paths).drop
      (readOne.disk.ensureFolder smallService.settings.uploadFolder).2).write
        (Intake.uploadPath pickyHost.identifiers smallService.settings.uploadFolder
          readOne.issued "you.png") (([1, 2] : Bytes).take 1)).isOk = true := by
    decide +kernel
  rcases hwrite : ((Guard.mk readOne.uploads.paths).drop
      (readOne.disk.ensureFolder smallService.settings.uploadFolder).2).write
        (Intake.uploadPath pickyHost.identifiers smallService.settings.uploadFolder
          readOne.issued "you.png") (([1, 2] : Bytes).take 1) with fault | d
  · rw [hwrite] at hok
    cases hok
  · have hstop : Stops smallService.settings.uploadFolder _
        { readOne with
          disk := (readOne.disk.ensureFolder smallService.settings.uploadFolder).2
          issued := readOne.issued + 1 } _ _ :=
      .dropped readOne.uploads.paths [] _ d (List.append_nil _).symm (.written _ [1, 2] 1 d hwrite)
    have hleft := ((files_of_stop pickyHost smallService.settings.uploadFolder
      [imagePart "me.png"] Production.smallDisk 0 readOne "you.png" (freshNames_smallDisk _) hparts
      _ _ hrun).1 _ _ hstop).1
    refine ⟨freshNames_smallDisk _, _, _, _, hrun, hstop, ?_, ?_⟩
    · rw [hleft, if_pos rfl]
      rfl
    · have hissued : readOne.issued = 1 := by decide +kernel
      rw [hleft, if_neg]
      · exact freshNames_smallDisk _ 0 le_rfl "me.png"
      · intro hplace
        have hnumber := number_eq_of_place_eq hplace
        rw [hissued] at hnumber
        cases hnumber

/-- **A file may be left** of an image that was not stored. -/
theorem not_all_or_nothing :
    ¬∀ (ids : Identifiers) (folder : Path) (clientName : String) (d₀ : Disk) (issued : Nat)
        (stage : Storing) (i : Intake) (created : Option Bytes) (d : Disk),
      FreshNames ids folder issued d₀ →
      ReflTransGen (Step ids folder clientName) (reading, { disk := d₀, issued }) (stage, i) →
      Stops folder stage i created d →
      d.file? (Intake.uploadPath ids folder issued clientName).place = none := by
  intro h
  have hfolder : Production.smallDisk.ensureFolder smallService.settings.uploadFolder =
      (.ok (), (Production.smallDisk.ensureFolder smallService.settings.uploadFolder).2) :=
    eq_ok_of_isOk (by decide +kernel)
  have hrun := run_writing (i := { disk := Production.smallDisk, issued := 0 })
    pickyHost.identifiers "me.png" (show ([1, 2] : Bytes) ≠ [] by decide) hfolder
  have hok : ((Production.smallDisk.ensureFolder smallService.settings.uploadFolder).2.write
      (Intake.uploadPath pickyHost.identifiers smallService.settings.uploadFolder 0 "me.png")
        (([1, 2] : Bytes).take 1)).isOk = true := by
    decide +kernel
  rcases hwrite : (Production.smallDisk.ensureFolder smallService.settings.uploadFolder).2.write
    (Intake.uploadPath pickyHost.identifiers smallService.settings.uploadFolder 0 "me.png")
      (([1, 2] : Bytes).take 1) with fault | d
  · rw [hwrite] at hok
    cases hok
  · have hnone := h pickyHost.identifiers _ _ _ 0 _ _ _ _ (freshNames_smallDisk _) hrun
      (.fails _ _ (.written _ [1, 2] 1 d hwrite))
    have hleft := file?_write hwrite
      (Intake.uploadPath pickyHost.identifiers smallService.settings.uploadFolder 0 "me.png").place
    rw [if_pos rfl] at hleft
    -- nothing was tracked, so giving up removes nothing
    replace hnone : d.file? (Intake.uploadPath pickyHost.identifiers
      smallService.settings.uploadFolder 0 "me.png").place = none := hnone
    rw [hleft] at hnone
    cases hnone

end Storing

end VideoGreeting.Service
