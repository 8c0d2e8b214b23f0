import VideoGreeting.Proofs.Disk.Folders
import VideoGreeting.Proofs.Production.Cleanup
import VideoGreeting.Proofs.Production.Ending

/-!
# The files of a reel in the making

Uploaded images go and everything else stays, however the making of a reel ends.
A failed or abandoned reel leaves the files that were there before without the
images, and a finished one adds its own file, which was no file before.

`Sound` says for every stage how the disk relates to the disk at the beginning:
until the output is reserved only folders were added, from then on the output is
the one new file, and at the end the images are gone. The first step establishes
it, `sound_step` preserves it, and `sound_advance` is the run. Main theorem:
`making_files`.
-/

namespace VideoGreeting.Production

open Disk Text

/-! ## Stages -/

/-- How the disk has changed since the beginning, for every stage after the first
step. -/
def Sound (studio : Studio) (engine : Engine.Command → Engine.Run) (now : Int)
    (selection : Selection) (d₀ : Disk) : Stage → Disk → Prop
  | .received _, _ => False
  | .opening plan, d => plan.resolved.images = selection.images ∧ Grows d₀ d
  | .reserving plan stem _, d =>
    plan.resolved.images = selection.images ∧ stem = outputStem now ∧ Grows d₀ d
  | .checking job _, d => IsJob studio now selection job ∧ Holding d₀ d job.output []
  | .rendering job, d =>
    IsJob studio now selection job ∧ ∃ content, Holding d₀ d job.output content ∧
      -- an engine that runs forever may have written something
      (content = [] ∨ (engine job.command).result = none)
  | .finished (.error _) _, d => Cleaned selection d₀ d
  | .finished (.ok reel) command, d =>
    ∃ c, command = some c ∧ Delivered studio engine selection reel c d₀ d

variable {studio : Studio} {engine : Engine.Command → Engine.Run} {now : Int}
  {selection : Selection} {d₀ d d' : Disk}

/-! ## Steps -/

/-- Reserving a file makes it the one new file. -/
theorem holding_of_createNew {output : Path} (hgrows : Grows d₀ d)
    (hcreate : d.createNew output = .ok d') : Holding d₀ d' output [] := by
  obtain ⟨hreach, hentry, rfl⟩ := createNew_eq_ok hcreate
  have hne := hreach.place_ne_nil
  have hfolders := keepsFolders_insert hne (by rw [hentry]; exact nofun) []
  refine
    { fresh := (hgrows.files _).symm.trans (file?_eq_none_of_entry?_eq_none hentry)
      reaches := hreach.mono hfolders
      files := ?_
      folders := hgrows.folders.trans hfolders }
  intro place
  rw [file?_insert hne, hgrows.files]

/-- What the engine writes goes to the output. -/
theorem holding_deliver {job : Job} {content : Bytes} (hholding : Holding d₀ d job.output content)
    (written : Option Bytes) :
    Holding d₀ (deliver job written d) job.output (written.getD content) := by
  cases written with
  | none => exact hholding
  | some new =>
      have hfile : d.file? job.output.place ≠ none := by
        rw [hholding.files, if_pos rfl]
        exact Option.some_ne_none content
      have hwrite := write_eq_ok hholding.reaches hfile new
      have hfolders := keepsFolders_write hwrite
      rw [deliver, hwrite]
      refine
        { fresh := hholding.fresh
          reaches := hholding.reaches.mono hfolders
          files := ?_
          folders := hholding.folders.trans hfolders }
      intro place
      show (d.insert _ _).file? place = _
      rw [file?_write hwrite, hholding.files]
      by_cases hplace : place = job.output.place
      · rw [if_pos hplace, if_pos hplace]
        rfl
      · rw [if_neg hplace, if_neg hplace, if_neg hplace]

/-- **The first step.** -/
theorem sound_first (studio : Studio) (engine : Engine.Command → Engine.Run) (now : Int)
    (hremove : Removable selection d₀) :
    Sound studio engine now selection d₀ (step studio engine now d₀ (.received selection)).1
      (step studio engine now d₀ (.received selection)).2 := by
  unfold step
  dsimp only
  split
  next p hplan => exact ⟨plan_images hplan, .refl d₀⟩
  next => exact cleaned_uploads hremove (.refl d₀)

/-- **One step.** -/
theorem sound_step (hremove : Removable selection d₀) {stage : Stage}
    (h : Sound studio engine now selection d₀ stage d) :
    Sound studio engine now selection d₀ (step studio engine now d stage).1
      (step studio engine now d stage).2 := by
  cases stage with
  | received s => exact h.elim
  | opening p =>
      obtain ⟨himages, hgrows⟩ := h
      have hfolder := grows_ensureFolder d studio.settings.resolvedOutputFolder
      unfold step
      dsimp only
      split
      next d' hok =>
        rw [hok] at hfolder
        exact ⟨himages, rfl, hgrows.trans hfolder⟩
      next fault d' herror =>
        rw [herror] at hfolder
        rw [himages]
        exact cleaned_uploads hremove (hgrows.trans hfolder)
  | reserving p stem attempt =>
      obtain ⟨himages, rfl, hgrows⟩ := h
      unfold step
      dsimp only
      rw [himages]
      split
      next =>
        split
        next path d' hreserved =>
          obtain ⟨hpath, hcreate⟩ := tryReserve_eq_reserved hreserved
          refine ⟨⟨⟨attempt, hpath⟩, Job.commandOf_output _ _ _ _, ?_⟩,
            holding_of_createNew hgrows hcreate⟩
          show (Stage.uploadsOf p.resolved.images).push path = _
          rw [himages]
          rfl
        next => exact ⟨himages, rfl, hgrows⟩
        next => exact cleaned_uploads hremove hgrows
      next => exact cleaned_uploads hremove hgrows
  | checking job remaining =>
      obtain ⟨hjob, hholding⟩ := h
      cases remaining with
      | nil => exact ⟨hjob, [], hholding, .inl rfl⟩
      | cons path rest =>
          unfold step
          dsimp only
          split
          next => exact ⟨hjob, hholding⟩
          next =>
            rw [hjob.owned]
            exact cleaned_owned hremove hholding
  | rendering job =>
      obtain ⟨hjob, content, hholding, hfirst⟩ := h
      have hdeliver := holding_deliver hholding (engine job.command).written
      unfold step
      dsimp only
      split
      next hnone => exact ⟨hjob, _, hdeliver, .inr hnone⟩
      next hok =>
        refine ⟨_, rfl, delivered_released hremove hjob hdeliver hok ?_⟩
        -- an engine that ends is asked once, so the output was empty before
        rcases hfirst with rfl | hnone
        · rfl
        · rw [hnone] at hok
          cases hok
      next failure herror =>
        rw [hjob.owned]
        exact cleaned_owned hremove hdeliver
  | finished result command => exact h

/-- **A run.** -/
theorem sound_advance (hremove : Removable selection d₀) (n : Nat) {stage : Stage}
    (h : Sound studio engine now selection d₀ stage d) :
    Sound studio engine now selection d₀ (advance studio engine now n (stage, d)).1
      (advance studio engine now n (stage, d)).2 := by
  induction n generalizing stage d with
  | zero => exact h
  | succ n ih => exact ih (sound_step hremove h)

/-! ## The lifecycle of files -/

/-- Files that are no images are untouched. -/
theorem file?_of_sound {stage : Stage} (h : Sound studio engine now selection d₀ stage d)
    {place : Place} {content : Bytes} (hplace : place ∉ imagePlaces selection)
    (hfile : d₀.file? place = some content) : d.file? place = some content := by
  have hholding {output : Path} {written : Bytes} (hholding : Holding d₀ d output written) :
      d.file? place = some content := by
    rw [hholding.files, if_neg, hfile]
    rintro rfl
    rw [hholding.fresh] at hfile
    cases hfile
  cases stage with
  | received s => exact h.elim
  | opening p => rw [h.2.files, hfile]
  | reserving p stem attempt => rw [h.2.2.files, hfile]
  | checking job remaining => exact hholding h.2
  | rendering job =>
      obtain ⟨-, written, h, -⟩ := h
      exact hholding h
  | finished result command =>
      cases result with
      | error failure => rw [h.files, if_neg hplace, hfile]
      | ok reel =>
          obtain ⟨c, -, h⟩ := h
          exact h.others place hplace content hfile

/-- Making a reel is a run after the first step. -/
theorem sound_make (studio : Studio) (engine : Engine.Command → Engine.Run) (now : Int)
    (hremove : Removable selection d₀) :
    Sound studio engine now selection d₀ (make studio engine now d₀ selection).1
      (make studio engine now d₀ selection).2 :=
  sound_advance hremove (maxAttempts + selection.images.length + 7)
    (sound_first studio engine now hremove)

/-- Once a reel is over, what is not in the output folder is as it was, without the
images. -/
theorem file?_make {result : Except Failure Reel} (hremove : Removable selection d₀)
    (houtside : Outside studio selection)
    (hresult : (make studio engine now d₀ selection).1.result? = some result) {place : Place}
    (hplace : ∀ name, place ≠ studio.settings.resolvedOutputFolder.place ++ [name]) :
    (make studio engine now d₀ selection).2.file? place =
      if place ∈ imagePlaces selection then none else d₀.file? place := by
  have hsound := sound_make studio engine now hremove
  rcases hstage : (make studio engine now d₀ selection).1 with
    s | p | ⟨p, stem, attempt⟩ | ⟨job, remaining⟩ | job | ⟨failure | reel, command⟩
  all_goals rw [hstage] at hsound hresult
  iterate 5 cases hresult
  · exact hsound.files place
  · obtain ⟨c, -, hdelivered⟩ := hsound
    obtain ⟨name, hname⟩ := hdelivered.inFolder
    rw [hdelivered.files, if_neg (by rw [hname]; exact hplace name)]
    intro image himage haliased
    exact absurd (haliased.trans hname) (houtside image himage name)

/-- A step that is broken off may have made folders. -/
theorem sound_grows {stage : Stage} (h : Sound studio engine now selection d₀ stage d)
    (hresult : stage.result? = none) (hgrows : Grows d d') :
    Sound studio engine now selection d₀ stage d' := by
  cases stage with
  | received s => exact h.elim
  | opening p => exact ⟨h.1, h.2.trans hgrows⟩
  | reserving p stem attempt => exact ⟨h.1, h.2.1, h.2.2.trans hgrows⟩
  | checking job remaining => exact ⟨h.1, h.2.grows hgrows⟩
  | rendering job =>
      obtain ⟨hjob, content, hholding, hfirst⟩ := h
      exact ⟨hjob, content, hholding.grows hgrows, hfirst⟩
  | finished result command => cases hresult

/-- A reel that is given up leaves the files of the beginning without the
images. -/
theorem cleaned_abandon (hremove : Removable selection d₀) {stage : Stage}
    (h : Sound studio engine now selection d₀ stage d) (hresult : stage.result? = none) :
    Cleaned selection d₀ (abandon stage d) := by
  cases stage with
  | received s => exact h.elim
  | opening p =>
      rw [abandon, Stage.owned, h.1]
      exact cleaned_uploads hremove h.2
  | reserving p stem attempt =>
      rw [abandon, Stage.owned, h.1]
      exact cleaned_uploads hremove h.2.2
  | checking job remaining =>
      rw [abandon, Stage.owned, h.1.owned]
      exact cleaned_owned hremove h.2
  | rendering job =>
      obtain ⟨hjob, content, hholding, -⟩ := h
      rw [abandon, Stage.owned, hjob.owned]
      exact cleaned_owned hremove hholding
  | finished result command => cases hresult

/-- **The files of a reel in the making.** Whatever the engine does, and after
any number of steps: a failure leaves the files of the beginning without the
images, and a finished reel adds exactly its own file, as the engine left it, to
them. A reel that is given up after its first step, be it while folders are made,
leaves no image. At no time is a file that is no image removed or changed. The
making of a reel ends, unless the engine runs forever. -/
theorem making_files (studio : Studio) (engine : Engine.Command → Engine.Run) (now : Int)
    (selection : Selection) (d₀ : Disk) (hremove : Removable selection d₀) :
    (∀ n stage d, advance studio engine now n (.received selection, d₀) = (stage, d) →
      (∀ failure command, stage = .finished (.error failure) command →
        Cleaned selection d₀ d) ∧
      (∀ reel command, stage = .finished (.ok reel) command →
        ∃ c, command = some c ∧ Delivered studio engine selection reel c d₀ d) ∧
      (n ≠ 0 → stage.result? = none → ∀ d', Grows d d' →
        ∀ place ∈ imagePlaces selection, (abandon stage d').file? place = none) ∧
      ∀ place ∉ imagePlaces selection, ∀ content, d₀.file? place = some content →
        d.file? place = some content ∧
          ∀ d', Grows d d' → (abandon stage d').file? place = some content) ∧
    ((make studio engine now d₀ selection).1.result? = none →
      ∃ c, (make studio engine now d₀ selection).1.command? = some c ∧
        (engine c).result = none) := by
  constructor
  · intro n stage d hrun
    cases n with
    | zero =>
        cases hrun
        refine ⟨?_, ?_, fun h => absurd rfl h, ?_⟩
        · intro failure command h
          cases h
        · intro reel command h
          cases h
        · intro place _ content hfile
          refine ⟨hfile, fun d' hgrows => ?_⟩
          show d'.file? place = some content
          rw [hgrows.files, hfile]
    | succ n =>
        have hfirst := sound_first studio engine now hremove
        have hsound : Sound studio engine now selection d₀ stage d := by
          have hadvance := sound_advance hremove n hfirst
          rw [show advance studio engine now n _ = (stage, d) from hrun] at hadvance
          exact hadvance
        refine ⟨?_, ?_, ?_, ?_⟩
        · rintro failure command rfl
          exact hsound
        · rintro reel command rfl
          exact hsound
        · intro _ hresult d' hgrows place hplace
          have hclean := cleaned_abandon hremove (sound_grows hsound hresult hgrows) hresult
          rw [hclean.files, if_pos hplace]
        · intro place hplace content hfile
          have hkept := file?_of_sound hsound hplace hfile
          refine ⟨hkept, fun d' hgrows => ?_⟩
          rcases hresult : stage.result? with _ | result
          · have hclean := cleaned_abandon hremove (sound_grows hsound hresult hgrows) hresult
            rw [hclean.files, if_neg hplace, hfile]
          · -- what is finished owns nothing
            cases stage with
            | finished result command =>
                show d'.file? place = some content
                rw [hgrows.files, hkept]
            | received | opening | reserving | checking | rendering => cases hresult
  · intro hresult
    have hover : IsOver engine (make studio engine now d₀ selection).1 := by
      exact isOver_advance _ (le_refl _)
    rcases hstage : (make studio engine now d₀ selection).1 with
      s | p | ⟨p, stem, attempt⟩ | ⟨job, remaining⟩ | job | ⟨result, command⟩
    · rw [hstage] at hover
      exact hover.elim
    · rw [hstage] at hover
      exact hover.elim
    · rw [hstage] at hover
      exact hover.elim
    · rw [hstage] at hover
      exact hover.elim
    · rw [hstage] at hover
      exact ⟨job.command, rfl, hover⟩
    · rw [hstage] at hresult
      cases hresult

/-! ## A run -/

/-- A studio with one song and one background. -/
def smallStudio : Studio :=
  ⟨{}, { songs := ["joy"], backgrounds := ["sea"], animations := [] }⟩

/-- Its assets, and an image that was uploaded. -/
def smallDisk : Disk where
  entries :=
    [(["backgrounds"], .folder), (["backgrounds", "sea.jpg"], .file [1]),
      (["songs"], .folder), (["songs", "joy.mp3"], .file [2]),
      (["public"], .folder), (["public", "test.png"], .file [3]),
      (["uploads"], .folder), (["uploads", "1"], .file [4])]

/-- A selection with that image. -/
def oneUpload : Selection where
  song := "joy"
  background := "sea"
  animation := "zoom"
  images := [⟨⟨"uploads/1"⟩, "me.jpg"⟩]

/-- An engine that writes a byte. -/
def byteEngine (_ : Engine.Command) : Engine.Run :=
  { written := some [5], result := some (.ok ()) }

theorem outside_oneUpload : Outside smallStudio oneUpload := by
  intro image himage name hplace
  obtain rfl := List.mem_singleton.mp himage
  have hlength := congrArg List.length hplace
  rw [List.length_append, List.length_singleton] at hlength
  exact absurd hlength (by decide +kernel)

theorem making_files_oneUpload :
    Removable oneUpload smallDisk ∧
      ∃ reel c, (make smallStudio byteEngine 0 smallDisk oneUpload).1 =
          .finished (.ok reel) (some c) ∧
        Delivered smallStudio byteEngine oneUpload reel c smallDisk
          (make smallStudio byteEngine 0 smallDisk oneUpload).2 := by
  have hremove : Removable oneUpload smallDisk := by
    intro image himage _
    obtain rfl := List.mem_singleton.mp himage
    exact ⟨smallDisk.erase ["uploads", "1"], by decide⟩
  have hfiles := (making_files smallStudio byteEngine 0 oneUpload smallDisk hremove).1
    (stepBound oneUpload) _ _ rfl
  have hok : (make smallStudio byteEngine 0 smallDisk oneUpload).1.result?.map Except.isOk =
      some true := by
    decide +kernel
  refine ⟨hremove, ?_⟩
  rcases hstage : (make smallStudio byteEngine 0 smallDisk oneUpload).1 with
    s | p | ⟨p, stem, attempt⟩ | ⟨job, remaining⟩ | job | ⟨failure | reel, command⟩
  all_goals rw [hstage] at hok
  all_goals try cases hok
  obtain ⟨c, rfl, hdelivered⟩ := hfiles.2.1 reel command hstage
  exact ⟨reel, c, rfl, hdelivered⟩

end VideoGreeting.Production
