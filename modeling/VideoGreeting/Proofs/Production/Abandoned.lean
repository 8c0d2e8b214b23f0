import VideoGreeting.Proofs.Production.Lifecycle

/-!
# A reel that is given up while a file operation is under way

A file operation that was begun takes effect even when nobody waits for its
outcome any more. So a reel can be given up between two operations, while the
engine runs, or while an operation is under way, and then the operation takes
effect before or after the files of the reel are removed.

`operation` is what a stage waits for, and a step does just that to the disk
(`step_eq_operation`). `Pending` says what the disk holds at every stage that is not
finished: `pending_step` preserves it and `pending_advance` is the run. What is left
then depends on the operation alone (`file?_operation`). Main theorem:
`abandoned_files`. The one operation that leaves a file is the reservation of the
output: nobody owns the new file before its name has come back.
-/

namespace VideoGreeting.Production

open Disk Text

/-! ## Giving up -/

/-- The operation that a stage waits for: the file it creates, and the disk once
it has taken effect. -/
def operation (studio : Studio) (stage : Stage) (d : Disk) : Option Path × Disk :=
  match stage with
  | .opening _ => (none, (d.ensureFolder studio.settings.resolvedOutputFolder).2)
  | .reserving _ stem attempt =>
    if attempt < maxAttempts then
      match d.tryReserve studio.settings.resolvedOutputFolder stem reelExtension attempt with
      | .reserved path d' => (some path, d')
      | .taken | .failed _ => (none, d)
    else (none, d)
  | .received _ | .checking _ _ | .rendering _ | .finished _ _ => (none, d)

/-- A reel is given up at a stage: the file that an operation created meanwhile,
and the disk once everything has taken effect. -/
inductive GivenUp (studio : Studio) (stage : Stage) (d : Disk) : Option Path → Disk → Prop
  | between : GivenUp studio stage d none (abandon stage d)
  /-- The operation takes effect before the files are removed. -/
  | afterOperation : GivenUp studio stage d (operation studio stage d).1
      (abandon stage (operation studio stage d).2)
  /-- The operation takes effect after the files were removed. -/
  | beforeOperation : GivenUp studio stage d (operation studio stage (abandon stage d)).1
      (operation studio stage (abandon stage d)).2
  /-- The engine may have written something before it is stopped. -/
  | duringRun (job : Job) (written : Option Bytes) : stage = .rendering job →
      GivenUp studio stage d none (abandon stage (deliver job written d))

/-- How the disk has changed since the beginning, for every stage that is not
finished. -/
def Pending (studio : Studio) (now : Int) (selection : Selection) (d₀ : Disk) :
    Stage → Disk → Prop
  | .received s, d => s = selection ∧ d = d₀
  | .opening plan, d => plan.resolved.images = selection.images ∧ Grows d₀ d
  | .reserving plan stem _, d =>
    plan.resolved.images = selection.images ∧ stem = outputStem now ∧ Grows d₀ d
  | .checking job _, d | .rendering job, d =>
    IsJob studio now selection job ∧ ∃ content, Holding d₀ d job.output content
  | .finished _ _, _ => True

variable {studio : Studio} {engine : Engine.Command → Engine.Run} {now : Int}
  {selection : Selection} {stage : Stage} {d₀ d d' : Disk} {place : Place}

/-! ## Operations -/

/-- As long as the work goes on, what a step does to the disk is the operation that
its stage waits for. -/
theorem step_eq_operation (hengine : ∀ job, stage ≠ .rendering job)
    (hnext : (step studio engine now d stage).1.result? = none) :
    (step studio engine now d stage).2 = (operation studio stage d).2 := by
  cases stage with
  | received s =>
      unfold step at hnext ⊢
      dsimp only at hnext ⊢
      cases hplan : plan studio s with
      | ok p => rfl
      | error failure =>
          rw [hplan] at hnext
          cases hnext
  | opening p =>
      unfold step at hnext ⊢
      unfold operation
      dsimp only at hnext ⊢
      rcases hfolder : d.ensureFolder studio.settings.resolvedOutputFolder with ⟨fault | ⟨⟩, d'⟩
      · rw [hfolder] at hnext
        cases hnext
      · rfl
  | reserving p stem attempt =>
      unfold step at hnext ⊢
      unfold operation
      dsimp only at hnext ⊢
      by_cases hattempt : attempt < maxAttempts
      · rw [if_pos hattempt] at hnext ⊢
        rw [if_pos hattempt]
        cases hreserve :
            d.tryReserve studio.settings.resolvedOutputFolder stem reelExtension attempt with
        | reserved path d' => rfl
        | taken => rfl
        | failed fault =>
            rw [hreserve] at hnext
            cases hnext
      · rw [if_neg hattempt] at hnext
        cases hnext
  | checking job remaining =>
      cases remaining with
      | nil => rfl
      | cons path rest =>
          unfold step at hnext ⊢
          dsimp only at hnext ⊢
          by_cases hholds : d.holds path = true
          · rw [if_pos hholds]
            rfl
          · rw [if_neg hholds] at hnext
            cases hnext
  | rendering job => exact absurd rfl (hengine job)
  | finished result command => rfl

/-- A file is created by a reservation only, where no file was. -/
theorem operation_eq_some {path : Path} (h : (operation studio stage d).1 = some path) :
    ∃ plan stem attempt, stage = .reserving plan stem attempt ∧
      path = candidate studio.settings.resolvedOutputFolder stem reelExtension attempt ∧
      d.createNew path = .ok (operation studio stage d).2 := by
  cases stage with
  | reserving p stem attempt =>
      refine ⟨p, stem, attempt, rfl, ?_⟩
      unfold operation at h ⊢
      dsimp only at h ⊢
      by_cases hattempt : attempt < maxAttempts
      · rw [if_pos hattempt] at h ⊢
        cases hreserve :
            d.tryReserve studio.settings.resolvedOutputFolder stem reelExtension attempt with
        | reserved reserved d' =>
            rw [hreserve] at h
            obtain rfl : reserved = path := Option.some.inj h
            exact tryReserve_eq_reserved hreserve
        | taken =>
            rw [hreserve] at h
            cases h
        | failed fault =>
            rw [hreserve] at h
            cases h
      · rw [if_neg hattempt] at h
        cases h
  | received | opening | checking | rendering | finished => cases h

/-- An operation that creates no file changes none. -/
theorem file?_operation_of_eq_none (h : (operation studio stage d).1 = none) (place : Place) :
    (operation studio stage d).2.file? place = d.file? place := by
  cases stage with
  | opening p => exact (grows_ensureFolder d _).files place
  | reserving p stem attempt =>
      unfold operation at h ⊢
      dsimp only at h ⊢
      by_cases hattempt : attempt < maxAttempts
      · rw [if_pos hattempt] at h ⊢
        cases hreserve :
            d.tryReserve studio.settings.resolvedOutputFolder stem reelExtension attempt with
        | reserved path d' =>
            rw [hreserve] at h
            cases h
        | taken => rfl
        | failed fault => rfl
      · rw [if_neg hattempt]
  | received | checking | rendering | finished => rfl

/-- **What an operation does to the files.** It adds an empty one where there was
none, or nothing. -/
theorem file?_operation (studio : Studio) (stage : Stage) (d : Disk) (place : Place) :
    (operation studio stage d).2.file? place =
      if (operation studio stage d).1.map Path.place = some place then some []
      else d.file? place := by
  cases hcreated : (operation studio stage d).1 with
  | none =>
      rw [file?_operation_of_eq_none hcreated]
      rfl
  | some path =>
      obtain ⟨-, -, -, -, -, hcreate⟩ := operation_eq_some hcreated
      obtain ⟨hreach, -, hinsert⟩ := createNew_eq_ok hcreate
      rw [hinsert, file?_insert hreach.place_ne_nil, Option.map_some]
      by_cases hplace : place = path.place
      · rw [if_pos hplace, if_pos (congrArg some hplace.symm)]
      · have hne : some path.place ≠ some place := by
          intro h
          exact hplace (Option.some.inj h).symm
        rw [if_neg hplace, if_neg hne]

/-! ## Stages -/

/-- **One step.** -/
theorem pending_step (h : Pending studio now selection d₀ stage d) :
    Pending studio now selection d₀ (step studio engine now d stage).1
      (step studio engine now d stage).2 := by
  cases stage with
  | received s =>
      obtain ⟨rfl, rfl⟩ := h
      unfold step
      dsimp only
      split
      next p hplan => exact ⟨plan_images hplan, .refl d⟩
      next => trivial
  | opening p =>
      obtain ⟨himages, hgrows⟩ := h
      have hfolder := grows_ensureFolder d studio.settings.resolvedOutputFolder
      unfold step
      dsimp only
      split
      next d' hok =>
        rw [hok] at hfolder
        exact ⟨himages, rfl, hgrows.trans hfolder⟩
      next => trivial
  | reserving p stem attempt =>
      obtain ⟨himages, rfl, hgrows⟩ := h
      unfold step
      dsimp only
      split
      next =>
        split
        next path d' hreserved =>
          obtain ⟨hpath, hcreate⟩ := tryReserve_eq_reserved hreserved
          refine ⟨⟨⟨attempt, hpath⟩, Job.commandOf_output _ _ _ _, ?_⟩,
            [], holding_of_createNew hgrows hcreate⟩
          show (Stage.uploadsOf p.resolved.images).push path = _
          rw [himages]
          rfl
        next => exact ⟨himages, rfl, hgrows⟩
        next => trivial
      next => trivial
  | checking job remaining =>
      cases remaining with
      | nil => exact h
      | cons path rest =>
          unfold step
          dsimp only
          split
          next => exact h
          next => trivial
  | rendering job =>
      obtain ⟨hjob, content, hholding⟩ := h
      unfold step
      dsimp only
      split
      next => exact ⟨hjob, _, holding_deliver hholding (engine job.command).written⟩
      next => trivial
      next => trivial
  | finished result command => trivial

/-- **A run.** -/
theorem pending_advance (n : Nat) (h : Pending studio now selection d₀ stage d) :
    Pending studio now selection d₀ (advance studio engine now n (stage, d)).1
      (advance studio engine now n (stage, d)).2 := by
  induction n generalizing stage d with
  | zero => exact h
  | succ n ih => exact ih (pending_step h)

/-! ## What is left -/

/-- Removing the images touches no other file. -/
theorem file?_drop_uploads (hplace : place ∉ imagePlaces selection) :
    ((Stage.uploadsOf selection.images).drop d).file? place = d.file? place := by
  apply file?_drop_of_forall_ne
  rintro p hp rfl
  obtain ⟨image, himage, rfl⟩ := mem_uploads.mp hp
  exact hplace (mem_imagePlaces.mpr ⟨image, himage, rfl⟩)

/-- Removing the images and the output leaves the other files of the beginning. -/
theorem Holding.file?_drop {output : Path} {content : Bytes}
    (hholding : Holding d₀ d output content) (hplace : place ∉ imagePlaces selection) :
    (((Stage.uploadsOf selection.images).push output).drop d).file? place = d₀.file? place := by
  by_cases houtput : place = output.place
  · subst houtput
    have htracked : output ∈ ((Stage.uploadsOf selection.images).push output).paths :=
      List.mem_append_right _ (List.mem_singleton_self output)
    rw [file?_drop_of_reaches htracked hholding.reaches, hholding.fresh]
  · rw [file?_drop_of_forall_ne, hholding.files, if_neg houtput]
    intro p hp heq
    rcases List.mem_append.mp hp with hupload | hlast
    · obtain ⟨image, himage, rfl⟩ := mem_uploads.mp hupload
      exact hplace (mem_imagePlaces.mpr ⟨image, himage, heq⟩)
    · obtain rfl := List.mem_singleton.mp hlast
      exact houtput heq.symm

/-- Giving up between two operations leaves the files of the beginning. -/
theorem file?_abandon (h : Pending studio now selection d₀ stage d)
    (hresult : stage.result? = none) (hplace : place ∉ imagePlaces selection) :
    (abandon stage d).file? place = d₀.file? place := by
  cases stage with
  | received s =>
      obtain ⟨-, rfl⟩ := h
      rfl
  | opening p =>
      obtain ⟨himages, hgrows⟩ := h
      rw [abandon, Stage.owned, himages, file?_drop_uploads hplace, hgrows.files]
  | reserving p stem attempt =>
      obtain ⟨himages, -, hgrows⟩ := h
      rw [abandon, Stage.owned, himages, file?_drop_uploads hplace, hgrows.files]
  | checking job remaining =>
      obtain ⟨hjob, content, hholding⟩ := h
      rw [abandon, Stage.owned, hjob.owned, hholding.file?_drop hplace]
  | rendering job =>
      obtain ⟨hjob, content, hholding⟩ := h
      rw [abandon, Stage.owned, hjob.owned, hholding.file?_drop hplace]
  | finished result command => cases hresult

/-- What a reservation creates is not owned, so it is there whether it takes effect
before or after the removal. -/
theorem file?_afterOperation (h : Pending studio now selection d₀ stage d)
    (hresult : stage.result? = none) (hplace : place ∉ imagePlaces selection) :
    (abandon stage (operation studio stage d).2).file? place =
      if (operation studio stage d).1.map Path.place = some place then some []
      else d₀.file? place := by
  cases stage with
  | opening p =>
      obtain ⟨himages, hgrows⟩ := h
      rw [abandon, Stage.owned, himages, file?_drop_uploads hplace, file?_operation, hgrows.files]
  | reserving p stem attempt =>
      obtain ⟨himages, -, hgrows⟩ := h
      rw [abandon, Stage.owned, himages, file?_drop_uploads hplace, file?_operation, hgrows.files]
  | received | checking | rendering => exact file?_abandon h hresult hplace
  | finished result command => cases hresult

/-- **A reel that is given up.** After any number of steps, between two operations
and while the engine runs, giving it up leaves the files of the beginning. The same
holds while an operation is under way, whether it takes effect before or after the
removal, unless it reserves the output: the empty file that it creates then stays in
the output folder. (Images are the reel's own and are left out.) -/
theorem abandoned_files (studio : Studio) (engine : Engine.Command → Engine.Run) (now : Int)
    (selection : Selection) (d₀ : Disk) (n : Nat) (stage : Stage) (d : Disk)
    (hrun : advance studio engine now n (.received selection, d₀) = (stage, d))
    (hresult : stage.result? = none) (created : Option Path) (d' : Disk)
    (hgiven : GivenUp studio stage d created d') :
    (∀ place ∉ imagePlaces selection,
      d'.file? place =
        if created.map Path.place = some place then some [] else d₀.file? place) ∧
    ∀ path, created = some path →
      ∃ plan attempt, stage = .reserving plan (outputStem now) attempt ∧
        path.place = studio.settings.resolvedOutputFolder.place ++
          [candidateName (outputStem now) reelExtension attempt] ∧
        (path.place ∉ imagePlaces selection → d₀.file? path.place = none) := by
  have hpending : Pending studio now selection d₀ stage d := by
    have h : Pending studio now selection d₀
        (advance studio engine now n (.received selection, d₀)).1
        (advance studio engine now n (.received selection, d₀)).2 :=
      pending_advance n ⟨rfl, rfl⟩
    rw [hrun] at h
    exact h
  -- the disk that an operation finds has the files of the beginning but the images
  have hcreated (found : Disk)
      (hfound : ∀ place ∉ imagePlaces selection, found.file? place = d₀.file? place)
      (path : Path) (h : (operation studio stage found).1 = some path) :
      ∃ plan attempt, stage = .reserving plan (outputStem now) attempt ∧
        path.place = studio.settings.resolvedOutputFolder.place ++
          [candidateName (outputStem now) reelExtension attempt] ∧
        (path.place ∉ imagePlaces selection → d₀.file? path.place = none) := by
    obtain ⟨plan, stem, attempt, rfl, rfl, hcreate⟩ := operation_eq_some h
    obtain ⟨-, rfl, -⟩ := hpending
    refine ⟨plan, attempt, rfl, candidate_place _ now attempt, fun hplace => ?_⟩
    rw [← hfound _ hplace]
    exact file?_eq_none_of_entry?_eq_none (createNew_eq_ok hcreate).2.1
  cases hgiven with
  | between =>
      exact ⟨fun place hplace => file?_abandon hpending hresult hplace, nofun⟩
  | afterOperation =>
      refine ⟨fun place hplace => file?_afterOperation hpending hresult hplace, ?_⟩
      intro path h
      obtain ⟨plan, stem, attempt, rfl, -⟩ := operation_eq_some h
      exact hcreated d (fun place _ => hpending.2.2.files place) path h
  | beforeOperation =>
      have habandon (place : Place) (hplace : place ∉ imagePlaces selection) :=
        file?_abandon hpending hresult hplace
      refine ⟨fun place hplace => ?_, hcreated _ habandon⟩
      rw [file?_operation, habandon place hplace]
  | duringRun job written hstage =>
      subst hstage
      obtain ⟨hjob, content, hholding⟩ := hpending
      have hdelivered : Pending studio now selection d₀ (.rendering job) (deliver job written d) :=
        ⟨hjob, _, holding_deliver hholding written⟩
      exact ⟨fun place hplace => file?_abandon hdelivered hresult hplace, nofun⟩

/-- A reel of one upload after two steps: the reservation of its output is next. -/
def reservingOne : Stage × Disk :=
  advance smallStudio byteEngine 0 2 (.received oneUpload, smallDisk)

theorem abandoned_files_oneUpload :
    reservingOne.1.result? = none ∧
      (abandon reservingOne.1 (operation smallStudio reservingOne.1 reservingOne.2).2).file?
        ["public", "outputs", "output_0.mp4"] = some [] := by
  have hresult : reservingOne.1.result? = none := by decide +kernel
  have hcreated : (operation smallStudio reservingOne.1 reservingOne.2).1.map Path.place =
      some ["public", "outputs", "output_0.mp4"] := by
    decide +kernel
  have hleft := (abandoned_files smallStudio byteEngine 0 oneUpload smallDisk 2
    reservingOne.1 reservingOne.2 rfl hresult _ _ .afterOperation).1
    ["public", "outputs", "output_0.mp4"] (by decide +kernel)
  rw [if_pos hcreated] at hleft
  exact ⟨hresult, hleft⟩

/-- The same files are in a folder. -/
def SameFilesIn (folder : Place) (d d' : Disk) : Prop :=
  ∀ name, d'.file? (folder ++ [name]) = d.file? (folder ++ [name])

/-- **Giving up may leave an output file**, even where no image is in the output
folder. -/
theorem not_sameFilesIn_output :
    ¬∀ (studio : Studio) (engine : Engine.Command → Engine.Run) (now : Int)
        (selection : Selection) (d₀ : Disk) (n : Nat) (stage : Stage) (d : Disk)
        (created : Option Path) (d' : Disk),
      Outside studio selection →
      advance studio engine now n (.received selection, d₀) = (stage, d) →
      stage.result? = none → GivenUp studio stage d created d' →
      SameFilesIn studio.settings.resolvedOutputFolder.place d₀ d' := by
  intro h
  have hsame := h smallStudio byteEngine 0 oneUpload smallDisk 2 reservingOne.1 reservingOne.2
    _ _ outside_oneUpload rfl (by decide +kernel) .afterOperation "output_0.mp4"
  have hleft : (abandon reservingOne.1 (operation smallStudio reservingOne.1
      reservingOne.2).2).file? (smallStudio.settings.resolvedOutputFolder.place ++
        ["output_0.mp4"]) = some [] := by
    decide +kernel
  have hbefore : smallDisk.file? (smallStudio.settings.resolvedOutputFolder.place ++
      ["output_0.mp4"]) = none := by
    decide +kernel
  rw [hleft, hbefore] at hsame
  cases hsame

end VideoGreeting.Production
