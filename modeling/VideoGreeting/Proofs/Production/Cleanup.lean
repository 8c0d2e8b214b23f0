import VideoGreeting.Production
import VideoGreeting.Proofs.Disk.Files

/-!
# Cleaning up after a reel

Which files are left when the guards of a reel in the making are dropped: those
that were there at the beginning without the uploaded images, and with the
finished reel once it is released.

What is at the beginning is `d₀` throughout. An image counts as a file by the
place that its path spells. That a file there can be removed is asked of `d₀`
only, since folders are never removed.
-/

namespace VideoGreeting.Production

open Disk Text

/-! ## What is promised -/

/-- The places of the uploaded images. -/
def imagePlaces (selection : Selection) : List Place := selection.images.map (·.path.place)

/-- No uploaded image is in the output folder. -/
def Outside (studio : Studio) (selection : Selection) : Prop :=
  ∀ image ∈ selection.images, ∀ name,
    image.path.place ≠ studio.settings.resolvedOutputFolder.place ++ [name]

/-- `d'` has the files of `d₀` without the images, and its folders among others. -/
structure Cleaned (selection : Selection) (d₀ d' : Disk) : Prop where
  files : ∀ place,
    d'.file? place = if place ∈ imagePlaces selection then none else d₀.file? place
  folders : d₀.KeepsFolders d'

/-- `d'` has the files of `d₀` without the images and with the file of a reel, as
the engine left it. -/
structure Delivered (studio : Studio) (engine : Engine.Command → Engine.Run)
    (selection : Selection) (reel : Reel) (command : Engine.Command) (d₀ d' : Disk) :
    Prop where
  output : command.output = reel.path
  result : (engine command).result = some (.ok ())
  inFolder : ∃ name, reel.path.place = studio.settings.resolvedOutputFolder.place ++ [name]
  fresh : d₀.file? reel.path.place = none
  /-- No image may be the reel under another spelling. -/
  files :
    (∀ image ∈ selection.images,
      image.path.place = reel.path.place → image.path.same reel.path = true) →
    ∀ place, d'.file? place =
      if place = reel.path.place then some ((engine command).written.getD [])
      else if place ∈ imagePlaces selection then none
      else d₀.file? place
  others : ∀ place ∉ imagePlaces selection, ∀ content,
    d₀.file? place = some content → d'.file? place = some content
  folders : d₀.KeepsFolders d'

/-! ## While the output is held -/

/-- `d` has the files of `d₀` and one more, the output. -/
structure Holding (d₀ d : Disk) (output : Path) (content : Bytes) : Prop where
  fresh : d₀.file? output.place = none
  reaches : d.Reaches output
  files : ∀ place, d.file? place = if place = output.place then some content else d₀.file? place
  folders : d₀.KeepsFolders d

/-- More folders do not matter. -/
theorem Holding.grows {d₀ d d' : Disk} {output : Path} {content : Bytes}
    (h : Holding d₀ d output content) (hgrows : Grows d d') : Holding d₀ d' output content where
  fresh := h.fresh
  reaches := h.reaches.mono hgrows.folders
  files := fun place => (hgrows.files place).trans (h.files place)
  folders := h.folders.trans hgrows.folders

/-- A job for the selection: its output is a name in the output folder, and it
owns the images and the output. -/
structure IsJob (studio : Studio) (now : Int) (selection : Selection) (job : Job) : Prop where
  output : ∃ attempt, job.output =
    candidate studio.settings.resolvedOutputFolder (outputStem now) reelExtension attempt
  command : job.command.output = job.output
  owned : job.owned = (Stage.uploadsOf selection.images).push job.output

variable {studio : Studio} {engine : Engine.Command → Engine.Run} {now : Int}
  {selection : Selection} {d₀ d d' : Disk}

/-- Names of reels are names, in the output folder. -/
theorem candidate_place (folder : Path) (now : Int) (attempt : Nat) :
    (candidate folder (outputStem now) reelExtension attempt).place =
      folder.place ++ [candidateName (outputStem now) reelExtension attempt] := by
  have hnow : '/' ∉ (toString now).toList := by
    intro h
    exact absurd (Number.isNumeral_of_mem_int h) (by decide)
  have hattempt : '/' ∉ Nat.toDigits 10 attempt := by
    intro h
    exact absurd (Number.isNumeral_of_mem_toDigits h) (by decide)
  have hstem : (outputStem now).toList = 'o' :: ("utput_".toList ++ (toString now).toList) := by
    simp [outputStem]
  obtain ⟨rest, hrest, hslash⟩ : ∃ rest,
      (candidateName (outputStem now) reelExtension attempt).toList = 'o' :: rest ∧
        '/' ∉ rest := by
    unfold candidateName
    by_cases hfirst : attempt = 0
    · refine ⟨"utput_".toList ++ (toString now).toList ++ ".mp4".toList, ?_, ?_⟩
      · rw [if_pos hfirst]
        simp [hstem, reelExtension]
      · simpa using hnow
    · refine ⟨"utput_".toList ++ (toString now).toList ++ "-".toList ++
        (toString attempt).toList ++ ".mp4".toList, ?_, ?_⟩
      · rw [if_neg hfirst]
        simp [hstem, reelExtension]
      · simpa using ⟨hnow, hattempt⟩
  have hne (s : String) (hs : s.toList.head? ≠ some 'o') :
      candidateName (outputStem now) reelExtension attempt ≠ s := by
    rintro rfl
    rw [hrest] at hs
    exact hs rfl
  refine Path.place_join (hne _ (by simp)) (hne _ (by simp)) (hne _ (by simp)) ?_
  rw [hrest, List.mem_cons, not_or]
  exact ⟨by decide, hslash⟩

/-! ## Cleaning up -/

/-- Every image that is a file can be removed. -/
def Removable (selection : Selection) (d : Disk) : Prop :=
  ∀ image ∈ selection.images, d.file? image.path.place ≠ none →
    ∃ d', d.remove image.path = .ok d'

theorem mem_imagePlaces {place : Place} :
    place ∈ imagePlaces selection ↔ ∃ image ∈ selection.images, image.path.place = place :=
  List.mem_map

theorem mem_uploads {p : Path} :
    p ∈ (Stage.uploadsOf selection.images).paths ↔
      ∃ image ∈ selection.images, image.path = p :=
  List.mem_map

/-- An image that was a file at the beginning is reached as long as folders stay. -/
theorem reaches_image (hremove : Removable selection d₀) (hfolders : d₀.KeepsFolders d)
    {image : UploadedImage} (himage : image ∈ selection.images)
    (hfile : d₀.file? image.path.place ≠ none) : d.Reaches image.path := by
  obtain ⟨d', hd'⟩ := hremove image himage hfile
  exact (remove_eq_ok_iff.mp hd').1.mono hfolders

/-- Guards that track the images leave no file of the beginning at their places. -/
theorem file?_drop_image {g : Guard} (hremove : Removable selection d₀)
    (hfolders : d₀.KeepsFolders d) {place : Place} (hplace : place ∈ imagePlaces selection)
    (hsame : d.file? place = d₀.file? place)
    (htracked : ∀ image ∈ selection.images, image.path.place = place → image.path ∈ g.paths) :
    (g.drop d).file? place = none := by
  obtain ⟨image, himage, rfl⟩ := mem_imagePlaces.mp hplace
  by_cases hfile : d₀.file? image.path.place = none
  · exact file?_drop_of_none (hsame.trans hfile)
  · exact file?_drop_of_reaches (htracked image himage rfl)
      (reaches_image hremove hfolders himage hfile)

/-- **Dropping the images.** -/
theorem cleaned_uploads (hremove : Removable selection d₀) (hgrows : Grows d₀ d) :
    Cleaned selection d₀ ((Stage.uploadsOf selection.images).drop d) := by
  constructor
  · intro place
    by_cases hplace : place ∈ imagePlaces selection
    · rw [if_pos hplace]
      exact file?_drop_image hremove hgrows.folders hplace (hgrows.files place)
        fun image himage _ => mem_uploads.mpr ⟨image, himage, rfl⟩
    · rw [if_neg hplace, file?_drop_of_forall_ne, hgrows.files]
      rintro p hp rfl
      obtain ⟨image, himage, rfl⟩ := mem_uploads.mp hp
      exact hplace (mem_imagePlaces.mpr ⟨image, himage, rfl⟩)
  · exact hgrows.folders.trans (keepsFolders_drop _ d)

/-- **Dropping the images and the output.** -/
theorem cleaned_owned {output : Path} {content : Bytes} (hremove : Removable selection d₀)
    (hholding : Holding d₀ d output content) :
    Cleaned selection d₀ (((Stage.uploadsOf selection.images).push output).drop d) := by
  have hpaths : ((Stage.uploadsOf selection.images).push output).paths =
      (Stage.uploadsOf selection.images).paths ++ [output] := rfl
  constructor
  · intro place
    by_cases houtput : place = output.place
    · -- the output is removed, and it was no file at the beginning
      subst houtput
      rw [file?_drop_of_reaches (by simp [hpaths]) hholding.reaches, hholding.fresh, ite_self]
    · have hsame : d.file? place = d₀.file? place := by
        rw [hholding.files, if_neg houtput]
      by_cases hplace : place ∈ imagePlaces selection
      · rw [if_pos hplace]
        refine file?_drop_image hremove hholding.folders hplace hsame fun image himage _ => ?_
        rw [hpaths]
        exact List.mem_append_left _ (mem_uploads.mpr ⟨image, himage, rfl⟩)
      · rw [if_neg hplace, file?_drop_of_forall_ne, hsame]
        rintro p hp rfl
        rw [hpaths, List.mem_append, List.mem_singleton] at hp
        rcases hp with hp | rfl
        · obtain ⟨image, himage, rfl⟩ := mem_uploads.mp hp
          exact hplace (mem_imagePlaces.mpr ⟨image, himage, rfl⟩)
        · exact houtput rfl
  · exact hholding.folders.trans (keepsFolders_drop _ d)

/-- **Releasing the output.** What is dropped then are the images only; the
output stays unless it is an image under another spelling. -/
theorem delivered_released {job : Job} {content : Bytes} (hremove : Removable selection d₀)
    (hjob : IsJob studio now selection job) (hholding : Holding d₀ d job.output content)
    (hresult : (engine job.command).result = some (.ok ()))
    (hcontent : content = (engine job.command).written.getD []) :
    Delivered studio engine selection (.of studio.settings job.output) job.command d₀
      ((job.owned.release job.output).drop d) := by
  have hpaths (p : Path) : p ∈ (job.owned.release job.output).paths →
      p ∈ (Stage.uploadsOf selection.images).paths ∧ p.same job.output = false := by
    intro hp
    obtain ⟨hin, hother⟩ := List.mem_filter.mp hp
    rw [hjob.owned] at hin
    rcases List.mem_append.mp hin with himage | houtput
    · exact ⟨himage, by simpa using hother⟩
    · rw [List.mem_singleton.mp houtput] at hother
      simp [Path.same] at hother
  have hkept {place : Place} (hplace : place ∉ imagePlaces selection) :
      ((job.owned.release job.output).drop d).file? place = d.file? place := by
    apply file?_drop_of_forall_ne
    rintro p hp rfl
    obtain ⟨image, himage, rfl⟩ := mem_uploads.mp (hpaths p hp).1
    exact hplace (mem_imagePlaces.mpr ⟨image, himage, rfl⟩)
  obtain ⟨attempt, hattempt⟩ := hjob.output
  refine
    { output := hjob.command
      result := hresult
      inFolder := ⟨_, by rw [Reel.of, hattempt]; exact candidate_place _ now attempt⟩
      fresh := hholding.fresh
      files := ?_
      others := ?_
      folders := hholding.folders.trans (keepsFolders_drop _ d) }
  · intro halias place
    show _ = if place = job.output.place then _ else _
    by_cases houtput : place = job.output.place
    · subst houtput
      rw [if_pos rfl, file?_drop_of_forall_ne, hholding.files, if_pos rfl, hcontent]
      intro p hp hplace
      obtain ⟨hupload, hother⟩ := hpaths p hp
      obtain ⟨image, himage, rfl⟩ := mem_uploads.mp hupload
      exact absurd (halias image himage hplace) (by simp [Reel.of, hother])
    · have hsame : d.file? place = d₀.file? place := by
        rw [hholding.files, if_neg houtput]
      rw [if_neg houtput]
      by_cases hplace : place ∈ imagePlaces selection
      · rw [if_pos hplace]
        refine file?_drop_image hremove hholding.folders hplace hsame
          fun image himage heq => ?_
        -- an image that is the same as the output spells its place
        have hother : image.path.same job.output = false := by
          rw [Bool.eq_false_iff]
          intro hsamePath
          exact houtput (heq.symm.trans (Path.place_eq_of_same hsamePath))
        refine List.mem_filter.mpr ⟨?_, by simp [hother]⟩
        rw [hjob.owned]
        exact List.mem_append_left _ (mem_uploads.mpr ⟨image, himage, rfl⟩)
      · rw [if_neg hplace, hkept hplace, hsame]
  · intro place hplace content hfile
    have houtput : place ≠ job.output.place := by
      rintro rfl
      rw [hholding.fresh] at hfile
      cases hfile
    rw [hkept hplace, hholding.files, if_neg houtput, hfile]

end VideoGreeting.Production
