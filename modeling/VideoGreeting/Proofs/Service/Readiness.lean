import VideoGreeting.Proofs.Disk.Growth
import VideoGreeting.Proofs.Production.Lifecycle
import VideoGreeting.Proofs.Production.Outcome
import VideoGreeting.Service.Readiness

/-!
# What the check for assets is good for

Readiness is told from a list of all assets of the catalog, and a reel asks for the
files that its own selection leads to. `mem_expected_of_mem_neededFiles` says that the
second are on the first list, the customer's images apart. Between the check and the
engine folders are made and files reserved, by the probe of the output folder and by the
reel itself, and none of that takes an asset away. So a service that has its assets
lacks nothing but an image of the customer's. Main theorem: `missing_file_is_image`.
-/

namespace VideoGreeting

open Disk

/-! ## The list of assets -/

namespace Assets

variable {assets : Assets} {catalog : Catalog} {d d' : Disk}

theorem missing_eq_nil_iff :
    assets.missing catalog d = [] ↔ ∀ p ∈ assets.expected catalog, d.holds p = true := by
  simp [missing, List.filter_eq_nil_iff]

theorem missing_mono (hkeep : d.Keeps d') (h : assets.missing catalog d = []) :
    assets.missing catalog d' = [] := by
  rw [missing_eq_nil_iff] at h ⊢
  exact fun p hp => holds_mono hkeep (h p hp)

variable {name : String}

theorem background_mem_expected (h : catalog.hasBackground name = true) :
    assets.background name ∈ assets.expected catalog := by
  have hname : name ∈ catalog.backgrounds := by simpa [Catalog.hasBackground] using h
  exact List.mem_append_left _ (List.mem_append_left _ (List.mem_map_of_mem hname))

theorem song_mem_expected (h : catalog.hasSong name = true) :
    assets.song name ∈ assets.expected catalog := by
  have hname : name ∈ catalog.songs := by simpa [Catalog.hasSong] using h
  exact List.mem_append_left _ (List.mem_append_right _ (List.mem_map_of_mem hname))

theorem auxiliaryImage_mem_expected : assets.auxiliaryImage ∈ assets.expected catalog := by
  simp [expected]

end Assets

namespace Production

variable {studio : Studio} {engine : Engine.Command → Engine.Run} {now : Int}
  {selection : Selection} {d d' : Disk} {r : Resolved} {file : Path}

/-! ## What a reel asks for -/

/-- **A reel asks for assets of the catalog and for the customer's images.** -/
theorem mem_expected_of_mem_neededFiles {catalog : Catalog} {assets : Assets} {maxClips : Nat}
    {s : Settings} (hresolve : selection.resolve catalog assets maxClips = .ok r)
    (hfile : file ∈ neededFiles r s) :
    file ∈ assets.expected catalog ∨ file ∈ selection.images.map (·.path) := by
  obtain ⟨-, -, hnames, rfl⟩ := Selection.resolve_eq_ok_iff.mp hresolve
  obtain ⟨hsong, hbackground⟩ := Selection.checkNames_eq_ok_iff.mp hnames
  rw [neededFiles, List.cons_append, List.mem_cons, List.mem_append, List.mem_cons] at hfile
  rcases hfile with rfl | himage | rfl | hauxiliary
  · exact .inl (Assets.background_mem_expected hbackground)
  · exact .inr himage
  · exact .inl (Assets.song_mem_expected hsong)
  · rw [List.mem_ite_nil_right, List.mem_singleton] at hauxiliary
    rw [hauxiliary.2]
    exact .inl Assets.auxiliaryImage_mem_expected

theorem keeps_openFolder {folder : Path} (h : openFolder d folder = .ok d') : d.Keeps d' := by
  have hgrows := grows_ensureFolder d folder
  unfold openFolder at h
  split at h
  next hensure =>
    rw [hensure] at hgrows
    rw [← Except.ok.inj h]
    exact hgrows.keeps
  next => cases h

/-- What is found missing when a reel asks for it was missing before. -/
theorem of_prepare_eq_fileMissing {s : Settings}
    (h : prepare s now d r = .error (.fileMissing file)) :
    file ∈ neededFiles r s ∧ d.holds file = false := by
  obtain ⟨reason, hreason⟩ | ⟨fault, hfault⟩ |
    ⟨d₁, path, d₂, missing, hfolder, hreserve, hfirst, hmissing⟩ := failure_of_prepare h
  · cases hreason
  · cases hfault
  · cases hmissing
    -- the folder and the output were made in between
    have hkeep : d.Keeps d₂ := (keeps_openFolder hfolder).trans
      (keeps_createNew (of_reserveFrom_eq_ok hreserve).2)
    have hnot : d₂.holds file = false := by simpa using List.find?_some hfirst
    refine ⟨List.mem_of_find?_eq_some hfirst, ?_⟩
    by_contra hheld
    rw [holds_mono hkeep (by simpa using hheld)] at hnot
    cases hnot

/-- An engine that does not report a missing file by itself. -/
def FindsFiles (engine : Engine.Command → Engine.Run) : Prop :=
  ∀ command file, (engine command).result ≠ some (.error (.fileMissing file))

/-- A reel fails for a missing file only if one that it asks for was not there. -/
theorem of_make_eq_fileMissing (hengine : FindsFiles engine)
    (h : (make studio engine now d selection).1.result? = some (.error (.fileMissing file))) :
    ∃ r, selection.resolve studio.catalog studio.assets studio.settings.maxClips = .ok r ∧
      file ∈ neededFiles r studio.settings ∧ d.holds file = false := by
  have hmake : (make studio engine now d selection).1 =
      conclude studio.settings engine (jobOf studio now d selection) :=
    (make_endsWith studio engine now d selection).leads
  rw [hmake] at h
  rcases hjob : jobOf studio now d selection with failure | job
  · rw [hjob] at h
    cases h
    simp only [jobOf, bind_eq_error, mapError_eq_error, mapError_eq_ok] at hjob
    obtain ⟨reason, -, hreason⟩ | ⟨r, hresolve, hprepare⟩ := hjob
    · cases hreason
    · exact ⟨r, hresolve, of_prepare_eq_fileMissing hprepare⟩
  · rw [hjob, conclude] at h
    split at h
    next => cases h
    next => cases h
    next failure hresult =>
      cases h
      exact absurd hresult (hengine job.command file)

end Production

namespace Service

/-! ## What the probe of the output folder leaves -/

/-- **The probe leaves nothing but the folder.** The file that was reserved is the one that
is removed. -/
theorem disk_probe (folder : Path) (d : Disk) :
    (Readiness.probe folder d).2 = (d.ensureFolder folder).2 := by
  unfold Readiness.probe
  split
  next hensure => rw [hensure]
  next d' hensure =>
    rw [hensure]
    split
    next => rfl
    next hreserve => exact discard_of_createNew (of_reserveFrom_eq_ok hreserve).2

theorem keeps_probe (folder : Path) (d : Disk) : d.Keeps (Readiness.probe folder d).2 := by
  rw [disk_probe]
  exact (grows_ensureFolder d folder).keeps

/-- The check is passed if no asset is missing. -/
theorem isOk_assetCheck {missing : List Path} :
    (Readiness.assetCheck missing).isOk = true ↔ missing = [] := by
  unfold Readiness.assetCheck
  cases missing with
  | nil => simp [Check.isOk]
  | cons file missing => simp [Check.isOk]

theorem isOk_assets_examine (studio : Studio) (engineFound : Bool) {d : Disk}
    (h : studio.assets.missing studio.catalog d = []) :
    (Readiness.examine studio engineFound d).1.assets.isOk = true :=
  isOk_assetCheck.mpr (Assets.missing_mono (keeps_probe studio.settings.resolvedOutputFolder d) h)

/-- **With all assets there, only an image of the customer's can be missing.** Then the
check for assets is passed. Every file that the engine of an accepted selection reads is
an asset that was looked for or an image, and a reel that fails for a missing file fails
for an image. -/
theorem missing_file_is_image (studio : Studio) (engine : Engine.Command → Engine.Run)
    (now : Int) (d : Disk) (selection : Selection)
    (hassets : studio.assets.missing studio.catalog d = [])
    (hengine : Production.FindsFiles engine) :
    (∀ engineFound, (Readiness.examine studio engineFound d).1.assets.isOk = true) ∧
    (∀ r graph output,
      selection.resolve studio.catalog studio.assets studio.settings.maxClips = .ok r →
      ∀ file ∈ (Job.of r graph studio.settings output).inputFiles,
        file ∈ studio.assets.expected studio.catalog ∨
          file ∈ selection.images.map (·.path)) ∧
    ∀ file, (Production.make studio engine now d selection).1.result? =
        some (.error (.fileMissing file)) →
      file ∈ selection.images.map (·.path) := by
  refine ⟨fun engineFound => isOk_assets_examine studio engineFound hassets, ?_, ?_⟩
  · intro r graph output hresolve file hfile
    rw [Job.inputFiles_of] at hfile
    exact Production.mem_expected_of_mem_neededFiles hresolve hfile
  · intro file hmissing
    obtain ⟨r, hresolve, hneeded, hnot⟩ := Production.of_make_eq_fileMissing hengine hmissing
    rcases Production.mem_expected_of_mem_neededFiles hresolve hneeded with hasset | himage
    · rw [Assets.missing_eq_nil_iff.mp hassets file hasset] at hnot
      cases hnot
    · exact himage

open Production (FindsFiles byteEngine make oneUpload smallDisk smallStudio)

/-- A disk with all assets and the customer's image, and a selection with one image more
that was never stored. -/
def stockedDisk : Disk := smallDisk.insert ["public", "ktav.otf"] (.file [6])

def lostUpload : Selection :=
  { oneUpload with images := oneUpload.images ++ [⟨⟨"uploads/2"⟩, "you.jpg"⟩] }

theorem missing_file_is_image_lostUpload :
    smallStudio.assets.missing smallStudio.catalog stockedDisk = [] ∧ FindsFiles byteEngine ∧
      (make smallStudio byteEngine 0 stockedDisk lostUpload).1.result? =
        some (.error (.fileMissing ⟨"uploads/2"⟩)) ∧
      ⟨"uploads/2"⟩ ∈ lostUpload.images.map (·.path) := by
  have hassets : smallStudio.assets.missing smallStudio.catalog stockedDisk = [] := by
    decide +kernel
  have hengine : FindsFiles byteEngine := fun _ _ => nofun
  have hmissing : (make smallStudio byteEngine 0 stockedDisk lostUpload).1.result? =
      some (.error (.fileMissing ⟨"uploads/2"⟩)) := by
    decide +kernel
  exact ⟨hassets, hengine, hmissing,
    (missing_file_is_image smallStudio byteEngine 0 stockedDisk lostUpload hassets hengine).2.2
      _ hmissing⟩

end Service

end VideoGreeting
