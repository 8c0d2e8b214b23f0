import Mathlib.Logic.Function.Basic
import VideoGreeting.Proofs.Production.Lifecycle

/-!
# Reels made at the same time

Any number of selections are made into reels on one disk, taking turns in any
order. Names of reels come from a clock that several of them may read at the same
instant, a name that one gives back may be tried again by another, and a failure
removes files by their paths.

What keeps them apart is that a reel owns its output from the moment in which the
file is created where there was nothing: `Orderly` says so for all of them,
`proceeds_step` is what one step may do, `orderly_run` is the run. Main theorem:
`outputs_apart`.
-/

namespace VideoGreeting.Production

open Disk Text

/-! ## Taking turns -/

/-- The output that a stage holds or, if the reel is finished, has given out. -/
def Stage.output? : Stage → Option Path
  | checking job _ | rendering job => some job.output
  | finished (.ok reel) _ => some reel.path
  | _ => none

/-- The reel of a stage that is finished with one. -/
def Stage.reel? : Stage → Option Reel
  | finished (.ok reel) _ => some reel
  | _ => none

/-- Reels in the making on one disk. Those that were given up have no stage. -/
structure Floor (ι : Type*) where
  stages : ι → Option Stage
  disk : Disk

/-- What happens next: a reel takes one step, for which the engine and the clock are
as they are at that moment, or it is given up. An engine that writes without coming to
an end is asked again in a later turn. -/
inductive Turn (ι : Type*) where
  | step (i : ι) (engine : Engine.Command → Engine.Run) (now : Int)
  | giveUp (i : ι)

namespace Floor

variable {ι : Type*}

/-- Nothing was done with any of the selections yet. -/
def start (selections : ι → Selection) (d : Disk) : Floor ι where
  stages i := some (.received (selections i))
  disk := d

/-- The output that a reel holds or has given out. -/
def output? (f : Floor ι) (i : ι) : Option Path := (f.stages i).bind Stage.output?

/-- The reel that was made of a selection, once it is finished. -/
def reel? (f : Floor ι) (i : ι) : Option Reel := (f.stages i).bind Stage.reel?

theorem output?_of_reel? {f : Floor ι} {i : ι} {reel : Reel} (h : f.reel? i = some reel) :
    f.output? i = some reel.path := by
  obtain ⟨stage, hstage, hreel⟩ := Option.bind_eq_some_iff.mp h
  rw [output?, hstage]
  cases stage with
  | finished result command =>
      cases result with
      | error failure => cases hreel
      | ok made =>
          cases hreel
          rfl
  | received | opening | reserving | checking | rendering => cases hreel

variable [DecidableEq ι]

/-- The floor with another stage of one reel, and another disk. -/
def put (f : Floor ι) (i : ι) (stage : Option Stage) (d : Disk) : Floor ι where
  stages := Function.update f.stages i stage
  disk := d

/-- One turn. A reel that is finished cannot be given up any more. -/
def take (studio : Studio) (f : Floor ι) : Turn ι → Floor ι
  | .step i engine now =>
    match f.stages i with
    | some stage =>
      let next := step studio engine now f.disk stage
      f.put i (some next.1) next.2
    | none => f
  | .giveUp i =>
    match f.stages i with
    | some stage =>
      if stage.result?.isSome then f
      else f.put i none (abandon stage f.disk)
    | none => f

def run (studio : Studio) (f : Floor ι) (turns : List (Turn ι)) : Floor ι :=
  turns.foldl (take studio) f

section Put

variable {f : Floor ι} {i j : ι} {stage : Option Stage} {d : Disk}

@[simp] theorem stages_put_self : (f.put i stage d).stages i = stage := by
  simp [put]

theorem stages_put_of_ne (h : j ≠ i) : (f.put i stage d).stages j = f.stages j := by
  simp [put, h]

@[simp] theorem output?_put_self : (f.put i stage d).output? i = stage.bind Stage.output? := by
  rw [output?, stages_put_self]

theorem output?_put_of_ne (h : j ≠ i) : (f.put i stage d).output? j = f.output? j := by
  rw [output?, stages_put_of_ne h, output?]

theorem reel?_put_of_ne (h : j ≠ i) : (f.put i stage d).reel? j = f.reel? j := by
  rw [reel?, stages_put_of_ne h, reel?]

theorem put_self (h : f.stages i = stage) : f.put i stage f.disk = f := by
  rw [put, ← h, Function.update_eq_self]

end Put

end Floor

/-! ## What one reel does to the disk -/

/-- A file that stands in the output folder. -/
structure Stands (studio : Studio) (d : Disk) (p : Path) : Prop where
  inFolder : ∃ name, p.place = studio.settings.resolvedOutputFolder.place ++ [name]
  reaches : d.Reaches p
  isFile : d.file? p.place ≠ none

/-- A stage is one of the selection: it owns its images, and what it holds besides is
a name in the output folder. -/
def Fits (studio : Studio) (selection : Selection) : Stage → Prop
  | .received s => s = selection
  | .opening plan => plan.resolved.images = selection.images
  | .reserving plan stem _ =>
    plan.resolved.images = selection.images ∧ ∃ now, stem = outputStem now
  | .checking job _ | .rendering job => ∃ now, IsJob studio now selection job
  | .finished _ _ => True

/-- `d'` has the folders of `d`, and its files apart from the images and `mine`. -/
structure Spares (selection : Selection) (mine : Option Path) (d d' : Disk) : Prop where
  folders : d.KeepsFolders d'
  files : ∀ place ∉ imagePlaces selection, (∀ p ∈ mine, p.place ≠ place) →
    ∀ content, d.file? place = some content → d'.file? place = some content

/-- What becomes of a stage and the disk in one turn. The output is the one that was
held before, or it is new. -/
structure Proceeds (studio : Studio) (selection : Selection) (stage : Stage) (d : Disk)
    (stage' : Option Stage) (d' : Disk) : Prop where
  fits : ∀ s ∈ stage', Fits studio selection s
  spares : Spares selection stage.output? d d'
  output : ∀ p ∈ stage'.bind Stage.output?,
    (stage.output? = some p ∨ d.file? p.place = none) ∧ Stands studio d' p

variable {studio : Studio} {engine : Engine.Command → Engine.Run} {now : Int}
  {selection : Selection} {stage : Stage} {mine : Option Path} {d d' d'' : Disk}

/-- A file in the output folder is no image. -/
theorem Stands.place_notMem {p : Path} (h : Stands studio d p) (houtside : Outside studio selection) :
    p.place ∉ imagePlaces selection := by
  intro hmem
  obtain ⟨image, himage, hplace⟩ := mem_imagePlaces.mp hmem
  obtain ⟨name, hname⟩ := h.inFolder
  exact houtside image himage name (hplace.trans hname)

/-- It stands as long as it is spared. -/
theorem Stands.spared {p : Path} (h : Stands studio d p) (houtside : Outside studio selection)
    (hspares : Spares selection mine d d') (hmine : ∀ q ∈ mine, q.place ≠ p.place) :
    Stands studio d' p ∧ d'.file? p.place = d.file? p.place := by
  obtain ⟨content, hcontent⟩ := Option.ne_none_iff_exists'.mp h.isFile
  have hkept := hspares.files p.place (h.place_notMem houtside) hmine content hcontent
  refine ⟨⟨h.inFolder, h.reaches.mono hspares.folders, ?_⟩, hkept.trans hcontent.symm⟩
  rw [hkept]
  exact Option.some_ne_none content

namespace Spares

theorem of_grows (h : Grows d d') : Spares selection mine d d' where
  folders := h.folders
  files place _ _ content hfile := by rw [h.files, hfile]

theorem trans (h : Spares selection mine d d') (h' : Spares selection mine d' d'') :
    Spares selection mine d d'' where
  folders := h.folders.trans h'.folders
  files place himage hmine content hfile :=
    h'.files place himage hmine content (h.files place himage hmine content hfile)

/-- A guard that tracks only images and what is its own spares everything else. -/
theorem of_drop {g : Guard}
    (h : ∀ p ∈ g.paths, p.place ∈ imagePlaces selection ∨ p ∈ mine) :
    Spares selection mine d (g.drop d) where
  folders := keepsFolders_drop g d
  files place himage hmine content hfile := by
    rw [file?_drop_of_forall_ne, hfile]
    rintro p hp rfl
    rcases h p hp with hin | hown
    · exact himage hin
    · exact hmine p hown rfl

end Spares

theorem place_mem_of_mem_uploads {p : Path} (h : p ∈ (Stage.uploadsOf selection.images).paths) :
    p.place ∈ imagePlaces selection := by
  obtain ⟨image, himage, rfl⟩ := mem_uploads.mp h
  exact mem_imagePlaces.mpr ⟨image, himage, rfl⟩

theorem IsJob.mem_owned {job : Job} (hjob : IsJob studio now selection job) {p : Path}
    (h : p ∈ job.owned.paths) : p.place ∈ imagePlaces selection ∨ p = job.output := by
  rw [hjob.owned] at h
  rcases List.mem_append.mp h with hupload | houtput
  · exact .inl (place_mem_of_mem_uploads hupload)
  · exact .inr (List.mem_singleton.mp houtput)

/-- Whatever a stage owns, others do not. -/
theorem spares_owned (hfits : Fits studio selection stage) (d : Disk) :
    Spares selection stage.output? d (stage.owned.drop d) := by
  cases stage with
  | received s => exact .of_grows (.refl d)
  | opening p =>
      have himages : p.resolved.images = selection.images := hfits
      rw [Stage.owned, himages]
      exact .of_drop fun p hp => .inl (place_mem_of_mem_uploads hp)
  | reserving p stem attempt =>
      rw [Stage.owned, hfits.1]
      exact .of_drop fun p hp => .inl (place_mem_of_mem_uploads hp)
  | checking job remaining =>
      obtain ⟨now, hjob⟩ := hfits
      exact .of_drop fun p hp => (hjob.mem_owned hp).imp_right fun h => by rw [h]; rfl
  | rendering job =>
      obtain ⟨now, hjob⟩ := hfits
      exact .of_drop fun p hp => (hjob.mem_owned hp).imp_right fun h => by rw [h]; rfl
  | finished result command => exact .of_grows (.refl d)

theorem spares_released {job : Job} (hjob : IsJob studio now selection job) (d : Disk) :
    Spares selection none d ((job.owned.release job.output).drop d) := by
  refine .of_drop fun p hp => .inl ?_
  obtain ⟨hin, hother⟩ := List.mem_filter.mp hp
  refine (hjob.mem_owned hin).resolve_right ?_
  rintro rfl
  simp [Path.same] at hother

/-- What the engine writes goes to the output. -/
theorem spares_deliver (selection : Selection) {job : Job} (h : Stands studio d job.output)
    (written : Option Bytes) :
    Spares selection (some job.output) d (deliver job written d) ∧
      Stands studio (deliver job written d) job.output := by
  cases written with
  | none => exact ⟨.of_grows (.refl d), h⟩
  | some new =>
      have hwrite := write_eq_ok h.reaches h.isFile new
      have hfolders := keepsFolders_write hwrite
      have hfiles := file?_write hwrite
      rw [deliver, hwrite]
      refine ⟨⟨hfolders, ?_⟩, h.inFolder, h.reaches.mono hfolders, ?_⟩
      · intro place _ hmine content hfile
        show (d.insert _ _).file? place = _
        rw [hfiles, if_neg (Ne.symm (hmine _ rfl)), hfile]
      · show (d.insert _ _).file? job.output.place ≠ none
        rw [hfiles, if_pos rfl]
        exact Option.some_ne_none new

/-- A file that is created is new, and no other file is touched. -/
theorem spares_createNew (selection : Selection) (mine : Option Path) {p : Path} {name : String}
    (hname : p.place = studio.settings.resolvedOutputFolder.place ++ [name])
    (hcreate : d.createNew p = .ok d') :
    d.file? p.place = none ∧ Spares selection mine d d' ∧ Stands studio d' p := by
  have hholding := holding_of_createNew (.refl d) hcreate
  refine ⟨hholding.fresh, ⟨hholding.folders, ?_⟩, ⟨name, hname⟩, hholding.reaches, ?_⟩
  · intro place _ _ content hfile
    rw [hholding.files, if_neg, hfile]
    rintro rfl
    rw [hholding.fresh] at hfile
    cases hfile
  · rw [hholding.files, if_pos rfl]
    exact Option.some_ne_none []

/-! ## What becomes of one reel -/

namespace Proceeds

variable {next : Stage}

/-- Folders are made at most, and no output is held yet. -/
theorem of_grows (hfits : Fits studio selection next) (houtput : next.output? = none)
    (hgrows : Grows d d') : Proceeds studio selection stage d (some next) d' where
  fits s hs := by
    cases hs
    exact hfits
  spares := .of_grows hgrows
  output p hp := by
    rw [Option.bind_some, houtput] at hp
    cases hp

theorem of_spares (hfits : Fits studio selection next) (houtput : next.output? = stage.output?)
    (hspares : Spares selection stage.output? d d')
    (hstands : ∀ p ∈ stage.output?, Stands studio d' p) :
    Proceeds studio selection stage d (some next) d' where
  fits s hs := by
    cases hs
    exact hfits
  spares := hspares
  output p hp := by
    rw [Option.bind_some, houtput] at hp
    exact ⟨.inl hp, hstands p hp⟩

/-- A failure takes with it what the stage owned, and holds no output. -/
theorem of_fail {owned : Guard} {failure : Failure} {command : Option Engine.Command}
    (h : Spares selection stage.output? d (owned.drop d')) :
    Proceeds studio selection stage d (some (fail owned failure command d').1)
      (fail owned failure command d').2 where
  fits s hs := by
    cases hs
    trivial
  spares := h
  output p hp := by cases hp

end Proceeds

/-- **One step.** -/
theorem proceeds_step (engine : Engine.Command → Engine.Run) (now : Int)
    (houtside : Outside studio selection) (hfits : Fits studio selection stage)
    (hstands : ∀ p ∈ stage.output?, Stands studio d p) :
    Proceeds studio selection stage d (some (step studio engine now d stage).1)
      (step studio engine now d stage).2 := by
  cases stage with
  | received s =>
      obtain rfl : s = selection := hfits
      unfold step
      dsimp only
      split
      next p hplan => exact .of_grows (plan_images hplan) rfl (.refl d)
      next => exact .of_fail (.of_drop fun p hp => .inl (place_mem_of_mem_uploads hp))
  | opening p =>
      have himages : p.resolved.images = selection.images := hfits
      have hgrows := grows_ensureFolder d studio.settings.resolvedOutputFolder
      unfold step
      dsimp only
      split
      next d' hok =>
        rw [hok] at hgrows
        exact .of_grows ⟨himages, now, rfl⟩ rfl hgrows
      next fault d' herror =>
        rw [herror] at hgrows
        exact .of_fail ((Spares.of_grows hgrows).trans (spares_owned hfits d'))
  | reserving p stem attempt =>
      have hreserving := hfits
      obtain ⟨himages, started, rfl⟩ := hfits
      unfold step
      dsimp only
      split
      next =>
        split
        next path d' hreserved =>
          obtain ⟨hpath, hcreate⟩ := tryReserve_eq_reserved hreserved
          obtain ⟨hfresh, hspares, hstands⟩ := spares_createNew selection none
            (by rw [hpath]; exact candidate_place _ started attempt) hcreate
          refine ⟨?_, hspares, ?_⟩
          · rintro _ ⟨⟩
            refine ⟨started, ⟨attempt, hpath⟩, Job.commandOf_output _ _ _ _, ?_⟩
            show (Stage.uploadsOf p.resolved.images).push path = _
            rw [himages]
            rfl
          · -- nothing lay where the output is now
            rintro _ ⟨⟩
            exact ⟨.inr hfresh, hstands⟩
        next => exact .of_grows hreserving rfl (.refl d)
        next => exact .of_fail (spares_owned hreserving d)
      next => exact .of_fail (spares_owned hreserving d)
  | checking job remaining =>
      cases remaining with
      | nil => exact .of_spares hfits rfl (.of_grows (.refl d)) hstands
      | cons path rest =>
          unfold step
          dsimp only
          split
          next => exact .of_spares hfits rfl (.of_grows (.refl d)) hstands
          next => exact .of_fail (spares_owned hfits d)
  | rendering job =>
      obtain ⟨hspares, hafter⟩ := spares_deliver selection (hstands job.output rfl)
        (engine job.command).written
      unfold step
      dsimp only
      split
      next =>
        refine .of_spares hfits rfl hspares ?_
        rintro _ ⟨⟩
        exact hafter
      next =>
        obtain ⟨started, hjob⟩ := hfits
        have hdropped := spares_released hjob (deliver job (engine job.command).written d)
        refine .of_spares trivial rfl (hspares.trans ⟨hdropped.folders, ?_⟩) ?_
        · exact fun place himage _ => hdropped.files place himage nofun
        · -- the images are elsewhere, so the output stands after they are dropped
          rintro _ ⟨⟩
          exact (hafter.spared houtside hdropped nofun).1
      next => exact .of_fail (hspares.trans (spares_owned hfits _))
  | finished result command =>
      exact .of_spares trivial rfl (.of_grows (.refl d)) hstands

/-- **Giving up.** -/
theorem proceeds_abandon (hfits : Fits studio selection stage) :
    Proceeds studio selection stage d none (abandon stage d) where
  fits s hs := by cases hs
  spares := spares_owned hfits d
  output p hp := by cases hp

/-! ## What all reels do together -/

section Floor

variable {ι : Type*} {selections : ι → Selection} {f : Floor ι}

/-- Every output stands in the output folder, and no two reels have the same. -/
structure Orderly (studio : Studio) (selections : ι → Selection) (f : Floor ι) : Prop where
  fits : ∀ i stage, f.stages i = some stage → Fits studio (selections i) stage
  stands : ∀ i, ∀ p ∈ f.output? i, Stands studio f.disk p
  apart : ∀ i j, i ≠ j → ∀ p ∈ f.output? i, ∀ q ∈ f.output? j, p.place ≠ q.place

theorem orderly_start (studio : Studio) (selections : ι → Selection) (d : Disk) :
    Orderly studio selections (.start selections d) where
  fits i stage hstage := by
    cases hstage
    rfl
  stands i p hp := by cases hp
  apart i j _ p hp := by cases hp

/-- Another reel's output is spared when one proceeds. -/
theorem stands_of_proceeds (h : Orderly studio selections f)
    (hstays : ∀ i, Outside studio (selections i)) {i j : ι} (hother : j ≠ i)
    {stage' : Option Stage} (hstage : f.stages i = some stage)
    (hproceeds : Proceeds studio (selections i) stage f.disk stage' d') {p : Path}
    (hp : p ∈ f.output? j) :
    Stands studio d' p ∧ d'.file? p.place = f.disk.file? p.place := by
  refine (h.stands j p hp).spared (hstays i) hproceeds.spares fun q hq => ?_
  exact h.apart i j hother.symm q (by rw [Floor.output?, hstage]; exact hq) p hp

variable [DecidableEq ι]

/-- A turn of a reel changes its stage and proceeds from it; a reel that is finished or
given up has no more turns. -/
theorem take_cases (h : Orderly studio selections f) (hstays : ∀ i, Outside studio (selections i))
    (turn : Turn ι) :
    f.take studio turn = f ∨
      ∃ i stage stage' d', f.stages i = some stage ∧ stage.result? = none ∧
        f.take studio turn = f.put i stage' d' ∧
        Proceeds studio (selections i) stage f.disk stage' d' := by
  have hstands {i : ι} {stage : Stage} (hstage : f.stages i = some stage) :
      ∀ p ∈ stage.output?, Stands studio f.disk p := by
    intro p hp
    exact h.stands i p (by rw [Floor.output?, hstage]; exact hp)
  cases turn with
  | step i engine now =>
      rcases hstage : f.stages i with _ | stage
      · exact .inl (by simp [Floor.take, hstage])
      · have hproceeds := proceeds_step engine now (hstays i) (h.fits i stage hstage)
          (hstands hstage)
        rcases hresult : stage.result? with _ | result
        · exact .inr ⟨i, stage, _, _, hstage, hresult, by simp [Floor.take, hstage], hproceeds⟩
        · cases stage with
          | finished result command =>
              left
              rw [Floor.take, hstage]
              exact Floor.put_self hstage
          | received | opening | reserving | checking | rendering => cases hresult
  | giveUp i =>
      rcases hstage : f.stages i with _ | stage
      · exact .inl (by simp [Floor.take, hstage])
      · rcases hresult : stage.result? with _ | result
        · exact .inr ⟨i, stage, none, _, hstage, hresult, by simp [Floor.take, hstage, hresult],
            proceeds_abandon (h.fits i stage hstage)⟩
        · exact .inl (by simp [Floor.take, hstage, hresult])

/-- **One turn.** -/
theorem orderly_take (hstays : ∀ i, Outside studio (selections i))
    (h : Orderly studio selections f) (turn : Turn ι) :
    Orderly studio selections (f.take studio turn) := by
  rcases take_cases h hstays turn with
    hidle | ⟨i, stage, stage', d', hstage, -, htake, hproceeds⟩
  · rw [hidle]
    exact h
  · rw [htake]
    -- the output of this reel is apart from that of another one, since it is the same
    -- as before or was no file
    have hapart {j : ι} (hj : j ≠ i) {p q : Path} (hp : p ∈ stage'.bind Stage.output?)
        (hq : q ∈ f.output? j) : p.place ≠ q.place := by
      rcases (hproceeds.output p hp).1 with hbefore | hfresh
      · exact h.apart i j hj.symm p (by rw [Floor.output?, hstage]; exact hbefore) q hq
      · intro hplace
        rw [hplace] at hfresh
        exact (h.stands j q hq).isFile hfresh
    constructor
    · intro j s hs
      by_cases hj : j = i
      · subst hj
        exact hproceeds.fits s (by simpa using hs)
      · exact h.fits j s (by simpa [Floor.stages_put_of_ne hj] using hs)
    · intro j p hp
      by_cases hj : j = i
      · subst hj
        exact (hproceeds.output p (by simpa using hp)).2
      · rw [Floor.output?_put_of_ne hj] at hp
        exact (stands_of_proceeds h hstays hj hstage hproceeds hp).1
    · intro j k hjk p hp q hq
      by_cases hj : j = i
      · subst hj
        rw [Floor.output?_put_self] at hp
        rw [Floor.output?_put_of_ne hjk.symm] at hq
        exact hapart hjk.symm hp hq
      · rw [Floor.output?_put_of_ne hj] at hp
        by_cases hk : k = i
        · subst hk
          rw [Floor.output?_put_self] at hq
          exact (hapart hj hq hp).symm
        · rw [Floor.output?_put_of_ne hk] at hq
          exact h.apart j k hjk p hp q hq

/-- **A run.** -/
theorem orderly_run (hstays : ∀ i, Outside studio (selections i))
    (h : Orderly studio selections f) (turns : List (Turn ι)) :
    Orderly studio selections (f.run studio turns) := by
  -- the invariant holds wherever the first turn leads, so the floor varies
  induction turns generalizing f with
  | nil => exact h
  | cons turn turns ih => exact ih (orderly_take hstays h turn)

/-- A finished reel stays, and nobody touches its file. -/
theorem reel?_take (hstays : ∀ i, Outside studio (selections i))
    (h : Orderly studio selections f) {i : ι} {reel : Reel} (hmade : f.reel? i = some reel)
    (turn : Turn ι) :
    (f.take studio turn).reel? i = some reel ∧
      (f.take studio turn).disk.file? reel.path.place = f.disk.file? reel.path.place := by
  rcases take_cases h hstays turn with
    hidle | ⟨j, stage, stage', d', hstage, hrunning, htake, hproceeds⟩
  · rw [hidle]
    exact ⟨hmade, rfl⟩
  · have hj : i ≠ j := by
      rintro rfl
      rw [Floor.reel?, hstage] at hmade
      cases stage with
      | finished result command => cases hrunning
      | received | opening | reserving | checking | rendering => cases hmade
    rw [htake, Floor.reel?_put_of_ne hj]
    exact ⟨hmade,
      (stands_of_proceeds h hstays hj hstage hproceeds (Floor.output?_of_reel? hmade)).2⟩

/-- It stays however many turns the others take. -/
theorem reel?_run (hstays : ∀ i, Outside studio (selections i))
    (h : Orderly studio selections f) {i : ι} {reel : Reel} (hmade : f.reel? i = some reel)
    (turns : List (Turn ι)) :
    (f.run studio turns).reel? i = some reel ∧
      (f.run studio turns).disk.file? reel.path.place = f.disk.file? reel.path.place := by
  induction turns generalizing f with
  | nil => exact ⟨hmade, rfl⟩
  | cons turn turns ih =>
      obtain ⟨hmade', hfile⟩ := reel?_take hstays h hmade turn
      obtain ⟨hlast, hrest⟩ := ih (orderly_take hstays h turn) hmade'
      exact ⟨hlast, hrest.trans hfile⟩

/-- **Reels do not disturb each other.** Whatever turns were taken, with engines and
clocks that may differ from turn to turn: an output that a reel holds or has given out
is no other reel's, under any spelling. A finished reel has its file, and whatever
turns are taken from then on, the reel stays and its file is not touched. -/
theorem outputs_apart (studio : Studio) (selections : ι → Selection) (d : Disk)
    (houtside : ∀ i, Outside studio (selections i)) (turns : List (Turn ι)) :
    (∀ i j, i ≠ j →
      ∀ p ∈ ((Floor.start selections d).run studio turns).output? i,
      ∀ q ∈ ((Floor.start selections d).run studio turns).output? j, p.place ≠ q.place) ∧
    ∀ i, ∀ reel ∈ ((Floor.start selections d).run studio turns).reel? i,
      ((Floor.start selections d).run studio turns).output? i = some reel.path ∧
      ∃ content,
        ((Floor.start selections d).run studio turns).disk.file? reel.path.place =
          some content ∧
        ∀ later,
          (((Floor.start selections d).run studio turns).run studio later).reel? i =
            some reel ∧
          (((Floor.start selections d).run studio turns).run studio later).disk.file?
            reel.path.place = some content := by
  have horderly := orderly_run houtside (orderly_start studio selections d) turns
  refine ⟨horderly.apart, fun i reel hmade => ?_⟩
  have houtput := Floor.output?_of_reel? hmade
  obtain ⟨content, hcontent⟩ :=
    Option.ne_none_iff_exists'.mp (horderly.stands i reel.path houtput).isFile
  refine ⟨houtput, content, hcontent, fun later => ?_⟩
  obtain ⟨hlast, hfile⟩ := reel?_run houtside horderly hmade later
  exact ⟨hlast, hfile.trans hcontent⟩

/-! ## Two reels of one instant -/

/-- Two selections that differ in their images. -/
def twins (first : Bool) : Selection :=
  { oneUpload with images := [⟨⟨if first then "uploads/1" else "uploads/2"⟩, "me.jpg"⟩] }

def twinDisk : Disk := smallDisk.insert ["uploads", "2"] (.file [5])

/-- Both step in turn, while the clock stands still. -/
def inTurns : Nat → List (Turn Bool)
  | 0 => []
  | n + 1 => .step true byteEngine 0 :: .step false byteEngine 0 :: inTurns n

theorem outputs_apart_twins :
    (∀ first, Outside smallStudio (twins first)) ∧
      ∃ r s : Reel,
        r.path = ⟨"./public/outputs/output_0.mp4"⟩ ∧
        s.path = ⟨"./public/outputs/output_0-1.mp4"⟩ ∧
        ((Floor.start twins twinDisk).run smallStudio (inTurns 12)).reel? true = some r ∧
        ((Floor.start twins twinDisk).run smallStudio (inTurns 12)).reel? false = some s ∧
        r.path.place ≠ s.path.place ∧
        ∀ later,
          (((Floor.start twins twinDisk).run smallStudio (inTurns 12)).run smallStudio
            later).disk.file? r.path.place = some [5] := by
  have houtside : ∀ first, Outside smallStudio (twins first) := by
    intro first image himage name hplace
    have hlength := congrArg List.length hplace
    rw [List.length_append, List.length_singleton] at hlength
    obtain rfl := List.mem_singleton.mp himage
    revert hlength
    cases first <;> decide
  have hfirst : ((Floor.start twins twinDisk).run smallStudio (inTurns 12)).reel? true =
      some ⟨"outputs/output_0.mp4", ⟨"./public/outputs/output_0.mp4"⟩⟩ := by
    decide +kernel
  have hsecond : ((Floor.start twins twinDisk).run smallStudio (inTurns 12)).reel? false =
      some ⟨"outputs/output_0-1.mp4", ⟨"./public/outputs/output_0-1.mp4"⟩⟩ := by
    decide +kernel
  have hbyte : ((Floor.start twins twinDisk).run smallStudio (inTurns 12)).disk.file?
      (Path.mk "./public/outputs/output_0.mp4").place = some [5] := by
    decide +kernel
  obtain ⟨hapart, hkept⟩ := outputs_apart smallStudio twins twinDisk houtside (inTurns 12)
  obtain ⟨hr, content, hcontent, hlater⟩ := hkept true _ hfirst
  obtain ⟨hs, -⟩ := hkept false _ hsecond
  obtain rfl : content = [5] := Option.some.inj (hcontent.symm.trans hbyte)
  exact ⟨houtside, _, _, rfl, rfl, hfirst, hsecond, hapart true false (by decide) _ hr _ hs,
    fun later => (hlater later).2⟩

end Floor

end VideoGreeting.Production
