import VideoGreeting.Proofs.Disk.Folders
import VideoGreeting.Proofs.Disk.Growth
import VideoGreeting.Proofs.Disk.Reserving

/-!
# A folder that is made sure of

Reels, uploads and the readiness check make sure of a folder before they put files into
it. Where nothing lies at the path yet, a folder is made, and then nothing but the name
of a file can be at fault. But what is asked for first is whether *anything* lies there:
a file at the path passes for the folder, and is found out only when something is put
into it.

`Refuses` says once for creating and writing what may go wrong on the way to a file; the
faults that it leaves for a folder are those of the name (`not_blamesFolder_of_refuses`).
Main theorem: `folder_ensured`.
-/

namespace VideoGreeting.Disk

open Text (Bytes)

variable {d d' : Disk} {place : Place} {folder p : Path} {name : String} {fault : Fault}

/-! ## Putting a file somewhere -/

/-- What may be wrong when a file is created or written: the way to it, its last step, or
what lies there. -/
inductive Refuses (d : Disk) (p : Path) (fault : Fault) : Prop where
  | way (h : d.lastStep p = .error fault)
  | folder {place : Place} {last : String} (hlast : d.lastStep p = .ok (place, last))
      (h : d.needFolder place = .error fault)
  | name {place : Place} {last : String} (hlast : d.lastStep p = .ok (place, last))
      (h : d.enter place last = .error fault)
  | held (h : fault = .alreadyExists ∨ fault = .isFolder)

theorem refuses_of_createNew (h : d.createNew p = .error fault) : d.Refuses p fault := by
  simp only [createNew, bind_eq_error, check_eq_error, Prod.exists] at h
  obtain hway | ⟨place, last, hlast, hfolder | ⟨-, -, ⟨-, hheld⟩ | ⟨-, hslash⟩⟩⟩ := h
  · exact .way hway
  · exact .folder hlast hfolder
  · exact .held (.inl hheld.symm)
  · obtain ⟨-, hheld⟩ | ⟨-, hname | ⟨next, -, ⟨-, hheld⟩ | ⟨-, hdone⟩⟩⟩ := hslash
    · exact .held (.inr hheld.symm)
    · exact .name hlast hname
    · exact .held (.inl hheld.symm)
    · cases hdone

theorem refuses_of_write {content : Bytes} (h : d.write p content = .error fault) :
    d.Refuses p fault := by
  simp only [write, target, bind_eq_error, check_eq_error, Prod.exists] at h
  obtain (hway | ⟨place, last, hlast, hfolder | ⟨-, -, ⟨-, hheld⟩ | ⟨-, hstep⟩⟩⟩) |
    ⟨place, -, hdone⟩ := h
  · exact .way hway
  · exact .folder hlast hfolder
  · exact .held (.inr hheld.symm)
  · obtain hname | ⟨next, -, hentry⟩ := hstep
    · exact .name hlast hname
    · split at hentry
      · cases hentry
        exact .held (.inr rfl)
      · cases hentry
  · cases hdone

/-- A fault that is the folder's and not the name's. -/
def BlamesFolder (fault : Fault) : Prop := fault = .missing ∨ fault = .notFolder

theorem not_blamesFolder_of_walkable (h : walkable p = .error fault) : ¬BlamesFolder fault := by
  unfold walkable at h
  split at h
  · cases h
    exact nofun
  · split at h
    · cases h
      exact nofun
    · cases h

/-- From a folder every step is taken, unless by a name that is too long. -/
theorem enter_eq_error (hentry : d.entry? place = some .folder)
    (h : d.enter place name = .error fault) : fault = .nameTooLong := by
  unfold enter at h
  rw [needFolder_eq_ok.mpr hentry] at h
  obtain hfolder | ⟨-, -, hstep⟩ := bind_eq_error.mp h
  · cases hfolder
  · split at hstep
    · cases hstep
    · split at hstep
      · cases hstep
      · split at hstep
        · cases hstep
          rfl
        · cases hstep

section Names

variable (hne : name ≠ "") (hslash : '/' ∉ name.toList)

include hne hslash

/-- **In a folder the name is at fault.** -/
theorem not_blamesFolder_of_refuses (hfolder : d.HasFolder folder)
    (h : d.Refuses (folder.join ⟨name⟩) fault) : ¬BlamesFolder fault := by
  obtain ⟨-, place, hfollow, hentry⟩ := hasFolder_iff.mp hfolder
  rcases hwalkable : walkable (folder.join ⟨name⟩) with refusal | ⟨⟩
  · have hway : d.lastStep (folder.join ⟨name⟩) = .error refusal := by
      unfold lastStep
      rw [hwalkable]
      rfl
    have hwalk := not_blamesFolder_of_walkable hwalkable
    cases h with
    | way h =>
        rw [hway] at h
        cases h
        exact hwalk
    | folder hlast | name hlast =>
        rw [hway] at hlast
        cases hlast
    | held h => rcases h with rfl | rfl <;> exact nofun
  · have hway : d.lastStep (folder.join ⟨name⟩) = .ok (place, name) := by
      rw [lastStep_join hne hslash hwalkable, hfollow]
      rfl
    cases h with
    | way h =>
        rw [hway] at h
        cases h
    | folder hlast h =>
        rw [hway] at hlast
        cases hlast
        rw [needFolder_eq_ok.mpr hentry] at h
        cases h
    | name hlast h =>
        rw [hway] at hlast
        cases hlast
        rw [enter_eq_error hentry h]
        exact nofun
    | held h => rcases h with rfl | rfl <;> exact nofun

/-! ## Files that pass for folders -/

/-- A file lies at a path. -/
def HasFile (d : Disk) (p : Path) : Prop := ∃ place content, d.find p = .ok (place, .file content)

/-- **Into a file nothing can be put.** -/
theorem createNew_of_hasFile (hfile : d.HasFile folder)
    (hwalkable : walkable (folder.join ⟨name⟩) = .ok ()) :
    d.createNew (folder.join ⟨name⟩) = .error .notFolder := by
  obtain ⟨place, content, hfind⟩ := hfile
  obtain ⟨-, -, hwalk, hentry⟩ := find_eq_ok_iff.mp hfind
  have hfollow : d.follow [] folder.segments = .ok place := by
    split at hwalk
    · -- behind a slash a folder is asked for, and there is none
      rw [follow_append, bind_eq_ok] at hwalk
      obtain ⟨before, -, hdot⟩ := hwalk
      rw [follow_singleton, enter_eq_ok_iff, Path.descend, if_pos rfl] at hdot
      obtain ⟨hfolder, -, rfl⟩ := hdot
      rw [hfolder] at hentry
      cases hentry
    · exact hwalk
  have hfolder : d.needFolder place = .error .notFolder := by
    rw [needFolder, hentry]
  unfold createNew
  rw [lastStep_join hne hslash hwalkable, hfollow]
  simp only [ok_bind, pure_bind, hfolder]
  rfl

end Names

theorem not_hasFolder_of_hasFile (h : d.HasFile p) : ¬d.HasFolder p := by
  obtain ⟨place, content, hfind⟩ := h
  rintro (hempty | hfolder)
  · exact (find_eq_ok_iff.mp hfind).2.1 hempty
  · rw [isFolder, hfind] at hfolder
    cases hfolder

theorem holds_iff_hasFile_or_isFolder :
    d.holds p = true ↔ d.HasFile p ∨ d.isFolder p = true := by
  rw [holds_iff, isFolder_iff]
  constructor
  · rintro ⟨place, content | _, hfind⟩
    · exact .inl ⟨place, content, hfind⟩
    · exact .inr ⟨place, hfind⟩
  · rintro (⟨place, content, hfind⟩ | ⟨place, hfind⟩)
    · exact ⟨place, _, hfind⟩
    · exact ⟨place, _, hfind⟩

/-! ## Making sure of a folder -/

/-- What is there already is left alone. -/
theorem ensureFolder_of_hasFile (h : d.HasFile p) : d.ensureFolder p = (.ok (), d) := by
  rw [ensureFolder, if_pos (holds_iff_hasFile_or_isFolder.mpr (.inl h))]

theorem ensureFolder_of_hasFolder (h : d.HasFolder p) : d.ensureFolder p = (.ok (), d) := by
  rcases h with hempty | hfolder
  · -- the empty path leads to nothing that could be asked for
    have hnone : ¬d.holds p = true := by
      rw [holds_iff]
      rintro ⟨place, entry, hfind⟩
      exact (find_eq_ok_iff.mp hfind).2.1 hempty
    rw [ensureFolder, if_neg hnone, createFolders, if_pos (String.isEmpty_iff.mpr hempty)]
  · rw [ensureFolder, if_pos (holds_iff_hasFile_or_isFolder.mpr (.inr hfolder))]

theorem hasFolder_of_ensureFolder (h : d.ensureFolder p = (.ok (), d')) (hfile : ¬d.HasFile p) :
    d'.HasFolder p := by
  unfold ensureFolder at h
  split at h
  next hholds =>
    cases h
    exact .inr ((holds_iff_hasFile_or_isFolder.mp hholds).resolve_left hfile)
  next =>
    have hdepth : p.segments.length < p.segments.length + 2 := by omega
    have hmaking := making_createFolders d hdepth
    rw [h] at hmaking
    exact hmaking.hasFolder rfl

/-- How a path is left that was made sure of. -/
structure Ensured (d : Disk) (p : Path) (d' : Disk) : Prop where
  /-- There is a folder, unless a file was taken for it. -/
  folder : ¬d.HasFile p → d'.HasFolder p
  /-- Files can be created in it and written to it, as far as the folder is concerned. -/
  opens : ¬d.HasFile p → ∀ name, name ≠ "" → '/' ∉ name.toList → ∀ fault,
    d'.createNew (p.join ⟨name⟩) = .error fault ∨
      (∃ content, d'.write (p.join ⟨name⟩) content = .error fault) → ¬BlamesFolder fault
  /-- A file is left where it lies, and whatever is to be put into it finds no folder. -/
  file : d.HasFile p → d' = d ∧ ¬d'.HasFolder p ∧ ∀ name, name ≠ "" → '/' ∉ name.toList →
    walkable (p.join ⟨name⟩) = .ok () → d'.createNew (p.join ⟨name⟩) = .error .notFolder
  files : ∀ place, d'.file? place = d.file? place
  /-- Every folder keeps what it holds. -/
  keeps : d.Keeps d'
  there : d.HasFolder p → d' = d
  again : d'.ensureFolder p = (.ok (), d')

/-- **A folder that was made sure of is there, unless a file lay in its place.** No file
changes, folders keep their contents, and making sure once more changes nothing. -/
theorem folder_ensured (d : Disk) (p : Path) (d' : Disk)
    (h : d.ensureFolder p = (.ok (), d')) : Ensured d p d' where
  folder := hasFolder_of_ensureFolder h
  opens hfile name hne hslash fault hrefused := by
    refine not_blamesFolder_of_refuses hne hslash (hasFolder_of_ensureFolder h hfile) ?_
    rcases hrefused with hcreate | ⟨content, hwrite⟩
    · exact refuses_of_createNew hcreate
    · exact refuses_of_write hwrite
  file hfile := by
    rw [ensureFolder_of_hasFile hfile] at h
    cases h
    exact ⟨rfl, not_hasFolder_of_hasFile hfile,
      fun name hne hslash => createNew_of_hasFile hne hslash hfile⟩
  files place := by
    have hgrows := grows_ensureFolder d p
    rw [h] at hgrows
    exact hgrows.files place
  keeps := by
    have hgrows := grows_ensureFolder d p
    rw [h] at hgrows
    exact hgrows.keeps
  there hfolder := by
    rw [ensureFolder_of_hasFolder hfolder] at h
    cases h
    rfl
  again := by
    by_cases hfile : d.HasFile p
    · have hsame := h
      rw [ensureFolder_of_hasFile hfile] at hsame
      cases hsame
      exact h
    · exact ensureFolder_of_hasFolder (hasFolder_of_ensureFolder h hfile)

/-- A folder with a reel in it, and a file where uploads should go. -/
def publicDisk : Disk where
  entries :=
    [(["public"], .folder), (["public", "output_1.mp4"], .file [1]), (["uploads"], .file [2])]

/-- The folders for a path below one that is there, with a slash at the end. -/
theorem folder_ensured_below :
    publicDisk.ensureFolder ⟨"public/outputs/new/"⟩ =
        (.ok (), (publicDisk.insert ["public", "outputs"] .folder).insert
          ["public", "outputs", "new"] .folder) ∧
      Ensured publicDisk ⟨"public/outputs/new/"⟩
        ((publicDisk.insert ["public", "outputs"] .folder).insert
          ["public", "outputs", "new"] .folder) ∧
      publicDisk.ensureFolder ⟨"uploads"⟩ = (.ok (), publicDisk) ∧
      Ensured publicDisk ⟨"uploads"⟩ publicDisk := by
  have hmade : publicDisk.ensureFolder ⟨"public/outputs/new/"⟩ =
      (.ok (), (publicDisk.insert ["public", "outputs"] .folder).insert
        ["public", "outputs", "new"] .folder) := by decide +kernel
  have hfile : publicDisk.ensureFolder ⟨"uploads"⟩ = (.ok (), publicDisk) := by decide
  exact ⟨hmade, folder_ensured _ _ _ hmade, hfile, folder_ensured _ _ _ hfile⟩

/-- A file at the path passes for the folder. -/
theorem not_hasFolder_ensured :
    ¬ ∀ (d : Disk) (p : Path) (d' : Disk), d.ensureFolder p = (.ok (), d') →
      d'.isFolder p = true := by
  intro h
  have hfolder := h publicDisk ⟨"uploads"⟩ publicDisk (by decide)
  exact absurd hfolder (by decide)

end VideoGreeting.Disk
