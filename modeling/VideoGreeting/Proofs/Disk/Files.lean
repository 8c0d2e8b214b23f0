import VideoGreeting.Disk.Guard
import VideoGreeting.Proofs.Disk.Place
import VideoGreeting.Proofs.Keys

/-!
# Files by place

What the operations of a disk do to the files, each said for all places at
once. Walking a path depends on folders only; so what can be removed once can be
removed as long as the folders stay, and removing a file touches no other place.
-/

namespace VideoGreeting.Disk

open Text (Bytes)

/-! ## Steps that may be refused -/

section Refusal

variable {ε ε' α β : Type} {fault : ε} {b : β}

theorem bind_eq_ok {x : Except ε α} {f : α → Except ε β} :
    x >>= f = .ok b ↔ ∃ a, x = .ok a ∧ f a = .ok b := by
  cases x <;> simp [bind, Except.bind]

theorem bind_eq_error {x : Except ε α} {f : α → Except ε β} :
    x >>= f = .error fault ↔ x = .error fault ∨ ∃ a, x = .ok a ∧ f a = .error fault := by
  cases x <;> simp [bind, Except.bind]

theorem mapError_eq_error {x : Except ε β} {f : ε → ε'} {fault' : ε'} :
    x.mapError f = .error fault' ↔ ∃ fault, x = .error fault ∧ f fault = fault' := by
  cases x <;> simp [Except.mapError]

theorem ok_bind (a : α) (f : α → Except ε β) : (Except.ok a >>= f) = f a := rfl

theorem mapError_eq_ok {x : Except ε β} {f : ε → ε'} : x.mapError f = .ok b ↔ x = .ok b := by
  cases x <;> simp [Except.mapError]

/-- A check is passed when its condition does not hold. -/
theorem check_eq_ok {c : Prop} [Decidable c] {f : α → Except ε β} {x : Except ε β} :
    (if c then throw fault >>= f else x) = .ok b ↔ ¬c ∧ x = .ok b := by
  by_cases hc : c
  · simp [hc, throw, throwThe, MonadExceptOf.throw, bind, Except.bind]
  · simp [hc]

/-- A check that is not passed ends with its own fault. -/
theorem check_eq_error {c : Prop} [Decidable c] {raised : ε} {f : α → Except ε β}
    {x : Except ε β} :
    (if c then throw raised >>= f else x) = .error fault ↔
      c ∧ raised = fault ∨ ¬c ∧ x = .error fault := by
  by_cases hc : c
  · simp [hc, throw, throwThe, MonadExceptOf.throw, bind, Except.bind]
  · simp [hc]

theorem ite_throw_eq_ok {c : Prop} [Decidable c] {x : Except ε β} :
    (if c then throw fault else x) = .ok b ↔ ¬c ∧ x = .ok b := by
  by_cases hc : c
  · simp [hc, throw, throwThe, MonadExceptOf.throw]
  · simp [hc]

theorem eq_ok_of_isOk {x : Except ε Unit × α} (h : x.1.isOk = true) : x = (.ok (), x.2) := by
  obtain ⟨fault | ⟨⟩, a⟩ := x
  · cases h
  · rfl

theorem pure_eq_ok {a : β} : (pure a : Except ε β) = .ok b ↔ a = b := by
  simp [pure, Except.pure]

end Refusal

/-! ## Places -/

/-- The content of the file at a place. -/
def file? (d : Disk) (place : Place) : Option Bytes :=
  match d.entry? place with
  | some (.file content) => some content
  | _ => none

/-- Every folder of `d` is a folder of `d'`. -/
def KeepsFolders (d d' : Disk) : Prop :=
  ∀ place, d.entry? place = some .folder → d'.entry? place = some .folder

/-- `d'` has the files of `d`, and its folders among others. -/
structure Grows (d d' : Disk) : Prop where
  files : ∀ place, d'.file? place = d.file? place
  folders : d.KeepsFolders d'

variable {d d' : Disk} {place other : Place}

/-- Erasing empties one place. -/
theorem entry?_erase (hne : place ≠ []) :
    entry? (d.erase place) other = if other = place then none else d.entry? other := by
  unfold entry? erase
  rw [lookup_filter_ne]
  by_cases htop : other = []
  · subst htop
    rw [if_pos rfl, if_neg (Ne.symm hne), if_pos rfl]
  · rw [if_neg htop, if_neg htop]

/-- Inserting fills one place. -/
theorem entry?_insert (hne : place ≠ []) (entry : Entry) :
    entry? (d.insert place entry) other =
      if other = place then some entry else d.entry? other := by
  unfold entry? insert erase
  rw [List.lookup_cons, lookup_filter_ne]
  by_cases htop : other = []
  · subst htop
    rw [if_pos rfl, if_neg (Ne.symm hne), if_pos rfl]
  · rw [if_neg htop, if_neg htop]
    by_cases hother : other = place
    · simp [hother]
    · rw [beq_false_of_ne hother, if_neg hother, if_neg hother]

theorem file?_eq_some {content : Bytes} :
    d.file? place = some content ↔ d.entry? place = some (.file content) := by
  unfold file?
  rcases d.entry? place with _ | ⟨content'⟩ | _ <;> simp

theorem file?_erase (hne : place ≠ []) :
    (d.erase place).file? other = if other = place then none else d.file? other := by
  unfold file?
  rw [entry?_erase hne]
  by_cases hother : other = place <;> simp [hother]

theorem file?_insert (hne : place ≠ []) (entry : Entry) :
    (d.insert place entry).file? other =
      if other = place then
        match entry with
        | .file content => some content
        | .folder => none
      else d.file? other := by
  unfold file?
  rw [entry?_insert hne]
  by_cases hother : other = place <;> cases entry <;> simp [hother]

/-- A file put where no folder lies leaves every folder. -/
theorem keepsFolders_insert (hne : place ≠ []) (h : d.entry? place ≠ some .folder)
    (content : Bytes) : d.KeepsFolders (d.insert place (.file content)) := by
  intro other hfolder
  rw [entry?_insert hne, if_neg, hfolder]
  rintro rfl
  exact h hfolder

theorem file?_eq_none_of_entry?_eq_none (h : d.entry? place = none) : d.file? place = none := by
  rw [file?, h]

namespace KeepsFolders

theorem refl (d : Disk) : d.KeepsFolders d := fun _ h => h

theorem trans {d'' : Disk} (h : d.KeepsFolders d') (h' : d'.KeepsFolders d'') :
    d.KeepsFolders d'' := fun place hplace => h' place (h place hplace)

end KeepsFolders

namespace Grows

theorem refl (d : Disk) : Grows d d := ⟨fun _ => rfl, .refl d⟩

theorem trans {d'' : Disk} (h : Grows d d') (h' : Grows d' d'') : Grows d d'' :=
  ⟨fun place => (h'.files place).trans (h.files place), h.folders.trans h'.folders⟩

end Grows

/-! ## Walking -/

theorem needFolder_eq_ok : d.needFolder place = .ok () ↔ d.entry? place = some .folder := by
  unfold needFolder
  rcases d.entry? place with _ | ⟨content⟩ | _ <;> simp

/-- A step succeeds from a folder, unless it goes on by a name that is too long. -/
theorem enter_eq_ok_iff {segment : String} :
    d.enter place segment = .ok other ↔
      d.entry? place = some .folder ∧
        (isName segment = true → segment.utf8ByteSize ≤ maxNameBytes) ∧
        other = Path.descend place segment := by
  unfold enter
  rcases hfolder : d.needFolder place with fault | ⟨⟩
  · have hnot : d.entry? place ≠ some .folder := by
      rw [Ne, ← needFolder_eq_ok, hfolder]
      exact nofun
    constructor
    · intro h
      cases h
    · rintro ⟨h, -⟩
      exact absurd h hnot
  · have hplace := needFolder_eq_ok.mp hfolder
    show (if segment = "." then _ else _) = _ ↔ _
    unfold Path.descend
    by_cases hdot : segment = "."
    · rw [if_pos hdot, if_pos hdot]
      simp [isName, hdot, hplace, pure, Except.pure, eq_comm]
    · rw [if_neg hdot, if_neg hdot]
      by_cases hup : segment = ".."
      · rw [if_pos hup, if_pos hup]
        simp [isName, hup, hplace, pure, Except.pure, eq_comm]
      · rw [if_neg hup, if_neg hup]
        by_cases hlong : maxNameBytes < segment.utf8ByteSize
        · rw [if_pos hlong]
          constructor
          · intro h
            cases h
          · rintro ⟨-, hshort, -⟩
            have hname : isName segment = true := by simp [isName, hdot, hup]
            exact absurd (hshort hname) (Nat.not_le.mpr hlong)
        · rw [if_neg hlong]
          constructor
          · intro h
            cases h
            exact ⟨hplace, fun _ => Nat.not_lt.mp hlong, rfl⟩
          · rintro ⟨-, -, rfl⟩
            rfl

theorem enter_mono {segment : String} (hkeep : d.KeepsFolders d')
    (h : d.enter place segment = .ok other) : d'.enter place segment = .ok other := by
  rw [enter_eq_ok_iff] at h ⊢
  exact ⟨hkeep _ h.1, h.2⟩

/-- A walk that succeeds ends where its pieces say. -/
theorem follow_eq_ok {segments : List String} (h : d.follow place segments = .ok other) :
    other = segments.foldl Path.descend place := by
  induction segments generalizing place with
  | nil =>
      cases h
      rfl
  | cons segment segments ih =>
      unfold follow at h
      rw [List.foldlM_cons] at h
      rcases hstep : d.enter place segment with fault | next
      · rw [hstep] at h
        cases h
      · rw [hstep] at h
        rw [List.foldl_cons, ← (enter_eq_ok_iff.mp hstep).2.2]
        exact ih h

theorem follow_mono {segments : List String} (hkeep : d.KeepsFolders d')
    (h : d.follow place segments = .ok other) : d'.follow place segments = .ok other := by
  induction segments generalizing place with
  | nil => exact h
  | cons segment segments ih =>
      unfold follow at h ⊢
      rw [List.foldlM_cons] at h ⊢
      rcases hstep : d.enter place segment with fault | next
      · rw [hstep] at h
        cases h
      · rw [hstep] at h
        rw [enter_mono hkeep hstep]
        exact ih h

/-- The last step of a path is known when the walk to the folder before succeeds. -/
theorem lastStep_eq_ok_iff {p : Path} {folder : Place} {last : String} :
    d.lastStep p = .ok (folder, last) ↔
      walkable p = .ok () ∧ p.segments.getLast? = some last ∧
        d.follow [] p.segments.dropLast = .ok folder := by
  unfold lastStep
  rcases walkable p with fault | ⟨⟩
  · constructor
    · intro h
      cases h
    · rintro ⟨h, -⟩
      cases h
  · rcases p.segments.getLast? with _ | last'
    · constructor
      · intro h
        cases h
      · rintro ⟨-, h, -⟩
        cases h
    · rcases d.follow [] p.segments.dropLast with fault | folder'
      · constructor
        · intro h
          cases h
        · rintro ⟨-, -, h⟩
          cases h
      · constructor
        · intro h
          cases h
          exact ⟨rfl, rfl, rfl⟩
        · rintro ⟨-, hlast, hfolder⟩
          cases hlast
          cases hfolder
          rfl

theorem lastStep_mono {p : Path} {folder : Place} {last : String} (hkeep : d.KeepsFolders d')
    (h : d.lastStep p = .ok (folder, last)) : d'.lastStep p = .ok (folder, last) := by
  rw [lastStep_eq_ok_iff] at h ⊢
  exact ⟨h.1, h.2.1, follow_mono hkeep h.2.2⟩

/-- The last step of a path leads to the place that the path spells. -/
theorem descend_lastStep {p : Path} {folder : Place} {last : String}
    (h : d.lastStep p = .ok (folder, last)) : Path.descend folder last = p.place := by
  obtain ⟨-, hlast, hfollow⟩ := lastStep_eq_ok_iff.mp h
  have hsegments : p.segments = p.segments.dropLast ++ [last] :=
    (List.dropLast_append_getLast? _ hlast).symm
  unfold Path.place
  rw [hsegments, List.foldl_append, ← follow_eq_ok hfollow]
  rfl

/-! ## Reaching a file -/

/-- A path can be walked up to a name, whatever that name holds. -/
def Reaches (d : Disk) (p : Path) : Prop :=
  ∃ folder last, d.lastStep p = .ok (folder, last) ∧ isName last = true ∧
    d.enter folder last = .ok p.place ∧ p.endsInSlash = false

theorem Reaches.mono {p : Path} (hkeep : d.KeepsFolders d') (h : d.Reaches p) :
    d'.Reaches p := by
  obtain ⟨folder, last, hlast, hname, henter, hslash⟩ := h
  exact ⟨folder, last, lastStep_mono hkeep hlast, hname, enter_mono hkeep henter, hslash⟩

/-- A name is not the top. -/
theorem Reaches.place_ne_nil {p : Path} (h : d.Reaches p) : p.place ≠ [] := by
  obtain ⟨folder, last, hlast, hname, -⟩ := h
  have hdots : last ≠ "." ∧ last ≠ ".." := by simpa [isName] using hname
  rw [← descend_lastStep hlast, Path.descend, if_neg hdots.1, if_neg hdots.2]
  exact List.append_ne_nil_of_right_ne_nil _ (List.cons_ne_nil _ _)

/-- **Removing a file.** It succeeds for a file that is reached, and erases it. -/
theorem remove_eq_ok_iff {p : Path} :
    d.remove p = .ok d' ↔ d.Reaches p ∧ d.file? p.place ≠ none ∧ d' = d.erase p.place := by
  simp only [remove, bind_eq_ok, check_eq_ok, Prod.exists]
  constructor
  · rintro ⟨folder, last, hlast, hname, place, henter, h⟩
    have hplace : place = p.place := by
      rw [(enter_eq_ok_iff.mp henter).2.2, descend_lastStep hlast]
    subst hplace
    rcases hentry : d.entry? p.place with _ | ⟨content⟩ | _
    · rw [hentry] at h
      cases h
    · rw [hentry] at h
      obtain ⟨hslash, herase⟩ := ite_throw_eq_ok.mp h
      refine ⟨⟨folder, last, hlast, by simpa using hname, henter, by simpa using hslash⟩,
        ?_, (pure_eq_ok.mp herase).symm⟩
      rw [file?_eq_some.mpr hentry]
      exact Option.some_ne_none content
    · rw [hentry] at h
      cases h
  · rintro ⟨⟨folder, last, hlast, hname, henter, hslash⟩, hfile, rfl⟩
    refine ⟨folder, last, hlast, by simpa using hname, p.place, henter, ?_⟩
    obtain ⟨content, hcontent⟩ := Option.ne_none_iff_exists'.mp hfile
    rw [file?_eq_some.mp hcontent]
    simp [hslash, pure, Except.pure]

/-- A new file is created where the path is walked and nothing lies. -/
theorem createNew_eq_ok {p : Path} (h : d.createNew p = .ok d') :
    d.Reaches p ∧ d.entry? p.place = none ∧ d' = d.insert p.place (.file []) := by
  simp only [createNew, bind_eq_ok, check_eq_ok, Prod.exists, pure_eq_ok] at h
  obtain ⟨folder, last, hlast, -, -, hname, hslash, place, henter, hentry, rfl⟩ := h
  have hplace : place = p.place := by
    rw [(enter_eq_ok_iff.mp henter).2.2, descend_lastStep hlast]
  subst hplace
  exact ⟨⟨folder, last, hlast, by simpa using hname, henter, by simpa using hslash⟩,
    by simpa using hentry, rfl⟩

theorem tryReserve_eq_reserved {folder path : Path} {stem ext : String} {attempt : Nat}
    (h : d.tryReserve folder stem ext attempt = .reserved path d') :
    path = candidate folder stem ext attempt ∧ d.createNew path = .ok d' := by
  unfold tryReserve at h
  dsimp only at h
  split at h
  next disk hcreate =>
    cases h
    exact ⟨rfl, hcreate⟩
  next => cases h
  next => cases h

/-- A file that is reached can be written. -/
theorem write_eq_ok {p : Path} (h : d.Reaches p) (hfile : d.file? p.place ≠ none)
    (content : Bytes) :
    d.write p content = .ok (d.insert p.place (.file content)) := by
  obtain ⟨folder, last, hlast, hname, henter, hslash⟩ := h
  obtain ⟨old, hold⟩ := Option.ne_none_iff_exists'.mp hfile
  -- the folder is asked for twice, here and by the last step
  have hfolder := needFolder_eq_ok.mpr (enter_eq_ok_iff.mp henter).1
  have htarget : d.target p = .ok p.place := by
    simp only [target, bind_eq_ok, check_eq_ok, Prod.exists]
    refine ⟨folder, last, hlast, (), hfolder, by simp [hslash, hname], p.place, henter, ?_⟩
    rw [file?_eq_some.mp hold]
    rfl
  rw [write, htarget]
  rfl

/-- What is written is a file at the place of its path. -/
theorem of_write_eq_ok {p : Path} {content : Bytes} (h : d.write p content = .ok d') :
    d.Reaches p ∧ d.entry? p.place ≠ some .folder ∧
      d' = d.insert p.place (.file content) := by
  simp only [write, target, bind_eq_ok, check_eq_ok, Prod.exists, pure_eq_ok] at h
  obtain ⟨written, ⟨folder, last, hlast, -, -, hname, place, henter, hentry⟩, rfl⟩ := h
  have hplace : place = p.place := by
    rw [(enter_eq_ok_iff.mp henter).2.2, descend_lastStep hlast]
  subst hplace
  obtain ⟨hslash, hname⟩ : p.endsInSlash = false ∧ isName last = true := by
    simpa using hname
  rcases hheld : d.entry? p.place with _ | ⟨old⟩ | _
  · rw [hheld] at hentry
    obtain rfl := pure_eq_ok.mp hentry
    exact ⟨⟨folder, last, hlast, hname, henter, hslash⟩, nofun, rfl⟩
  · rw [hheld] at hentry
    obtain rfl := pure_eq_ok.mp hentry
    exact ⟨⟨folder, last, hlast, hname, henter, hslash⟩, nofun, rfl⟩
  · rw [hheld] at hentry
    cases hentry

theorem file?_write {p : Path} {content : Bytes} (h : d.write p content = .ok d')
    (place : Place) :
    d'.file? place = if place = p.place then some content else d.file? place := by
  obtain ⟨hreach, -, rfl⟩ := of_write_eq_ok h
  exact file?_insert hreach.place_ne_nil _

theorem keepsFolders_write {p : Path} {content : Bytes} (h : d.write p content = .ok d') :
    d.KeepsFolders d' := by
  obtain ⟨hreach, hfolder, rfl⟩ := of_write_eq_ok h
  exact keepsFolders_insert hreach.place_ne_nil hfolder content

/-! ## Guards -/

/-- Discarding a path empties the place that it reaches, and no other. -/
theorem file?_discard (d : Disk) (p : Path) (place : Place) (content : Bytes) :
    (d.discard p).file? place = some content ↔
      d.file? place = some content ∧ ¬(p.place = place ∧ d.Reaches p) := by
  unfold discard
  by_cases hremove : d.Reaches p ∧ d.file? p.place ≠ none
  · have hok : d.remove p = .ok (d.erase p.place) :=
      remove_eq_ok_iff.mpr ⟨hremove.1, hremove.2, rfl⟩
    rw [hok]
    show (d.erase p.place).file? place = some content ↔ _
    rw [file?_erase hremove.1.place_ne_nil]
    by_cases hplace : place = p.place
    · simp [hplace, hremove.1]
    · simp [hplace, Ne.symm hplace]
  · rcases hresult : d.remove p with fault | d'
    · show d.file? place = some content ↔ _
      constructor
      · intro h
        refine ⟨h, ?_⟩
        rintro ⟨rfl, hreach⟩
        exact hremove ⟨hreach, by rw [h]; exact Option.some_ne_none content⟩
      · exact And.left
    · have hok := remove_eq_ok_iff.mp hresult
      exact absurd ⟨hok.1, hok.2.1⟩ hremove

theorem entry?_discard_folder (d : Disk) (p : Path) (place : Place) :
    entry? (d.discard p) place = some .folder ↔ d.entry? place = some .folder := by
  unfold discard
  rcases hresult : d.remove p with fault | d'
  · rfl
  · obtain ⟨hreach, hfile, rfl⟩ := remove_eq_ok_iff.mp hresult
    show entry? (d.erase p.place) place = some .folder ↔ _
    rw [entry?_erase hreach.place_ne_nil]
    by_cases hplace : place = p.place
    · have hentry : d.entry? p.place ≠ some .folder := by
        intro hfolder
        rw [file?, hfolder] at hfile
        exact hfile rfl
      simp [hplace, hentry]
    · rw [if_neg hplace]

theorem reaches_discard (d : Disk) (p q : Path) : (d.discard p).Reaches q ↔ d.Reaches q :=
  ⟨Reaches.mono fun place h => (entry?_discard_folder d p place).mp h,
    Reaches.mono fun place h => (entry?_discard_folder d p place).mpr h⟩

/-- **Dropping a guard.** What is left of the files is what no tracked path
reaches, and all folders are left. -/
theorem file?_drop (g : Guard) (d : Disk) (place : Place) (content : Bytes) :
    (g.drop d).file? place = some content ↔
      d.file? place = some content ∧ ∀ p ∈ g.paths, ¬(p.place = place ∧ d.Reaches p) := by
  obtain ⟨paths⟩ := g
  unfold Guard.drop
  dsimp only
  induction paths generalizing d with
  | nil => simp
  | cons p paths ih =>
      rw [List.foldl_cons, ih, file?_discard, List.forall_mem_cons, and_assoc]
      simp only [reaches_discard]

theorem file?_drop_of_none {g : Guard} (h : d.file? place = none) :
    (g.drop d).file? place = none := by
  rw [Option.eq_none_iff_forall_ne_some]
  intro content hcontent
  rw [file?_drop, h] at hcontent
  cases hcontent.1

/-- A file is gone if one of the tracked paths reaches it. -/
theorem file?_drop_of_reaches {g : Guard} {p : Path} (hp : p ∈ g.paths)
    (hreach : d.Reaches p) : (g.drop d).file? p.place = none := by
  rw [Option.eq_none_iff_forall_ne_some]
  intro content hcontent
  exact ((file?_drop g d p.place content).mp hcontent).2 p hp ⟨rfl, hreach⟩

/-- A file stays if no tracked path spells its place. -/
theorem file?_drop_of_forall_ne {g : Guard} (h : ∀ p ∈ g.paths, p.place ≠ place) :
    (g.drop d).file? place = d.file? place := by
  ext content
  rw [file?_drop]
  constructor
  · exact And.left
  · intro hfile
    exact ⟨hfile, fun p hp hreach => h p hp hreach.1⟩

theorem keepsFolders_drop (g : Guard) (d : Disk) : d.KeepsFolders (g.drop d) := by
  obtain ⟨paths⟩ := g
  unfold Guard.drop
  dsimp only
  induction paths generalizing d with
  | nil => exact .refl d
  | cons p paths ih =>
      have hfirst : d.KeepsFolders (d.discard p) := fun place h =>
        (entry?_discard_folder d p place).mpr h
      exact hfirst.trans (ih (d.discard p))

end VideoGreeting.Disk
