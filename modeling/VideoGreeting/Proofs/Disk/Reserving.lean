import Mathlib
import VideoGreeting.Proofs.Disk.Growth
import VideoGreeting.Proofs.Number.Digits
import VideoGreeting.Proofs.Text.Ascii

/-!
# Reserving a file

Of the names that may be tried the first free one is taken, and nothing else is
touched. Whether an attempt succeeds is a matter of the path that it tries alone: a name
that is taken is passed over, and one that the system cannot hold, because it is too
long, ends the search (`createNew_of_holds`, `createNew_of_free`,
`createNew_of_not_canHold`).

Files are reserved and removed in any order, under names that may run into each other.
`Standing` is the invariant that `standing_take` preserves, and `standing_run` is the
run. Main theorem: `reserve_first_free`.
-/

namespace VideoGreeting.Disk

variable {d d' : Disk} {place : Place} {folder p : Path} {stem ext name : String}

/-! ## A name in a folder -/

/-- A name in a folder is written behind the path of the folder. -/
theorem text_join (folder : Path) (hslash : '/' ∉ name.toList) :
    ∃ between, (folder.join ⟨name⟩).text = folder.text ++ between ++ name := by
  unfold Path.join
  rw [Path.isAbsolute_of_slash_notMem hslash, if_neg Bool.false_ne_true]
  split
  · exact ⟨"", by rw [String.append_empty]⟩
  · exact ⟨"/", rfl⟩

theorem endsInSlash_join (hne : name ≠ "") (hslash : '/' ∉ name.toList) :
    (folder.join ⟨name⟩).endsInSlash = false := by
  obtain ⟨between, htext⟩ := text_join folder hslash
  have hname : name.toList ≠ [] := mt String.toList_eq_nil_iff.mp hne
  unfold Path.endsInSlash
  rw [htext, String.toList_append, List.getLast?_append_of_ne_nil _ hname, beq_eq_false_iff_ne]
  exact fun hlast => hslash (List.mem_of_getLast? hlast)

theorem text_join_ne (hne : name ≠ "") (hslash : '/' ∉ name.toList) :
    (folder.join ⟨name⟩).text ≠ "" := by
  obtain ⟨between, htext⟩ := text_join folder hslash
  rw [htext]
  intro hempty
  exact hne (String.append_eq_empty_iff.mp hempty).2

/-- What leads to a name in a folder leads to the folder. -/
theorem walkable_of_join (hslash : '/' ∉ name.toList)
    (h : walkable (folder.join ⟨name⟩) = .ok ()) : walkable folder = .ok () := by
  obtain ⟨between, htext⟩ := text_join folder hslash
  rw [walkable_eq_ok_iff, htext] at h
  rw [walkable_eq_ok_iff]
  simp only [String.toList_append, List.mem_append, String.utf8ByteSize_append, not_or] at h
  exact ⟨h.1.1.1, by omega⟩

/-! ## Faults on the way -/

theorem ne_alreadyExists_of_walkable {fault : Fault} (h : walkable p = .error fault) :
    fault ≠ .alreadyExists := by
  rintro rfl
  unfold walkable at h
  split at h
  · cases h
  · split at h <;> cases h

theorem ne_alreadyExists_of_needFolder {fault : Fault} (h : d.needFolder place = .error fault) :
    fault ≠ .alreadyExists := by
  rintro rfl
  unfold needFolder at h
  split at h <;> cases h

theorem ne_alreadyExists_of_enter {segment : String} {fault : Fault}
    (h : d.enter place segment = .error fault) : fault ≠ .alreadyExists := by
  unfold enter at h
  rcases bind_eq_error.mp h with hfolder | ⟨⟨⟩, -, hstep⟩
  · exact ne_alreadyExists_of_needFolder hfolder
  · rintro rfl
    split at hstep
    · cases hstep
    · split at hstep
      · cases hstep
      · split at hstep <;> cases hstep

theorem ne_alreadyExists_of_follow {segments : List String} {fault : Fault}
    (h : d.follow place segments = .error fault) : fault ≠ .alreadyExists := by
  induction segments generalizing place with
  | nil => cases h
  | cons segment segments ih =>
      unfold follow at h
      rw [List.foldlM_cons] at h
      rcases bind_eq_error.mp h with henter | ⟨next, -, hrest⟩
      · exact ne_alreadyExists_of_enter henter
      · exact ih hrest

/-! ## One attempt -/

/-- The system can hold a file under a name in a folder. -/
def CanHold (folder : Path) (name : String) : Prop :=
  walkable (folder.join ⟨name⟩) = .ok () ∧ name.utf8ByteSize ≤ maxNameBytes

section Attempts

variable (hne : name ≠ "") (hslash : '/' ∉ name.toList)

include hne hslash

theorem lastStep_join (hwalkable : walkable (folder.join ⟨name⟩) = .ok ()) :
    d.lastStep (folder.join ⟨name⟩) =
      d.follow [] folder.segments >>= fun place => pure (place, name) := by
  unfold lastStep
  rw [hwalkable, Path.segments_join hne hslash, List.getLast?_concat, List.dropLast_concat]
  rfl

/-- A name in a folder is taken if a step from the folder leads to something. -/
theorem holds_join_iff (hfollow : d.follow [] folder.segments = .ok place) :
    d.holds (folder.join ⟨name⟩) = true ↔
      walkable (folder.join ⟨name⟩) = .ok () ∧
        ∃ next, d.enter place name = .ok next ∧ d.entry? next ≠ none := by
  have hwalk : d.follow [] (folder.join ⟨name⟩).segments = d.enter place name := by
    rw [Path.segments_join hne hslash, follow_append, hfollow, ok_bind, follow_singleton]
  rw [holds_iff]
  simp only [find_eq_ok_iff, endsInSlash_join hne hslash, Bool.false_eq_true, if_false, hwalk,
    Option.ne_none_iff_exists']
  constructor
  · rintro ⟨next, entry, hwalkable, -, henter, hentry⟩
    exact ⟨hwalkable, next, henter, entry, hentry⟩
  · rintro ⟨hwalkable, next, henter, entry, hentry⟩
    exact ⟨next, entry, hwalkable, text_join_ne hne hslash, henter, hentry⟩

/-- **A name that is taken.** -/
theorem createNew_of_holds (hfollow : d.follow [] folder.segments = .ok place)
    (hentry : d.entry? place = some .folder) (h : d.holds (folder.join ⟨name⟩) = true) :
    d.createNew (folder.join ⟨name⟩) = .error .alreadyExists := by
  obtain ⟨hwalkable, next, henter, hheld⟩ := (holds_join_iff hne hslash hfollow).mp h
  have hfolder := needFolder_eq_ok.mpr hentry
  unfold createNew
  rw [lastStep_join hne hslash hwalkable, hfollow]
  simp only [ok_bind, pure_bind, hfolder, endsInSlash_join hne hslash, henter,
    Option.isSome_iff_ne_none.mpr hheld]
  by_cases hname : isName name = true
  · simp [hname]
    rfl
  · simp [hname]
    rfl

/-- What is no name, a dot or two, is always taken. -/
theorem isName_of_not_holds (hfollow : d.follow [] folder.segments = .ok place)
    (hentry : d.entry? place = some .folder)
    (hwalkable : walkable (folder.join ⟨name⟩) = .ok ())
    (h : ¬d.holds (folder.join ⟨name⟩) = true) : isName name = true := by
  by_contra hname
  rw [Bool.not_eq_true] at hname
  refine h ((holds_join_iff hne hslash hfollow).mpr
    ⟨hwalkable, Path.descend place name, enter_eq_ok_iff.mpr ⟨hentry, ?_, rfl⟩, ?_⟩)
  · exact fun hname' => absurd hname' (by simp [hname])
  · rw [entry?_descend hfollow hentry hname]
    exact Option.some_ne_none _

/-- **A name that is free.** -/
theorem createNew_of_free (hfollow : d.follow [] folder.segments = .ok place)
    (hentry : d.entry? place = some .folder) (h : ¬d.holds (folder.join ⟨name⟩) = true)
    (hcan : CanHold folder name) :
    d.createNew (folder.join ⟨name⟩) =
      .ok (d.insert (folder.join ⟨name⟩).place (.file [])) := by
  have henter : d.enter place name = .ok (Path.descend place name) :=
    enter_eq_ok_iff.mpr ⟨hentry, fun _ => hcan.2, rfl⟩
  have hfree : d.entry? (Path.descend place name) = none := by
    by_contra hheld
    exact h ((holds_join_iff hne hslash hfollow).mpr ⟨hcan.1, _, henter, hheld⟩)
  have hcreate : d.createNew (folder.join ⟨name⟩) =
      .ok (d.insert (Path.descend place name) (.file [])) := by
    unfold createNew
    rw [lastStep_join hne hslash hcan.1, hfollow]
    simp only [ok_bind, pure_bind, needFolder_eq_ok.mpr hentry, endsInSlash_join hne hslash,
      isName_of_not_holds hne hslash hfollow hentry hcan.1 h, henter, hfree]
    rfl
  rw [hcreate, ← (createNew_eq_ok hcreate).2.2]

/-- **A name that cannot be.** -/
theorem createNew_of_not_canHold (hfollow : d.follow [] folder.segments = .ok place)
    (hentry : d.entry? place = some .folder) (h : ¬d.holds (folder.join ⟨name⟩) = true)
    (hcannot : ¬CanHold folder name) :
    ∃ fault, d.createNew (folder.join ⟨name⟩) = .error fault ∧ fault ≠ .alreadyExists := by
  rcases hwalkable : walkable (folder.join ⟨name⟩) with fault | ⟨⟩
  · refine ⟨fault, ?_, ne_alreadyExists_of_walkable hwalkable⟩
    unfold createNew lastStep
    rw [hwalkable]
    rfl
  · have hname := isName_of_not_holds hne hslash hfollow hentry hwalkable h
    rcases henter : d.enter place name with fault | next
    · refine ⟨fault, ?_, ne_alreadyExists_of_enter henter⟩
      unfold createNew
      rw [lastStep_join hne hslash hwalkable, hfollow]
      simp only [ok_bind, pure_bind, needFolder_eq_ok.mpr hentry, endsInSlash_join hne hslash,
        hname, henter]
      rfl
    · exact absurd ⟨hwalkable, (enter_eq_ok_iff.mp henter).2.1 hname⟩ hcannot

/-- **No folder.** -/
theorem createNew_of_not_hasFolder (h : ¬d.HasFolder folder) :
    ∃ fault, d.createNew (folder.join ⟨name⟩) = .error fault ∧ fault ≠ .alreadyExists := by
  rcases hwalkable : walkable (folder.join ⟨name⟩) with fault | ⟨⟩
  · refine ⟨fault, ?_, ne_alreadyExists_of_walkable hwalkable⟩
    unfold createNew lastStep
    rw [hwalkable]
    rfl
  · unfold createNew
    rw [lastStep_join hne hslash hwalkable]
    rcases hfollow : d.follow [] folder.segments with fault | place
    · exact ⟨fault, rfl, ne_alreadyExists_of_follow hfollow⟩
    · rcases hfolder : d.needFolder place with fault | ⟨⟩
      · refine ⟨fault, ?_, ne_alreadyExists_of_needFolder hfolder⟩
        simp only [ok_bind, pure_bind, hfolder]
        rfl
      · exact absurd (hasFolder_iff.mpr ⟨walkable_of_join hslash hwalkable, place, hfollow,
          needFolder_eq_ok.mp hfolder⟩) h

end Attempts

/-! ## All attempts -/

theorem toList_candidateName (stem ext : String) (n : Nat) :
    (candidateName stem ext n).toList =
      stem.toList ++ (if n = 0 then [] else '-' :: Nat.toDigits 10 n) ++ '.' :: ext.toList := by
  unfold candidateName
  by_cases hn : n = 0
  · simp [hn]
  · simp [hn]

theorem candidateName_ne (stem ext : String) (n : Nat) : candidateName stem ext n ≠ "" := by
  intro hempty
  have hlist := toList_candidateName stem ext n
  rw [hempty] at hlist
  exact List.append_ne_nil_of_right_ne_nil _ (List.cons_ne_nil _ _) hlist.symm

theorem slash_notMem_candidateName (hstem : '/' ∉ stem.toList) (hext : '/' ∉ ext.toList)
    (n : Nat) : '/' ∉ (candidateName stem ext n).toList := by
  have hdigits : '/' ∉ Nat.toDigits 10 n := fun h =>
    absurd (Number.isDigit_of_mem_toDigits h) (by decide)
  rw [toList_candidateName, List.mem_append, List.mem_append, List.mem_cons, not_or, not_or, not_or]
  refine ⟨⟨hstem, ?_⟩, by decide, hext⟩
  split
  · exact List.not_mem_nil
  · rw [List.mem_cons, not_or]
    exact ⟨by decide, hdigits⟩

/-- The name of an attempt is taken by a file or a folder. -/
def Taken (d : Disk) (folder : Path) (stem ext : String) (n : Nat) : Prop :=
  d.holds (candidate folder stem ext n) = true

/-- All names are taken, or there is a first one that is free. -/
theorem first_free (d : Disk) (folder : Path) (stem ext : String) :
    (∀ n < maxAttempts, d.Taken folder stem ext n) ∨
      ∃ n < maxAttempts, ¬d.Taken folder stem ext n ∧ ∀ k < n, d.Taken folder stem ext k := by
  classical
  by_cases hsome : ∃ n < maxAttempts, ¬d.Taken folder stem ext n
  · obtain ⟨hn, hfree⟩ := Nat.find_spec hsome
    refine .inr ⟨Nat.find hsome, hn, hfree, fun k hk => ?_⟩
    by_contra hnot
    exact Nat.find_min hsome hk ⟨hk.trans hn, hnot⟩
  · push Not at hsome
    exact .inl hsome

section Reservations

variable {n : Nat} (hstem : '/' ∉ stem.toList) (hext : '/' ∉ ext.toList)

theorem reserveFrom_of_ok {left : Nat} (h : d.createNew (candidate folder stem ext n) = .ok d') :
    d.reserveFrom folder stem ext n (left + 1) = .ok (candidate folder stem ext n, d') := by
  have hstep : d.tryReserve folder stem ext n = .reserved (candidate folder stem ext n) d' := by
    unfold tryReserve
    simp only [h]
  unfold reserveFrom
  simp only [hstep]

theorem reserveFrom_of_alreadyExists {left : Nat}
    (h : d.createNew (candidate folder stem ext n) = .error .alreadyExists) :
    d.reserveFrom folder stem ext n (left + 1) = d.reserveFrom folder stem ext (n + 1) left := by
  have hstep : d.tryReserve folder stem ext n = .taken := by
    unfold tryReserve
    simp only [h]
  conv_lhs => unfold reserveFrom
  simp only [hstep]

theorem reserveFrom_of_error {fault : Fault} {left : Nat}
    (h : d.createNew (candidate folder stem ext n) = .error fault) (hne : fault ≠ .alreadyExists) :
    d.reserveFrom folder stem ext n (left + 1) = .error fault := by
  have hstep : d.tryReserve folder stem ext n = .failed fault := by
    unfold tryReserve
    cases fault with
    | alreadyExists => exact absurd rfl hne
    | _ => simp only [h]
  unfold reserveFrom
  simp only [hstep]

include hstem hext

/-- Attempts are passed over as long as their names are taken. -/
theorem reserveFrom_of_taken (hfolder : d.HasFolder folder) (attempt count left : Nat)
    (h : ∀ n < count, d.Taken folder stem ext (attempt + n)) :
    d.reserveFrom folder stem ext attempt (count + left) =
      d.reserveFrom folder stem ext (attempt + count) left := by
  obtain ⟨-, place, hfollow, hentry⟩ := hasFolder_iff.mp hfolder
  induction count generalizing attempt with
  | zero => simp only [Nat.zero_add, Nat.add_zero]
  | succ count ih =>
      have hfirst : d.Taken folder stem ext attempt := h 0 (Nat.succ_pos count)
      have hcreate : d.createNew (candidate folder stem ext attempt) = .error .alreadyExists :=
        createNew_of_holds (candidateName_ne stem ext attempt)
          (slash_notMem_candidateName hstem hext attempt) hfollow hentry hfirst
      have hrest := ih (attempt + 1) fun n hn => by
        rw [Nat.add_right_comm, Nat.add_assoc]
        exact h (n + 1) (Nat.succ_lt_succ hn)
      rw [Nat.succ_add, reserveFrom_of_alreadyExists hcreate, hrest, Nat.add_right_comm,
        Nat.add_assoc]

/-- The first attempt whose name is not taken decides. -/
theorem reserve_eq_of_first (hfolder : d.HasFolder folder) (hn : n < maxAttempts)
    (h : ∀ k < n, d.Taken folder stem ext k) :
    d.reserve folder stem ext = d.reserveFrom folder stem ext n (maxAttempts - n) := by
  have hfirst := reserveFrom_of_taken hstem hext hfolder 0 n (maxAttempts - n) fun k hk => by
    rw [Nat.zero_add]
    exact h k hk
  rwa [Nat.zero_add, Nat.add_sub_cancel' hn.le] at hfirst

/-- A name that is too long is not taken. -/
theorem not_taken_of_long (hfolder : d.HasFolder folder)
    (hlong : maxNameBytes < (candidateName stem ext n).utf8ByteSize) :
    ¬d.Taken folder stem ext n := by
  obtain ⟨-, place, hfollow, -⟩ := hasFolder_iff.mp hfolder
  intro htaken
  obtain ⟨-, next, henter, -⟩ := (holds_join_iff (candidateName_ne stem ext n)
    (slash_notMem_candidateName hstem hext n) hfollow).mp htaken
  refine Nat.not_le.mpr hlong ((enter_eq_ok_iff.mp henter).2.1 ?_)
  rw [isName, Bool.and_eq_true, bne_iff_ne, bne_iff_ne]
  constructor
  · intro hdot
    rw [hdot] at hlong
    exact absurd hlong (by decide)
  · intro hdots
    rw [hdots] at hlong
    exact absurd hlong (by decide)

/-- **The first free name is taken.** -/
theorem reserve_of_free (hfolder : d.HasFolder folder) (hn : n < maxAttempts)
    (htaken : ∀ k < n, d.Taken folder stem ext k) (hfree : ¬d.Taken folder stem ext n)
    (hcan : CanHold folder (candidateName stem ext n)) :
    d.reserve folder stem ext = .ok (candidate folder stem ext n,
      d.insert (candidate folder stem ext n).place (.file [])) := by
  obtain ⟨-, place, hfollow, hentry⟩ := hasFolder_iff.mp hfolder
  have hcreate : d.createNew (candidate folder stem ext n) = _ :=
    createNew_of_free (candidateName_ne stem ext n) (slash_notMem_candidateName hstem hext n)
      hfollow hentry hfree hcan
  obtain ⟨left, hleft⟩ := Nat.exists_eq_succ_of_ne_zero (Nat.sub_ne_zero_of_lt hn)
  rw [reserve_eq_of_first hstem hext hfolder hn htaken, hleft, Nat.succ_eq_add_one,
    reserveFrom_of_ok hcreate]
  rfl

/-- A first free name that cannot be ends the search. -/
theorem reserve_of_not_canHold (hfolder : d.HasFolder folder) (hn : n < maxAttempts)
    (htaken : ∀ k < n, d.Taken folder stem ext k) (hfree : ¬d.Taken folder stem ext n)
    (hcannot : ¬CanHold folder (candidateName stem ext n)) :
    ∃ fault, d.reserve folder stem ext = .error fault := by
  obtain ⟨-, place, hfollow, hentry⟩ := hasFolder_iff.mp hfolder
  obtain ⟨fault, hcreate, hne⟩ := createNew_of_not_canHold (candidateName_ne stem ext n)
    (slash_notMem_candidateName hstem hext n) hfollow hentry hfree hcannot
  obtain ⟨left, hleft⟩ := Nat.exists_eq_succ_of_ne_zero (Nat.sub_ne_zero_of_lt hn)
  refine ⟨fault, ?_⟩
  rw [reserve_eq_of_first hstem hext hfolder hn htaken, hleft, Nat.succ_eq_add_one,
    reserveFrom_of_error hcreate hne]

theorem reserve_of_all_taken (hfolder : d.HasFolder folder)
    (htaken : ∀ k < maxAttempts, d.Taken folder stem ext k) :
    d.reserve folder stem ext = .error (noneLeft folder stem ext) := by
  have hlast := reserveFrom_of_taken hstem hext hfolder 0 maxAttempts 0 fun k hk => by
    rw [Nat.zero_add]
    exact htaken k hk
  rwa [Nat.add_zero] at hlast

theorem reserve_of_not_hasFolder (hfolder : ¬d.HasFolder folder) :
    ∃ fault, d.reserve folder stem ext = .error fault := by
  obtain ⟨fault, hcreate, hne⟩ := createNew_of_not_hasFolder (candidateName_ne stem ext 0)
    (slash_notMem_candidateName hstem hext 0) hfolder
  exact ⟨fault, reserveFrom_of_error hcreate hne⟩

end Reservations

/-! ## Reservations and removals -/

/-- What is done to a disk. -/
inductive Action where
  | reserve (folder : Path) (stem ext : String)
  | remove (p : Path)

/-- A disk, and the paths of the reservations whose files were not removed since. -/
structure Register where
  disk : Disk
  standing : List Path

namespace Register

/-- What an action does. One that is refused does nothing, and removing a file strikes
out its path, however that is spelled. -/
def take (r : Register) : Action → Register
  | .reserve folder stem ext =>
    match r.disk.reserve folder stem ext with
    | .ok (path, disk) => ⟨disk, r.standing ++ [path]⟩
    | .error _ => r
  | .remove p =>
    match r.disk.remove p with
    | .ok disk => ⟨disk, r.standing.filter (·.place != p.place)⟩
    | .error _ => r

/-- What actions do, one after another. -/
def run (d : Disk) (actions : List Action) : Register := actions.foldl take ⟨d, []⟩

/-- Every path that stands leads to a file, and no two lead to the same. -/
structure Standing (r : Register) : Prop where
  files : ∀ p ∈ r.standing, r.disk.file? p.place ≠ none
  apart : r.standing.Pairwise fun p q => p.place ≠ q.place

/-- **One action.** -/
theorem standing_take {r : Register} (h : Standing r) (action : Action) :
    Standing (r.take action) := by
  cases action with
  | reserve folder stem ext =>
      unfold take
      dsimp only
      split
      next path disk hreserve =>
        obtain ⟨-, hcreate⟩ := of_reserveFrom_eq_ok hreserve
        obtain ⟨hreach, hfree, rfl⟩ := createNew_eq_ok hcreate
        have hnew : ∀ p ∈ r.standing, p.place ≠ path.place := by
          intro p hp hplace
          refine h.files p hp ?_
          rw [hplace, file?_eq_none_of_entry?_eq_none hfree]
        constructor
        · intro p hp
          rw [file?_insert hreach.place_ne_nil]
          rcases List.mem_append.mp hp with hbefore | hlast
          · rw [if_neg (hnew p hbefore)]
            exact h.files p hbefore
          · obtain rfl := List.mem_singleton.mp hlast
            simp
        · refine List.pairwise_append.mpr ⟨h.apart, List.pairwise_singleton _ _, ?_⟩
          intro p hp q hq
          obtain rfl := List.mem_singleton.mp hq
          exact hnew p hp
      next => exact h
  | remove p =>
      unfold take
      dsimp only
      split
      next disk hremove =>
        obtain ⟨hreach, -, rfl⟩ := remove_eq_ok_iff.mp hremove
        constructor
        · intro q hq
          obtain ⟨hbefore, hother⟩ := List.mem_filter.mp hq
          rw [file?_erase hreach.place_ne_nil, if_neg (by simpa using hother)]
          exact h.files q hbefore
        · exact h.apart.filter _
      next => exact h

/-- **A run.** -/
theorem standing_run (d : Disk) (actions : List Action) : Standing (run d actions) := by
  have hrun : ∀ r, Standing r → Standing (actions.foldl take r) := by
    induction actions with
    | nil => exact fun r h => h
    | cons action actions ih => exact fun r h => ih _ (standing_take h action)
  exact hrun _ ⟨nofun, .nil⟩

end Register

open Register

/-- **The first free name.** In a folder the first of the names that is not taken
decides: it is created as an empty file, and nothing else changes, or it is a name that
the system cannot hold, and the reservation fails. It also fails without a folder, and
if every name is taken. However files are reserved and removed, the paths that stand
lead to different files. -/
theorem reserve_first_free :
    (∀ (d : Disk) (folder : Path) (stem ext : String),
      '/' ∉ stem.toList → '/' ∉ ext.toList →
      (d.HasFolder folder → (∃ n < maxAttempts, ¬d.Taken folder stem ext n) →
        ∃ n < maxAttempts, ¬d.Taken folder stem ext n ∧ (∀ k < n, d.Taken folder stem ext k) ∧
          (CanHold folder (candidateName stem ext n) →
            ∃ d', d.reserve folder stem ext = .ok (candidate folder stem ext n, d') ∧
              d'.file? (candidate folder stem ext n).place = some [] ∧
              ∀ place ≠ (candidate folder stem ext n).place, d'.entry? place = d.entry? place) ∧
          (¬CanHold folder (candidateName stem ext n) →
            ∃ fault, d.reserve folder stem ext = .error fault)) ∧
      ((¬d.HasFolder folder ∨ ∀ n < maxAttempts, d.Taken folder stem ext n) →
        ∃ fault, d.reserve folder stem ext = .error fault)) ∧
    ∀ (d : Disk) (actions : List Action),
      (run d actions).standing.Pairwise fun p q => p.place ≠ q.place := by
  refine ⟨fun d folder stem ext hstem hext => ⟨?_, ?_⟩, ?_⟩
  · rintro hfolder ⟨n', hn', hfree'⟩
    obtain htaken | ⟨n, hn, hfree, htaken⟩ := first_free d folder stem ext
    · exact absurd (htaken n' hn') hfree'
    refine ⟨n, hn, hfree, htaken, fun hcan => ?_, fun hcannot => ?_⟩
    · have hreserve := reserve_of_free hstem hext hfolder hn htaken hfree hcan
      obtain ⟨hreach, -, -⟩ := createNew_eq_ok (of_reserveFrom_eq_ok hreserve).2
      refine ⟨_, hreserve, ?_, fun place hplace => ?_⟩
      · rw [file?_insert hreach.place_ne_nil, if_pos rfl]
      · rw [entry?_insert hreach.place_ne_nil, if_neg hplace]
    · exact reserve_of_not_canHold hstem hext hfolder hn htaken hfree hcannot
  · rintro (hnone | htaken)
    · exact reserve_of_not_hasFolder hstem hext hnone
    · by_cases hfolder : d.HasFolder folder
      · exact ⟨_, reserve_of_all_taken hstem hext hfolder htaken⟩
      · exact reserve_of_not_hasFolder hstem hext hfolder
  · intro d actions
    exact (standing_run d actions).apart

/-- A folder with two names taken, one of them by a folder, and a gap. -/
def gapDisk : Disk where
  entries :=
    [(["out"], .folder), (["out", "a.mp4"], .file [1]), (["out", "a-1.mp4"], .folder),
      (["out", "a-3.mp4"], .file [2])]

/-- The numbered name of one stem is the plain name of another, and is given out twice,
since its file is removed in between. -/
def twice : List Action :=
  [.reserve ⟨"out"⟩ "a" "mp4", .reserve ⟨"out/"⟩ "a-2" "mp4", .remove ⟨"out//a-2.mp4"⟩,
    .reserve ⟨"out"⟩ "a" "mp4"]

theorem reserve_first_free_gap :
    (∃ d', gapDisk.reserve ⟨"out"⟩ "a" "mp4" = .ok (⟨"out/a-2.mp4"⟩, d') ∧
      d'.file? ["out", "a-2.mp4"] = some [] ∧
      ∀ place ≠ ["out", "a-2.mp4"], d'.entry? place = gapDisk.entry? place) ∧
    (run gapDisk twice).standing = [⟨"out/a-2-1.mp4"⟩, ⟨"out/a-2.mp4"⟩] ∧
    (run gapDisk twice).standing.Pairwise fun p q => p.place ≠ q.place := by
  obtain ⟨hreserve, hapart⟩ := reserve_first_free
  have hfirst : gapDisk.Taken ⟨"out"⟩ "a" "mp4" 0 := by
    rw [Taken]
    decide
  have hsecond : gapDisk.Taken ⟨"out"⟩ "a" "mp4" 1 := by
    rw [Taken]
    decide
  have hgap : ¬gapDisk.Taken ⟨"out"⟩ "a" "mp4" 2 := by
    rw [Taken]
    decide
  obtain ⟨n, -, hfree, htaken, hok, -⟩ := (hreserve gapDisk ⟨"out"⟩ "a" "mp4" (by decide)
    (by decide)).1 (.inr (by decide)) ⟨2, by decide, hgap⟩
  obtain rfl : n = 2 := by
    rcases Nat.lt_trichotomy n 2 with hlow | hn | hhigh
    · rcases (by omega : n = 0 ∨ n = 1) with rfl | rfl
      · exact absurd hfirst hfree
      · exact absurd hsecond hfree
    · exact hn
    · exact absurd (htaken 2 hhigh) hgap
  have hpath : candidate ⟨"out"⟩ "a" "mp4" 2 = ⟨"out/a-2.mp4"⟩ := by decide
  have hplace : (Path.mk "out/a-2.mp4").place = ["out", "a-2.mp4"] := by decide
  have hcan : CanHold ⟨"out"⟩ (candidateName "a" "mp4" 2) :=
    ⟨walkable_eq_ok_iff.mpr (by decide), by decide⟩
  have hreserved := hok hcan
  rw [hpath, hplace] at hreserved
  exact ⟨hreserved, by decide +kernel, hapart gapDisk twice⟩

/-- A name has at least the bytes that its stem and extension have characters. -/
theorem length_le_candidateName (stem ext : String) (n : Nat) :
    stem.toList.length + ext.toList.length + 1 ≤ (candidateName stem ext n).utf8ByteSize := by
  refine le_trans ?_ (Text.length_le_utf8ByteSize _)
  rw [toList_candidateName, List.length_append, List.length_append, List.length_cons]
  omega

/-- More letters than a name may have. -/
def longStem : String := String.ofList (List.replicate 252 'a')

theorem toList_longStem : longStem.toList = List.replicate 252 'a' := String.toList_ofList

theorem not_reserved_long :
    ¬ ∀ (d : Disk) (folder : Path) (stem ext : String),
      '/' ∉ stem.toList → '/' ∉ ext.toList → d.isFolder folder = true →
      (∃ n < maxAttempts, ¬d.Taken folder stem ext n) →
      ∃ n < maxAttempts, ¬d.Taken folder stem ext n ∧ (∀ k < n, d.Taken folder stem ext k) ∧
        ∃ d', d.reserve folder stem ext = .ok (candidate folder stem ext n, d') := by
  intro h
  have hslash : '/' ∉ longStem.toList := by
    rw [toList_longStem]
    exact fun hin => absurd (List.eq_of_mem_replicate hin) (by decide)
  have hslash' : '/' ∉ "mp4".toList := by decide
  have hfolder : gapDisk.HasFolder ⟨"out"⟩ := .inr (by decide)
  have hlong : maxNameBytes < (candidateName longStem "mp4" 0).utf8ByteSize := by
    have hbytes := length_le_candidateName longStem "mp4" 0
    rw [toList_longStem, List.length_replicate] at hbytes
    exact lt_of_lt_of_le (by decide) hbytes
  have hfree := not_taken_of_long hslash hslash' hfolder hlong
  obtain ⟨fault, hfault⟩ := reserve_of_not_canHold hslash hslash' hfolder (Nat.succ_pos 99)
    (fun k hk => absurd hk (Nat.not_lt_zero k)) hfree fun hcan => Nat.not_le.mpr hlong hcan.2
  obtain ⟨n, -, -, -, d', hok⟩ := h gapDisk ⟨"out"⟩ longStem "mp4" hslash hslash' (by decide)
    ⟨0, Nat.succ_pos 99, hfree⟩
  rw [hfault] at hok
  cases hok

end VideoGreeting.Disk
