import VideoGreeting.Proofs.Disk.Finding

/-!
# The folders that lead to a path

A folder that is missing is made after those that lead to it. `Making` says how that goes,
for a path and the paths above it, and the rest is read off it: nothing changes but that
places which the path comes through become folders (`makesFolders_ensureFolder`), and
where the attempt fails, no folder is at the path (`not_hasFolder_of_ensureFolder`).

The path above a path is written with the first of its pieces (`segments_parent`) and
with some of its characters (`sublist_parent`), so it is walked if the path is.
-/

namespace VideoGreeting

namespace Path

variable {p parent : Path}

/-- The path comes through a place on its way from the top. -/
def Passes (p : Path) (place : Place) : Prop :=
  ∃ front, front <+: p.segments ∧ place = front.foldl descend []

/-! ## The path above a path -/

/-- A piece is not empty, and no slash is in it. -/
theorem plain_of_mem_segments {segment : String} (h : segment ∈ p.segments) :
    segment ≠ "" ∧ '/' ∉ segment.toList := by
  obtain ⟨piece, hpiece, rfl⟩ := List.mem_map.mp h
  obtain ⟨hsplit, hsome⟩ := List.mem_filter.mp hpiece
  rw [String.toList_ofList]
  constructor
  · intro hempty
    rw [String.ofList_eq_empty_iff.mp hempty] at hsome
    cases hsome
  · intro hslash
    exact absurd (Text.of_mem_splitBy hsplit hslash).2 (by decide)

/-- Pieces are found again in the text that they are joined to. -/
theorem segments_intercalate {front : List String}
    (h : ∀ segment ∈ front, segment ≠ "" ∧ '/' ∉ segment.toList) (absolute : Bool) :
    segments ⟨(if absolute then "/" else "") ++ "/".intercalate front⟩ = front := by
  have hplain : ∀ piece ∈ front.map String.toList, piece ≠ [] ∧ '/' ∉ piece := by
    intro piece hpiece
    obtain ⟨segment, hsegment, rfl⟩ := List.mem_map.mp hpiece
    exact ⟨mt String.toList_eq_nil_iff.mp (h segment hsegment).1, (h segment hsegment).2⟩
  have hsplit : (Text.splitBy (· == '/') ("/".intercalate front).toList).filter (!·.isEmpty) =
      front.map String.toList := by
    rw [String.toList_intercalate]
    rcases eq_or_ne front [] with rfl | hne
    · rfl
    · have hpieces := Text.splitBy_intercalate (fun piece hpiece => (hplain piece hpiece).2)
        (mt List.map_eq_nil_iff.mp hne)
      refine (congrArg _ hpieces).trans (List.filter_eq_self.mpr fun piece hpiece => ?_)
      simpa using (hplain piece hpiece).1
  have hfront : (front.map String.toList).map String.ofList = front := by
    simp
  cases absolute with
  | false =>
      rw [if_neg Bool.false_ne_true, String.empty_append, segments, hsplit, hfront]
  | true =>
      -- the slash at the start leaves an empty piece before it
      have hstart : Text.splitBy (· == '/') ("/" ++ "/".intercalate front).toList =
          [] :: Text.splitBy (· == '/') ("/".intercalate front).toList := by
        rw [String.toList_append]
        exact Text.splitBy_append_cons rfl [] _
      rw [if_pos rfl, segments, hstart, List.filter_cons_of_neg (by simp), hsplit, hfront]

/-- The path above ends before the last piece that is not a dot, and before the dots
ahead of that. -/
theorem parent?_eq_some (h : p.parent? = some parent) :
    ∃ front, front <+: p.segments ∧ front.length < p.segments.length ∧
      parent = ⟨(if p.isAbsolute then "/" else "") ++ "/".intercalate front⟩ := by
  unfold parent? at h
  dsimp only at h
  split at h
  next => cases h
  next last front hdots =>
    cases h
    have hbefore : front.reverse ++ [last] <+: p.segments := by
      rw [← List.reverse_cons, ← hdots]
      exact List.rdropWhile_prefix _ _
    have hfront := List.rdropWhile_prefix (· == ".") front.reverse
    refine ⟨_, hfront.trans ((List.prefix_append _ _).trans hbefore), ?_, rfl⟩
    refine lt_of_le_of_lt hfront.length_le (lt_of_lt_of_le ?_ hbefore.length_le)
    rw [List.length_append]
    exact Nat.lt_succ_self _

theorem segments_parent (h : p.parent? = some parent) :
    parent.segments <+: p.segments ∧ parent.segments.length < p.segments.length := by
  obtain ⟨front, hfront, hlength, rfl⟩ := parent?_eq_some h
  rw [segments_intercalate fun segment hsegment => plain_of_mem_segments (hfront.mem hsegment)]
  exact ⟨hfront, hlength⟩

theorem passes_of_parent {place : Place} (h : p.parent? = some parent)
    (hpasses : parent.Passes place) : p.Passes place := by
  obtain ⟨front, hfront, hplace⟩ := hpasses
  exact ⟨front, hfront.trans (segments_parent h).1, hplace⟩

end Path

namespace Disk

variable {d d' : Disk} {p parent : Path}

/-- A folder is created where nothing lies, at the end of a walk. -/
theorem createFolder_eq_ok (h : d.createFolder p = .ok d') :
    (walkable p = .ok () ∧ d.follow [] p.segments = .ok p.place) ∧
      p.place ≠ [] ∧ d.entry? p.place = none ∧ d' = d.insert p.place .folder := by
  unfold createFolder at h
  rcases hlast : d.lastStep p with fault | ⟨folder, last⟩
  · rw [hlast] at h
    cases fault <;> cases h
  · rw [hlast] at h
    replace h : ((d.enter folder last).bind fun place =>
        if (!isName last || (d.entry? place).isSome) = true then
          throw Fault.alreadyExists >>= fun _ : Unit => pure (d.insert place .folder)
        else pure (d.insert place .folder)) = .ok d' := h
    obtain ⟨place, henter, h⟩ := bind_eq_ok.mp h
    obtain ⟨hfree, h⟩ := check_eq_ok.mp h
    have hplace : place = p.place := by
      rw [(enter_eq_ok_iff.mp henter).2.2, descend_lastStep hlast]
    subst hplace
    obtain ⟨⟨hdot, hup⟩, hentry⟩ : (last ≠ "." ∧ last ≠ "..") ∧ d.entry? p.place = none := by
      simpa [isName] using hfree
    refine ⟨follow_of_lastStep hlast henter, ?_, hentry, (pure_eq_ok.mp h).symm⟩
    rw [← descend_lastStep hlast, Path.descend, if_neg hdot, if_neg hup]
    exact List.append_ne_nil_of_right_ne_nil _ (List.cons_ne_nil _ _)

/-- What is created is a folder, so folders stay. -/
theorem keepsFolders_insert_folder {place : Place} (hne : place ≠ []) :
    d.KeepsFolders (d.insert place .folder) := by
  intro other hfolder
  rw [entry?_insert hne, hfolder, ite_self]

theorem hasFolder_createFolder (h : d.createFolder p = .ok d') : d'.HasFolder p := by
  obtain ⟨⟨hwalkable, hfollow⟩, hne, -, rfl⟩ := createFolder_eq_ok h
  refine hasFolder_iff.mpr
    ⟨hwalkable, p.place, follow_mono (keepsFolders_insert_folder hne) hfollow, ?_⟩
  rw [entry?_insert hne, if_pos rfl]

/-- How a folder is made: what comes of it, and the disk afterwards. -/
inductive Making : Path → Disk → Except Fault Unit → Disk → Prop where
  /-- There is a folder already. -/
  | there {p : Path} {d : Disk} (hfolder : d.HasFolder p) : Making p d (.ok ()) d
  /-- The folder above is there, and nothing lies at the path. -/
  | made {p : Path} {d d' : Disk} (hcreate : d.createFolder p = .ok d') : Making p d (.ok ()) d'
  /-- It cannot be made, and what lies at the path, if anything, is no folder. -/
  | refused {p : Path} {d : Disk} {fault : Fault} (hfolder : ¬d.HasFolder p) :
      Making p d (.error fault) d
  /-- The folder above is missing and cannot be made. -/
  | stopped {p parent : Path} {d d' : Disk} {fault : Fault} (hparent : p.parent? = some parent)
      (habove : Making parent d (.error fault) d') : Making p d (.error fault) d'
  /-- The folder above is made first, and the path is tried once more. -/
  | resumed {p parent : Path} {d d' d'' : Disk} {result : Except Fault Unit}
      (hparent : p.parent? = some parent) (habove : Making parent d (.ok ()) d')
      (hagain : Making p d' result d'') : Making p d result d''

/-- Where a folder cannot be made, it counts whether there is one. -/
theorem making_settled (htext : p.text ≠ "") (d : Disk) (fault : Fault) :
    Making p d (if d.isFolder p then .ok () else .error fault) d := by
  by_cases hfolder : d.isFolder p = true
  · rw [if_pos hfolder]
    exact .there (.inr hfolder)
  · rw [if_neg hfolder]
    exact .refused (not_or.mpr ⟨htext, hfolder⟩)

/-- A depth of as many folders as lead to a path is enough. -/
theorem making_createFolders {depth : Nat} (d : Disk) (h : p.segments.length < depth) :
    Making p d (d.createFolders p depth).1 (d.createFolders p depth).2 := by
  induction depth generalizing d p with
  | zero => cases h
  | succ depth ih =>
      unfold createFolders
      dsimp only
      split
      next htext => exact .there (.inl (String.isEmpty_iff.mp htext))
      next hsome =>
        have htext : p.text ≠ "" := mt String.isEmpty_iff.mpr hsome
        split
        next d' hcreate => exact .made hcreate
        next =>
          split
          next => exact making_settled htext d _
          next parent hparent =>
            have habove := ih d ((Path.segments_parent hparent).2.trans_le (Nat.le_of_lt_succ h))
            split
            next fault d' hparents =>
              rw [hparents] at habove
              exact .stopped hparent habove
            next d' hparents =>
              rw [hparents] at habove
              split
              next d'' hcreate => exact .resumed hparent habove (.made hcreate)
              next => exact .resumed hparent habove (making_settled htext d' _)
        next => exact making_settled htext d _

/-- **Success leaves a folder at the path.** -/
theorem Making.hasFolder {result : Except Fault Unit} (h : Making p d result d')
    (hok : result = .ok ()) : d'.HasFolder p := by
  induction h with
  | there hfolder => exact hfolder
  | made hcreate => exact hasFolder_createFolder hcreate
  | refused | stopped => cases hok
  | resumed _ _ _ _ ih => exact ih hok

/-! ## What is made -/

/-- `d'` is `d`, with folders where nothing was, at places that the path comes through. -/
def MakesFolders (p : Path) (d d' : Disk) : Prop :=
  ∀ place, d'.entry? place = d.entry? place ∨
    d.entry? place = none ∧ d'.entry? place = some .folder ∧ p.Passes place

namespace MakesFolders

theorem refl (p : Path) (d : Disk) : MakesFolders p d d := fun _ => .inl rfl

theorem trans {d'' : Disk} (h : MakesFolders p d d') (h' : MakesFolders p d' d'') :
    MakesFolders p d d'' := by
  intro place
  rcases h place with hsame | ⟨hnone, hfolder, hpasses⟩
  · rw [← hsame]
    exact h' place
  · rcases h' place with hsame' | ⟨hnone', -⟩
    · exact .inr ⟨hnone, hsame'.trans hfolder, hpasses⟩
    · rw [hfolder] at hnone'
      cases hnone'

/-- Places that the path above comes through are places that the path comes through. -/
theorem of_parent (hparent : p.parent? = some parent) (h : MakesFolders parent d d') :
    MakesFolders p d d' := by
  intro place
  refine (h place).imp_right fun ⟨hnone, hfolder, hpasses⟩ => ⟨hnone, hfolder, ?_⟩
  exact Path.passes_of_parent hparent hpasses

theorem grows (h : MakesFolders p d d') : Grows d d' := by
  constructor
  · intro place
    rcases h place with hsame | ⟨hnone, hfolder, -⟩
    · rw [file?, file?, hsame]
    · rw [file?, file?, hnone, hfolder]
  · intro place hplace
    rcases h place with hsame | ⟨hnone, -⟩
    · rw [hsame, hplace]
    · rw [hplace] at hnone
      cases hnone

end MakesFolders

theorem makesFolders_createFolder (h : d.createFolder p = .ok d') : MakesFolders p d d' := by
  obtain ⟨-, hne, hentry, rfl⟩ := createFolder_eq_ok h
  intro place
  rw [entry?_insert hne]
  by_cases hplace : place = p.place
  · rw [if_pos hplace, hplace]
    exact .inr ⟨hentry, rfl, p.segments, List.prefix_refl _, rfl⟩
  · rw [if_neg hplace]
    exact .inl rfl

theorem Making.makesFolders {result : Except Fault Unit} (h : Making p d result d') :
    MakesFolders p d d' := by
  induction h with
  | there | refused => exact .refl _ _
  | made hcreate => exact makesFolders_createFolder hcreate
  | stopped hparent _ ih => exact ih.of_parent hparent
  | resumed hparent _ _ ih ih' => exact (ih.of_parent hparent).trans ih'

/-- **Folders are made on the way to the path, and nothing else changes.** This is so
whether the attempt succeeds or stops halfway. -/
theorem makesFolders_ensureFolder (d : Disk) (p : Path) :
    MakesFolders p d (d.ensureFolder p).2 := by
  unfold ensureFolder
  split
  next => exact .refl p d
  next => exact (making_createFolders d (by omega)).makesFolders

theorem grows_ensureFolder (d : Disk) (p : Path) : Grows d (d.ensureFolder p).2 :=
  (makesFolders_ensureFolder d p).grows

end Disk

end VideoGreeting
