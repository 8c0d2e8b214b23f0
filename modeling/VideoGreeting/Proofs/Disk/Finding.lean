import VideoGreeting.Proofs.Disk.Files

/-!
# Finding what a path leads to

What is found is the end of a walk through folders: everything on the way down to a place
is a folder. So a path leads to a folder exactly if the walk along its pieces ends in one,
whether or not it ends in a slash (`hasFolder_iff`).
-/

namespace VideoGreeting.Disk

open Text (Bytes)

variable {d : Disk} {place : Place} {folder p : Path} {name : String}

/-! ## Walks and what they find -/

theorem walkable_eq_ok_iff :
    walkable p = .ok () ↔ '\x00' ∉ p.text.toList ∧ p.text.utf8ByteSize ≤ maxPathBytes := by
  unfold walkable
  by_cases hnul : '\x00' ∈ p.text.toList
  · simp [hnul]
  · by_cases hlong : maxPathBytes < p.text.utf8ByteSize
    · simp [hnul, hlong]
    · simpa [hnul, hlong] using Nat.not_lt.mp hlong

theorem find_eq_ok_iff {entry : Entry} :
    d.find p = .ok (place, entry) ↔
      walkable p = .ok () ∧ p.text ≠ "" ∧
        d.follow [] (if p.endsInSlash then p.segments ++ ["."] else p.segments) = .ok place ∧
        d.entry? place = some entry := by
  simp only [find, bind_eq_ok, check_eq_ok]
  constructor
  · rintro ⟨⟨⟩, hwalkable, htext, reached, hfollow, h⟩
    rcases hentry : d.entry? reached with _ | held
    · rw [hentry] at h
      cases h
    · rw [hentry] at h
      cases h
      exact ⟨hwalkable, by simpa using htext, hfollow, hentry⟩
  · rintro ⟨hwalkable, htext, hfollow, hentry⟩
    refine ⟨(), hwalkable, by simpa using htext, place, hfollow, ?_⟩
    rw [hentry]
    rfl

theorem holds_iff : d.holds p = true ↔ ∃ place entry, d.find p = .ok (place, entry) := by
  unfold holds
  rcases d.find p with fault | ⟨place, entry⟩
  · simp [Except.isOk, Except.toBool]
  · simp [Except.isOk, Except.toBool]

theorem isFolder_iff : d.isFolder p = true ↔ ∃ place, d.find p = .ok (place, .folder) := by
  unfold isFolder
  rcases d.find p with fault | ⟨place, content | _⟩ <;> simp

theorem follow_append (d : Disk) (place : Place) (front back : List String) :
    d.follow place (front ++ back) = d.follow place front >>= fun next => d.follow next back :=
  List.foldlM_append

theorem follow_singleton (d : Disk) (place : Place) (segment : String) :
    d.follow place [segment] = d.enter place segment := by
  unfold follow
  rw [List.foldlM_cons]
  rcases d.enter place segment with fault | next
  · rfl
  · rfl

/-- The last step goes on from the walk along the pieces before it. -/
theorem follow_of_lastStep {last : String} {before : Place}
    (hlast : d.lastStep p = .ok (before, last)) (henter : d.enter before last = .ok place) :
    walkable p = .ok () ∧ d.follow [] p.segments = .ok place := by
  obtain ⟨hwalkable, hsegments, hfollow⟩ := lastStep_eq_ok_iff.mp hlast
  have hpieces : p.segments = p.segments.dropLast ++ [last] :=
    (List.dropLast_append_getLast? _ hsegments).symm
  refine ⟨hwalkable, ?_⟩
  rw [hpieces, follow_append, hfollow, ok_bind, follow_singleton, henter]

/-- There is a folder at a path; the empty path stands for the top. -/
def HasFolder (d : Disk) (folder : Path) : Prop := folder.text = "" ∨ d.isFolder folder = true

/-- A slash at the end makes no difference for what is asked to be a folder. -/
theorem hasFolder_iff : d.HasFolder folder ↔
    walkable folder = .ok () ∧
      ∃ place, d.follow [] folder.segments = .ok place ∧ d.entry? place = some .folder := by
  unfold HasFolder
  rw [isFolder_iff]
  simp only [find_eq_ok_iff]
  constructor
  · rintro (hempty | ⟨place, hwalkable, -, hfollow, hentry⟩)
    · refine ⟨walkable_eq_ok_iff.mpr ?_, [], ?_, rfl⟩
      · simp [hempty]
      · simp [Path.segments, hempty, Text.splitBy, follow, pure, Except.pure]
    · refine ⟨hwalkable, place, ?_, hentry⟩
      split at hfollow
      · rw [follow_append, bind_eq_ok] at hfollow
        obtain ⟨next, hnext, hdot⟩ := hfollow
        rw [follow_singleton, enter_eq_ok_iff, Path.descend, if_pos rfl] at hdot
        rw [hnext, hdot.2.2]
      · exact hfollow
  · rintro ⟨hwalkable, place, hfollow, hentry⟩
    by_cases hempty : folder.text = ""
    · exact .inl hempty
    · refine .inr ⟨place, hwalkable, hempty, ?_, hentry⟩
      split
      · rw [follow_append, bind_eq_ok]
        refine ⟨place, hfollow, ?_⟩
        rw [follow_singleton, enter_eq_ok_iff, Path.descend, if_pos rfl]
        exact ⟨hentry, fun hname => absurd hname (by decide), rfl⟩
      · exact hfollow

/-- What a walk goes through are folders. -/
theorem entry?_of_follow {segments : List String} (h : d.follow [] segments = .ok place)
    {front rest : Place} {next : String} (hplace : place = front ++ next :: rest) :
    d.entry? front = some .folder := by
  induction segments using List.reverseRecOn generalizing place front next rest with
  | nil =>
      cases h
      exact absurd hplace.symm (List.append_ne_nil_of_right_ne_nil _ (List.cons_ne_nil _ _))
  | append_singleton segments segment ih =>
      rw [follow_append, bind_eq_ok] at h
      obtain ⟨before, hbefore, henter⟩ := h
      rw [follow_singleton, enter_eq_ok_iff] at henter
      obtain ⟨hfolder, -, rfl⟩ := henter
      unfold Path.descend at hplace
      split at hplace
      · exact ih hbefore hplace
      · split at hplace
        · -- going back, the last name of the place before was dropped
          have hne : before ≠ [] := by
            rintro rfl
            exact absurd hplace.symm (List.append_ne_nil_of_right_ne_nil _ (List.cons_ne_nil _ _))
          have hback : before = front ++ next :: (rest ++ [before.getLast hne]) := by
            rw [← List.cons_append, ← List.append_assoc, ← hplace, List.dropLast_append_getLast]
          exact ih hbefore hback
        · rcases List.eq_nil_or_concat rest with rfl | ⟨rest, last, rfl⟩
          · obtain ⟨rfl, -⟩ := List.append_inj' hplace rfl
            exact hfolder
          · rw [List.concat_eq_append, ← List.cons_append, ← List.append_assoc] at hplace
            obtain ⟨rfl, -⟩ := List.append_inj' hplace rfl
            exact ih hbefore rfl

/-- From a folder that was reached, a piece that is no name leads to a folder. -/
theorem entry?_descend {segments : List String} (h : d.follow [] segments = .ok place)
    (hfolder : d.entry? place = some .folder) (hname : isName name = false) :
    d.entry? (Path.descend place name) = some .folder := by
  unfold Path.descend
  split
  · exact hfolder
  · rw [if_pos (by simp_all [isName])]
    rcases List.eq_nil_or_concat place with rfl | ⟨front, last, rfl⟩
    · exact hfolder
    · rw [List.concat_eq_append, List.dropLast_concat]
      exact entry?_of_follow h (List.concat_eq_append)

/-! ## What is read -/

theorem isFolder_eq_false (h : d.read p ≠ .error .isFolder) : d.isFolder p = false := by
  unfold read at h
  unfold isFolder
  rcases hfind : d.find p with fault | ⟨place, content | _⟩
  · rfl
  · rfl
  · rw [hfind] at h
    exact absurd rfl h

/-- A path leads to a file exactly if it is reached by name: a slash at the end or a piece
that is no name would ask for a folder. -/
theorem find_eq_file_iff {content : Bytes} : d.find p = .ok (place, .file content) ↔
    d.Reaches p ∧ p.place = place ∧ d.file? place = some content := by
  rw [find_eq_ok_iff, file?_eq_some]
  constructor
  · rintro ⟨hwalkable, -, hfollow, hentry⟩
    have hslash : p.endsInSlash = false := by
      by_contra hslash
      rw [if_pos (by simpa using hslash), follow_append, bind_eq_ok] at hfollow
      obtain ⟨next, -, hdot⟩ := hfollow
      rw [follow_singleton, enter_eq_ok_iff, Path.descend, if_pos rfl] at hdot
      obtain ⟨hfolder, -, rfl⟩ := hdot
      rw [hfolder] at hentry
      cases hentry
    rw [hslash, if_neg Bool.false_ne_true] at hfollow
    rcases List.eq_nil_or_concat p.segments with hnil | ⟨front, last, hsegments⟩
    · rw [hnil] at hfollow
      cases hfollow
      cases hentry
    · rw [List.concat_eq_append] at hsegments
      rw [hsegments, follow_append, bind_eq_ok] at hfollow
      obtain ⟨before, hbefore, henter⟩ := hfollow
      rw [follow_singleton] at henter
      have hlast : d.lastStep p = .ok (before, last) :=
        lastStep_eq_ok_iff.mpr ⟨hwalkable, by simp [hsegments], by simpa [hsegments] using hbefore⟩
      obtain ⟨hfolder, -, hplace⟩ := enter_eq_ok_iff.mp henter
      have hname : isName last = true := by
        by_contra hname
        rw [hplace, entry?_descend hbefore hfolder (by simpa using hname)] at hentry
        cases hentry
      rw [descend_lastStep hlast] at hplace
      subst hplace
      exact ⟨⟨before, last, hlast, hname, henter, hslash⟩, rfl, hentry⟩
  · rintro ⟨⟨folder, last, hlast, hname, henter, hslash⟩, rfl, hentry⟩
    obtain ⟨hwalkable, hwalk⟩ := follow_of_lastStep hlast henter
    refine ⟨hwalkable, ?_, by rwa [hslash], hentry⟩
    intro hempty
    have hsegments := (lastStep_eq_ok_iff.mp hlast).2.1
    simp [Path.segments, hempty, Text.splitBy] at hsegments

/-- A file that is reached is read. -/
theorem read_of_reaches {content : Bytes} (hreaches : d.Reaches p)
    (hfile : d.file? p.place = some content) : d.read p = .ok content := by
  rw [read, find_eq_file_iff.mpr ⟨hreaches, rfl, hfile⟩]
  rfl

end VideoGreeting.Disk
