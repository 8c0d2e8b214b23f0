import VideoGreeting.Proofs.Disk.Finding

/-!
# What still lies where it lay

Folders are made and files are reserved where nothing lies yet. So whatever a path led
to before, it leads to afterwards, and a file that is reserved and removed again leaves
no trace.
-/

namespace VideoGreeting.Disk

/-- Whatever lies on `d` lies at the same place on `d'`. -/
def Keeps (d d' : Disk) : Prop :=
  ∀ place entry, d.entry? place = some entry → d'.entry? place = some entry

namespace Keeps

variable {d d' d'' : Disk}

theorem trans (h : d.Keeps d') (h' : d'.Keeps d'') : d.Keeps d'' :=
  fun place entry hentry => h' place entry (h place entry hentry)

theorem folders (h : d.Keeps d') : d.KeepsFolders d' := fun place => h place .folder

end Keeps

variable {d d' : Disk}

theorem Grows.keeps (h : Grows d d') : d.Keeps d' := by
  intro place entry hentry
  cases entry with
  | file content =>
      rw [← file?_eq_some] at hentry ⊢
      rw [h.files, hentry]
  | folder => exact h.folders place hentry

theorem keeps_insert {place : Place} (hne : place ≠ []) (hfree : d.entry? place = none)
    (entry : Entry) : d.Keeps (d.insert place entry) := by
  intro other old hold
  rw [entry?_insert hne, if_neg, hold]
  rintro rfl
  rw [hfree] at hold
  cases hold

/-! ## Reserving a file -/

/-- What is reserved is one of the names tried, and it is created on the disk as it
was. -/
theorem of_reserveFrom_eq_ok {folder path : Path} {stem ext : String} {attempt left : Nat}
    (h : d.reserveFrom folder stem ext attempt left = .ok (path, d')) :
    (∃ n, path = candidate folder stem ext n) ∧ d.createNew path = .ok d' := by
  induction left generalizing attempt with
  | zero =>
      have hnone : d.reserveFrom folder stem ext attempt 0 = .error (noneLeft folder stem ext) :=
        rfl
      rw [hnone] at h
      cases h
  | succ left ih =>
      unfold reserveFrom at h
      cases hreserve : d.tryReserve folder stem ext attempt with
      | reserved reserved disk =>
          rw [hreserve] at h
          cases h
          obtain ⟨hpath, hcreate⟩ := tryReserve_eq_reserved hreserve
          exact ⟨⟨attempt, hpath⟩, hcreate⟩
      | taken =>
          rw [hreserve] at h
          exact ih h
      | failed fault =>
          rw [hreserve] at h
          cases h

theorem keeps_createNew {p : Path} (h : d.createNew p = .ok d') : d.Keeps d' := by
  obtain ⟨hreach, hfree, rfl⟩ := createNew_eq_ok h
  exact keeps_insert hreach.place_ne_nil hfree _

/-- What is put where nothing lies and taken away again leaves the disk as it was. -/
theorem erase_insert {place : Place} (hne : place ≠ []) (hfree : d.entry? place = none)
    (entry : Entry) : (d.insert place entry).erase place = d := by
  unfold entry? at hfree
  rw [if_neg hne, List.lookup_eq_none_iff] at hfree
  have hother : d.entries.filter (·.1 != place) = d.entries := by
    rw [List.filter_eq_self]
    intro held hheld
    exact bne_iff_ne.mpr (bne_iff_ne.mp (hfree held hheld)).symm
  unfold insert erase
  rw [hother, List.filter_cons_of_neg (by simp), hother]

/-- **A new file that is removed again leaves no trace.** -/
theorem discard_of_createNew {p : Path} (h : d.createNew p = .ok d') : d'.discard p = d := by
  have hkeep := keeps_createNew h
  obtain ⟨hreach, hfree, rfl⟩ := createNew_eq_ok h
  have hremove : (d.insert p.place (.file [])).remove p =
      .ok ((d.insert p.place (.file [])).erase p.place) := by
    refine remove_eq_ok_iff.mpr ⟨hreach.mono hkeep.folders, ?_, rfl⟩
    rw [file?_insert hreach.place_ne_nil, if_pos rfl]
    exact Option.some_ne_none _
  rw [discard, hremove]
  exact erase_insert hreach.place_ne_nil hfree _

/-! ## Finding -/

theorem find_mono {p : Path} {found : Place × Entry} (hkeep : d.Keeps d')
    (h : d.find p = .ok found) : d'.find p = .ok found := by
  obtain ⟨place, entry⟩ := found
  rw [find_eq_ok_iff] at h ⊢
  obtain ⟨hwalkable, htext, hfollow, hentry⟩ := h
  exact ⟨hwalkable, htext, follow_mono hkeep.folders hfollow, hkeep place entry hentry⟩

/-- **What was there is there.** -/
theorem holds_mono {p : Path} (hkeep : d.Keeps d') (h : d.holds p = true) :
    d'.holds p = true := by
  unfold holds at h ⊢
  rcases hfind : d.find p with fault | found
  · rw [hfind] at h
    cases h
  · rw [find_mono hkeep hfind]
    rfl

end VideoGreeting.Disk
