import VideoGreeting.Proofs.FilterGraph.Linearity
import VideoGreeting.Proofs.FilterGraph.Streams

/-!
# Pads that are written

Reading a pad of the engine uses nothing up, and writing one is not refused. So of the
pads, those are live that some chain has written, each once, and they stay live to the
end (`count_written_of_pushAll`). A graph can be finished with such a pad only if the pad
is its output; and all its other pads are the engine's own wherever they are read.

Main theorem: `pads_written`. That no pad is ever live does not hold
(`not_pads_never_live`).
-/

namespace VideoGreeting.FilterGraph

/-! ## Writing pads -/

/-- The labels that fragments write, chain after chain and as often as they do. -/
def written (fs : List Fragment) : List Label := (fs.flatMap Fragment.chains).flatMap Chain.outputs

/-- Behind these chains a pad is still the engine's own: none of them has written it. -/
def OwnPad (before : List Chain) (l : Label) : Prop :=
  l.isPad = true ∧ ∀ c ∈ before, l ∉ c.outputs

/-- All that counts as a use of a pad is writing it. -/
theorem usesOf_of_isPad {l : Label} (h : l.isPad = true) (fs : List Fragment) :
    usesOf l fs = List.replicate ((written fs).count l) .write := by
  unfold usesOf written
  induction fs.flatMap Fragment.chains with
  | nil => rfl
  | cons c chains ih =>
      rw [List.flatMap_cons, List.flatMap_cons, ih, List.count_append, List.replicate_add,
        Chain.uses, if_pos h, List.nil_append]

/-- A second writing would need a reading before it. -/
theorem le_one_of_alternate {n : Nat} (h : Alternate .write (List.replicate n .write)) :
    n ≤ 1 := by
  match n with
  | 0 | 1 => decide
  | n + 2 => exact absurd h.2.1 (by decide)

variable {fs : List Fragment} {a : Assembly}

/-- **Pads stay live.** Each pad is written at most once, and is live from then on. -/
theorem count_written_of_pushAll (h : Assembly.pushAll {} fs = .ok a) {l : Label}
    (hpad : l.isPad = true) : (written fs).count l = if l ∈ a.live then 1 else 0 := by
  have hfollow := ((Assembly.pushAll_eq_ok_iff fs _ _).mp h).1
  have hrun := follow_uses (fs.flatMap Fragment.events) [] List.nodup_nil
  rw [show (({} : Assembly).live) = [] from rfl] at hfollow
  rw [hfollow] at hrun
  obtain ⟨halternate, hnext⟩ := hrun l
  rw [filterMap_use?_events, usesOf_of_isPad hpad] at halternate hnext
  have hle := le_one_of_alternate (by simpa [nextUse] using halternate)
  by_cases hlive : l ∈ a.live
  · rw [if_pos hlive]
    by_contra hne
    have hzero : (written fs).count l = 0 := by omega
    simp [nextUse, nextAfter, hlive, hzero] at hnext
  · rw [if_neg hlive]
    by_contra hne
    have hone : (written fs).count l = 1 := by omega
    simp [nextUse, nextAfter, hlive, hone, Use.other] at hnext

theorem mem_live_iff_mem_written (h : Assembly.pushAll {} fs = .ok a) {l : Label}
    (hpad : l.isPad = true) : l ∈ a.live ↔ l ∈ written fs := by
  rw [← List.count_pos_iff (l := written fs), count_written_of_pushAll h hpad]
  by_cases hlive : l ∈ a.live <;> simp [hlive]

/-- Of the pads, a finished graph writes its output only, if that is one. -/
theorem mem_written_iff_of_finish (h : Assembly.pushAll {} fs = .ok a) {o : Label} {g : Graph}
    (hfinish : a.finish o = .ok g) {l : Label} (hpad : l.isPad = true) :
    l ∈ written g.fragments ↔ l = o := by
  obtain ⟨honly, rfl⟩ := (Assembly.finish_eq_ok_iff a o g).mp hfinish
  have hfragments : a.fragments = fs := ((Assembly.pushAll_eq_ok_iff fs _ _).mp h).2
  show l ∈ written a.fragments ↔ _
  rw [hfragments, ← mem_live_iff_mem_written h hpad, honly]

/-- **Which pads are live.** Those that some fragment has written, each once; so none is
exactly if none was written. When a graph is finished, its output is the only pad that
may have been written, and any other pad is the engine's own wherever a chain reads
it. -/
theorem pads_written (h : Assembly.pushAll {} fs = .ok a) :
    (∀ l, l.isPad = true → (written fs).count l = if l ∈ a.live then 1 else 0) ∧
    ((∀ l ∈ a.live, l.isPad = false) ↔ ∀ l ∈ written fs, l.isPad = false) ∧
    ∀ o g, a.finish o = .ok g →
      (∀ l, l.isPad = true → (l ∈ written g.fragments ↔ l = o)) ∧
      ∀ before c after, g.chains = before ++ c :: after →
        ∀ l ∈ c.inputs, l.isPad = true → l ≠ o → OwnPad before l := by
  refine ⟨fun l hpad => count_written_of_pushAll h hpad, ?_, fun o g hfinish => ⟨?_, ?_⟩⟩
  · refine forall_congr' fun l => ?_
    by_cases hpad : l.isPad = true
    · rw [mem_live_iff_mem_written h hpad]
    · simp [hpad]
  · exact fun l hpad => mem_written_iff_of_finish h hfinish hpad
  · intro before c after hchains l _ hpad hne
    refine ⟨hpad, fun c' hc' hout => hne ?_⟩
    rw [← mem_written_iff_of_finish h hfinish hpad]
    refine List.mem_flatMap.mpr ⟨c', ?_, hout⟩
    show c' ∈ g.chains
    rw [hchains]
    exact List.mem_append_left _ hc'

/-- A pad that is written, and read where it is no longer the engine's own. -/
def shadowed : Fragment where
  role := .backgroundScale
  chains :=
    [ { filters := ["color"], outputs := [.inputVideo 0] },
      { inputs := [.inputVideo 0, .inputVideo 1], filters := ["overlay", "nullsink"] } ]

theorem pads_written_shadowed :
    ∃ a g,
      Assembly.pushAll {} [shadowed] = .ok a ∧ a.finish (.inputVideo 0) = .ok g ∧
      a.live = [.inputVideo 0] ∧ Label.inputVideo 0 ∈ written g.fragments ∧
      Label.inputVideo 1 ∉ written g.fragments ∧
      ¬OwnPad (shadowed.chains.take 1) (.inputVideo 0) ∧
      OwnPad (shadowed.chains.take 1) (.inputVideo 1) := by
  have hpush : Assembly.pushAll {} [shadowed] =
      .ok { fragments := [shadowed], live := [.inputVideo 0] } := by decide
  have hfinish : Assembly.finish { fragments := [shadowed], live := [.inputVideo 0] }
      (.inputVideo 0) = .ok { fragments := [shadowed], output := .inputVideo 0 } := by decide
  obtain ⟨-, -, hgraph⟩ := pads_written hpush
  obtain ⟨hwritten, hown⟩ := hgraph _ _ hfinish
  refine ⟨_, _, hpush, hfinish, rfl, (hwritten _ (by simp)).mpr rfl,
    fun hmem => absurd ((hwritten _ (by simp)).mp hmem) (by decide), ?_,
    hown (shadowed.chains.take 1) _ [] rfl _ (by decide) (by decide) (by decide)⟩
  rintro ⟨-, hout⟩
  exact hout _ List.mem_cons_self List.mem_cons_self

/-- A pad that is written is live, and can be the output of a graph. -/
theorem not_pads_never_live :
    ¬ ∀ (fs : List Fragment) (a : Assembly), Assembly.pushAll {} fs = .ok a →
      (∀ l ∈ a.live, l.isPad = false) ∧
      ∀ o g, a.finish o = .ok g →
        o.isPad = false ∧ (∀ l ∈ written g.fragments, l.isPad = false) ∧
        ∀ before c after, g.chains = before ++ c :: after →
          ∀ l ∈ c.inputs, l.isPad = true → OwnPad before l := by
  intro h
  obtain ⟨hlive, -⟩ := h [shadowed] { fragments := [shadowed], live := [.inputVideo 0] } (by decide)
  exact absurd (hlive (.inputVideo 0) List.mem_cons_self) (by decide)

end VideoGreeting.FilterGraph
