import VideoGreeting.Proofs.FilterGraph.Linearity

/-!
# Graphs after refusals

A caller may go on after a fragment was refused. Such a fragment is no part of
the graph, but the labels keep what happened to them before its fault. So a
graph may be finished whose own fragments make no graph (`not_reassembles`).

What can be said instead, for one refusal and for a whole history: no caller can
tell that a fragment was refused exactly if, before its fault, it used every
label an even number of times, that is, undid what it did (`alike_push_iff`).
And if every refused fragment of a history did so, the graph that is finished is
the graph of its own fragments (`reassembles_of_undone`). Both together are
`refusals_and_graphs`.
-/

namespace VideoGreeting.FilterGraph

/-! ## What happened before a fault -/

/-- The events up to the first that is not allowed. -/
def happened (live : List Label) : List Event → List Event
  | [] => []
  | e :: rest =>
    match e.after? live with
    | some live => e :: happened live rest
    | none => []

theorem follow_happened (events : List Event) : ∀ live : List Label,
    follow live (happened live events) = ((follow live events).1, none) := by
  induction events with
  | nil =>
      intro live
      rfl
  | cons e rest ih =>
      intro live
      rw [happened, follow]
      cases hafter : e.after? live with
      | none => rfl
      | some live' =>
          dsimp only
          rw [follow, hafter]
          exact ih live'

theorem nodup_follow (events : List Event) : ∀ live : List Label, live.Nodup →
    (follow live events).1.Nodup := by
  induction events with
  | nil => exact fun live hnodup => hnodup
  | cons e rest ih =>
      intro live hnodup
      rw [follow]
      cases hafter : e.after? live with
      | none => exact hnodup
      | some live' => exact ih live' (after?_eq_some hnodup hafter).1

/-- Alternating uses end where they began if there is an even number of them. -/
theorem nextAfter_eq_iff (us : List Use) : ∀ next : Use, Alternate next us →
    (nextAfter next us = next ↔ Even us.length) := by
  induction us with
  | nil => simp [nextAfter]
  | cons u us ih =>
      rintro next ⟨rfl, hrest⟩
      rw [nextAfter_cons, List.length_cons, Nat.even_add_one, ← ih u.other hrest]
      cases u <;> cases nextAfter (Use.other _) us <;> simp [Use.other]

/-- A fragment that is refused undoes what it did: before its fault it uses
every label an even number of times. -/
def Fragment.Undoes (f : Fragment) (live : List Label) : Prop :=
  ∀ l, Even ((happened live f.events).filterMap (Event.use? l)).length

/-- The labels are the same afterwards exactly if all was undone. -/
theorem perm_follow_iff {f : Fragment} {live : List Label} (hnodup : live.Nodup) :
    (follow live f.events).1.Perm live ↔ f.Undoes live := by
  have huses := follow_uses (happened live f.events) live hnodup
  rw [follow_happened] at huses
  rw [List.perm_ext_iff_of_nodup (nodup_follow _ _ hnodup) hnodup]
  refine forall_congr' fun l => ?_
  obtain ⟨halternate, hnext⟩ := huses l
  rw [← nextAfter_eq_iff _ _ halternate, ← hnext]
  unfold nextUse
  by_cases hl : l ∈ live <;> by_cases hl' : l ∈ (follow live f.events).1 <;> simp [hl, hl']

/-! ## What a caller can tell -/

/-- Which labels are live decides, not their order. -/
theorem follow_perm (events : List Event) : ∀ {live live' : List Label}, live.Perm live' →
    (follow live events).1.Perm (follow live' events).1 ∧
      (follow live events).2 = (follow live' events).2 := by
  induction events with
  | nil => exact fun hperm => ⟨hperm, rfl⟩
  | cons e rest ih =>
      intro live live' hperm
      rw [follow, follow]
      cases e with
      | read l =>
          by_cases hpad : l.isPad = true
          · simpa only [Event.after?, if_pos hpad] using ih hperm
          · by_cases hl : l ∈ live
            · simpa only [Event.after?, if_neg hpad, if_pos hl, if_pos (hperm.mem_iff.mp hl)]
                using ih (hperm.erase l)
            · simpa only [Event.after?, if_neg hpad, if_neg hl,
                if_neg (mt hperm.mem_iff.mpr hl), and_true] using hperm
      | write l =>
          by_cases hl : l ∈ live
          · simpa only [Event.after?, if_pos hl, if_pos (hperm.mem_iff.mp hl), and_true]
              using hperm
          · simpa only [Event.after?, if_neg hl, if_neg (mt hperm.mem_iff.mpr hl)]
              using ih (hperm.cons l)

namespace Assembly

/-- What a caller sees: the answer to each fragment, and the graph or the fault
at the end. -/
def answers (a : Assembly) (output : Label) :
    List Fragment → List (Except Fault Unit) × Except Fault Graph
  | [] => ([], a.finish output)
  | f :: rest =>
    let (given, final) := (a.push f).2.answers output rest
    ((a.push f).1 :: given, final)

/-- No caller can tell two assemblies apart. -/
def Alike (a b : Assembly) : Prop := ∀ output fs, a.answers output fs = b.answers output fs

variable {a b : Assembly}

theorem live_push (a : Assembly) (f : Fragment) :
    (a.push f).2.live = (follow a.live f.events).1 := by
  unfold push
  rcases follow a.live f.events with ⟨live, none | e⟩
  · rfl
  · rfl

theorem fragments_push (a : Assembly) (f : Fragment) :
    (a.push f).2.fragments = if (a.push f).1 = .ok () then a.fragments ++ [f] else a.fragments := by
  unfold push
  rcases follow a.live f.events with ⟨live, none | e⟩
  · rfl
  · rfl

theorem answer_of_perm (hperm : a.live.Perm b.live) (f : Fragment) :
    (a.push f).1 = (b.push f).1 := by
  obtain ⟨-, hfault⟩ := follow_perm f.events hperm
  unfold push
  rcases hfollow : follow a.live f.events with ⟨live, fault?⟩
  rcases hfollow' : follow b.live f.events with ⟨live', fault?'⟩
  rw [hfollow, hfollow'] at hfault
  obtain rfl : fault? = fault?' := hfault
  cases fault? with
  | none => rfl
  | some e => rfl

theorem mergeSort_of_perm {names names' : List String} (h : names.Perm names') :
    names.mergeSort (fun x y => decide (x ≤ y)) =
      names'.mergeSort (fun x y => decide (x ≤ y)) := by
  refine List.Perm.eq_of_sortedLE List.sortedLE_mergeSort List.sortedLE_mergeSort ?_
  exact ((List.mergeSort_perm names _).trans h).trans (List.mergeSort_perm names' _).symm

theorem finish_of_perm (hfragments : a.fragments = b.fragments) (hperm : a.live.Perm b.live)
    (output : Label) : a.finish output = b.finish output := by
  unfold finish
  by_cases houtput : output ∈ a.live
  · rw [if_pos houtput, if_pos (hperm.mem_iff.mp houtput)]
    have hdangling := (hperm.filter (· != output)).map Label.name
    generalize (a.live.filter (· != output)).map Label.name = dangling at hdangling ⊢
    generalize (b.live.filter (· != output)).map Label.name = dangling' at hdangling ⊢
    cases dangling with
    | nil =>
        obtain rfl := List.nil_perm.mp hdangling
        rw [hfragments]
    | cons name names =>
        obtain ⟨name', names', rfl⟩ :=
          List.exists_cons_of_ne_nil fun hnil => List.cons_ne_nil name names
            (List.perm_nil.mp (hnil ▸ hdangling))
        dsimp only
        rw [mergeSort_of_perm hdangling]
  · rw [if_neg houtput, if_neg (mt hperm.mem_iff.mpr houtput)]

theorem fragments_push_of_perm (hfragments : a.fragments = b.fragments)
    (hperm : a.live.Perm b.live) (f : Fragment) :
    (a.push f).2.fragments = (b.push f).2.fragments := by
  rw [fragments_push, fragments_push, answer_of_perm hperm, hfragments]

theorem live_push_of_perm (hperm : a.live.Perm b.live) (f : Fragment) :
    (a.push f).2.live.Perm (b.push f).2.live := by
  rw [live_push, live_push]
  exact (follow_perm f.events hperm).1

theorem alike_of_perm (hfragments : a.fragments = b.fragments) (hperm : a.live.Perm b.live) :
    a.Alike b := by
  intro output fs
  induction fs generalizing a b with
  | nil => rw [answers, answers, finish_of_perm hfragments hperm]
  | cons f fs ih =>
      rw [answers, answers, answer_of_perm hperm,
        ih (fragments_push_of_perm hfragments hperm f) (live_push_of_perm hperm f)]

/-- A fragment that does nothing but write a label. -/
def writer (l : Label) : Fragment := { role := .caption, chains := [{ outputs := [l] }] }

theorem push_writer (a : Assembly) (l : Label) :
    (a.push (writer l)).1 = .ok () ↔ l ∉ a.live := by
  unfold push
  rw [show (writer l).events = [.write l] from rfl, follow, Event.after?]
  by_cases hl : l ∈ a.live
  · simp [hl]
  · simp [hl, follow]

/-- Writing a label tells whether it is live. -/
theorem mem_live_of_alike (h : a.Alike b) (l : Label) : l ∈ a.live ↔ l ∈ b.live := by
  have hanswers := congrArg Prod.fst (h l [writer l])
  rw [answers, answers] at hanswers
  have hanswer : (a.push (writer l)).1 = (b.push (writer l)).1 := (List.cons.inj hanswers).1
  rw [← not_iff_not, ← push_writer, ← push_writer, hanswer]

/-- **One refusal.** It goes unnoticed exactly if the fragment undid what it
did. -/
theorem alike_push_iff {f : Fragment} (hnodup : a.live.Nodup) (h : (a.push f).1 ≠ .ok ()) :
    (a.push f).2.Alike a ↔ f.Undoes a.live := by
  rw [← perm_follow_iff hnodup]
  constructor
  · intro halike
    rw [List.perm_ext_iff_of_nodup (nodup_follow _ _ hnodup) hnodup, ← live_push]
    exact mem_live_of_alike halike
  · intro hperm
    refine alike_of_perm ?_ ?_
    · rw [fragments_push, if_neg h]
    · rwa [live_push]

/-! ## Histories -/

/-- The assembly after a caller pushed fragments without looking at the
answers. -/
def pushEach (a : Assembly) (fs : List Fragment) : Assembly :=
  fs.foldl (fun a f => (a.push f).2) a

/-- Every fragment of a history that is refused undoes what it did. -/
def Undone (a : Assembly) : List Fragment → Prop
  | [] => True
  | f :: rest => ((a.push f).1 ≠ .ok () → f.Undoes a.live) ∧ (a.push f).2.Undone rest

/-- The fragments of a history that are not refused. -/
def accepted (a : Assembly) : List Fragment → List Fragment
  | [] => []
  | f :: rest =>
    if (a.push f).1 = .ok () then f :: (a.push f).2.accepted rest
    else (a.push f).2.accepted rest

theorem nodup_push (hnodup : a.live.Nodup) (f : Fragment) : (a.push f).2.live.Nodup := by
  rw [live_push]
  exact nodup_follow _ _ hnodup

theorem nodup_pushEach (fs : List Fragment) : ∀ {a : Assembly}, a.live.Nodup →
    (a.pushEach fs).live.Nodup := by
  induction fs with
  | nil => exact fun hnodup => hnodup
  | cons f fs ih => exact fun hnodup => ih (nodup_push hnodup f)

/-- Whatever is refused, the graph holds the fragments that are not. -/
theorem fragments_pushEach (fs : List Fragment) : ∀ a : Assembly,
    (a.pushEach fs).fragments = a.fragments ++ a.accepted fs := by
  induction fs with
  | nil => exact fun a => (List.append_nil _).symm
  | cons f fs ih =>
      intro a
      show ((a.push f).2.pushEach fs).fragments = _
      rw [ih, fragments_push, accepted]
      by_cases hf : (a.push f).1 = .ok ()
      · rw [if_pos hf, if_pos hf, List.append_assoc, List.singleton_append]
      · rw [if_neg hf, if_neg hf]

theorem pushAll_cons {f : Fragment} (h : (a.push f).1 = .ok ()) (fs : List Fragment) :
    a.pushAll (f :: fs) = (a.push f).2.pushAll fs := by
  rw [pushAll]
  rcases hpush : a.push f with ⟨answer, a'⟩
  rw [hpush] at h
  obtain rfl : answer = .ok () := h
  rfl

/-- **A history.** If all refused fragments undo what they did, the labels are
as if the others alone had been pushed. -/
theorem pushAll_accepted (fs : List Fragment) : ∀ {a b : Assembly}, a.live.Nodup →
    a.live.Perm b.live → a.Undone fs →
    ∃ b', b.pushAll (a.accepted fs) = .ok b' ∧ (a.pushEach fs).live.Perm b'.live := by
  induction fs with
  | nil => exact fun _ hperm _ => ⟨_, rfl, hperm⟩
  | cons f fs ih =>
      rintro a b hnodup hperm ⟨hf, hrest⟩
      rw [accepted]
      by_cases hanswer : (a.push f).1 = .ok ()
      · rw [if_pos hanswer, pushAll_cons (answer_of_perm hperm f ▸ hanswer)]
        exact ih (nodup_push hnodup f) (live_push_of_perm hperm f) hrest
      · rw [if_neg hanswer]
        refine ih (nodup_push hnodup f) ?_ hrest
        rw [live_push]
        exact ((perm_follow_iff hnodup).mpr (hf hanswer)).trans hperm

/-- The graph that is finished after a history is that of its own fragments. -/
theorem reassembles_of_undone {fs : List Fragment} {o : Label} {g : Graph}
    (hundone : Undone {} fs) (hfinish : (pushEach {} fs).finish o = .ok g) :
    (do let a ← Assembly.pushAll {} g.fragments; a.finish o) = .ok g := by
  have hg := ((finish_eq_ok_iff _ o g).mp hfinish).2
  have hfragments : g.fragments = accepted {} fs := by
    rw [hg]
    exact fragments_pushEach fs {}
  obtain ⟨b, hb, hperm⟩ :=
    pushAll_accepted fs (b := {}) List.nodup_nil (List.Perm.refl _) hundone
  rw [hfragments, hb]
  show b.finish o = .ok g
  rw [← hfinish]
  refine (finish_of_perm ?_ hperm o).symm
  rw [fragments_pushEach, ((pushAll_eq_ok_iff _ _ _).mp hb).2]

end Assembly

open Assembly

/-- **Graphs after refusals.** Whatever was pushed before, a refusal leaves an
assembly that no caller can tell from the one before it exactly if the refused
fragment undid what it did. If all refused fragments of a history did so, then
every graph that is finished after it holds the other fragments, and these make
the same graph on an empty assembly. -/
theorem refusals_and_graphs (history : List Fragment) :
    (∀ f : Fragment, ((pushEach {} history).push f).1 ≠ .ok () →
      (((pushEach {} history).push f).2.Alike (pushEach {} history) ↔
        f.Undoes (pushEach {} history).live)) ∧
    ∀ (o : Label) (g : Graph),
      Undone {} history → (pushEach {} history).finish o = .ok g →
      g = { fragments := accepted {} history, output := o } ∧
      (do let a ← Assembly.pushAll {} g.fragments; a.finish o) = .ok g := by
  constructor
  · intro f hrefused
    exact alike_push_iff (nodup_pushEach history List.nodup_nil) hrefused
  · intro o g hundone hfinish
    refine ⟨?_, reassembles_of_undone hundone hfinish⟩
    rw [((finish_eq_ok_iff _ o g).mp hfinish).2, fragments_pushEach]
    rfl

/-- A picture. -/
def picture : Fragment where
  role := .backgroundScale
  chains := [{ inputs := [.inputVideo 0], filters := ["null"], outputs := [.background] }]

/-- A fragment that reads the picture and writes it again, and then asks for an
image that is not there. -/
def lostImage : Fragment where
  role := .motion 0 "slide"
  chains :=
    [ { inputs := [.background], filters := ["null"], outputs := [.background] },
      { inputs := [.image 0], filters := ["nullsink"] } ]

theorem refusals_and_graphs_lostImage :
    ((pushEach {} [picture]).push lostImage).1 =
        .error (.missingInput "slide[0]" "image-0") ∧
      ((pushEach {} [picture]).push lostImage).2.Alike (pushEach {} [picture]) ∧
      ∃ g,
        (pushEach {} [picture, lostImage]).finish .background = .ok g ∧
        (do let a ← Assembly.pushAll {} g.fragments; a.finish .background) = .ok g := by
  have hrefused : ((pushEach {} [picture]).push lostImage).1 =
      .error (.missingInput "slide[0]" "image-0") := by decide
  have hundoes : lostImage.Undoes (pushEach {} [picture]).live := by
    intro l
    rw [show happened (pushEach {} [picture]).live lostImage.events =
      [.read .background, .write .background] from by decide]
    by_cases hl : Label.background = l
    · subst hl
      decide
    · simp [Event.use?, hl]
  have hundone : Undone {} [picture, lostImage] :=
    ⟨fun h => absurd (show (push {} picture).1 = .ok () from by decide) h, fun _ => hundoes,
      trivial⟩
  refine ⟨hrefused, ?_, _, rfl, ?_⟩
  · refine ((refusals_and_graphs [picture]).1 lostImage ?_).mpr hundoes
    rw [hrefused]
    intro h
    cases h
  · exact ((refusals_and_graphs [picture, lostImage]).2 _ _ hundone rfl).2

/-- A fragment that writes a picture, and then asks for an image that is not
there. -/
def ghost : Fragment where
  role := .caption
  chains :=
    [ { filters := ["color"], outputs := [.background] },
      { inputs := [.image 0], filters := ["nullsink"] } ]

/-- The graph is finished, but it has no fragment that writes its output. -/
theorem not_reassembles :
    ¬ ∀ (fs : List Fragment) (o : Label) (g : Graph), (pushEach {} fs).finish o = .ok g →
      (do let a ← Assembly.pushAll {} g.fragments; a.finish o) = .ok g := by
  intro h
  have hghost := h [ghost] .background { fragments := [], output := .background } (by decide)
  exact absurd hghost (by decide)

end VideoGreeting.FilterGraph
