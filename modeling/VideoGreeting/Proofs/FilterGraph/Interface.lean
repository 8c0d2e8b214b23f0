import VideoGreeting.Proofs.FilterGraph.Refusals

/-!
# What a fragment declares

A fragment declares the labels that it takes from elsewhere and those that it
leaves for others. Both are worked out from its chains alone, while an assembly
goes through the same chains with what is live.

`Declared` relates the three accounts to each other and to the events so far:
a label is taken if the first thing that happens to it is a reading, and left if
the last one is a writing. `Declared.event` preserves it, `Declared.follow` is
the run. Main theorem: `interface_of_push`. The declaration is what pushing does,
except for a pad of the engine that was written before: reading does not use it
up (`not_live_as_declared`).
-/

namespace VideoGreeting.FilterGraph

/-! ## Three accounts of the same events -/

/-- The label to which an event happens. -/
def Event.label : Event → Label
  | read l | write l => l

/-- What happens to one label. -/
def eventsOn (l : Label) (events : List Event) : List Event :=
  events.filter (·.label = l)

namespace Fragment

/-- What a fragment needs, event by event. -/
def Needs.event (n : Needs) : Event → Needs
  | .read l => n.read l
  | .write l => { n with produced := n.produced ++ [l] }

/-- What a fragment leaves, event by event. -/
def leave (left : List Label) : Event → List Label
  | .read l => left.erase l
  | .write l => left ++ [l]

theorem foldl_event_writes (n : Needs) (ls : List Label) :
    (ls.map Event.write).foldl Needs.event n = { n with produced := n.produced ++ ls } := by
  induction ls generalizing n with
  | nil => simp
  | cons l ls ih => simp [ih, Needs.event]

theorem foldl_leave_writes (left ls : List Label) :
    (ls.map Event.write).foldl leave left = left ++ ls := by
  induction ls generalizing left with
  | nil => simp
  | cons l ls ih => simp [ih, leave]

theorem foldl_event_chain (n : Needs) (c : Chain) :
    c.events.foldl Needs.event n = n.chain c := by
  rw [Chain.events, List.foldl_append, foldl_event_writes, List.foldl_map]
  rfl

theorem foldl_leave_chain (left : List Label) (c : Chain) :
    c.events.foldl leave left = c.inputs.foldl List.erase left ++ c.outputs := by
  rw [Chain.events, List.foldl_append, foldl_leave_writes, List.foldl_map]
  rfl

theorem inputs_eq (f : Fragment) : f.inputs = (f.events.foldl Needs.event {}).external := by
  rw [Fragment.events, List.foldl_flatMap]
  simp only [foldl_event_chain]
  rfl

theorem outputs_eq (f : Fragment) : f.outputs = f.events.foldl leave [] := by
  rw [Fragment.events, List.foldl_flatMap]
  simp only [foldl_leave_chain]
  rfl

end Fragment

open Fragment (Needs leave)

/-! ## How the accounts fit together -/

/-- After the events `past`, beginning with `live₀`: what is live, what the events
needed from elsewhere, and what they left. -/
structure Declared (live₀ : List Label) (past : List Event) (live : List Label) (n : Needs)
    (left : List Label) : Prop where
  first : ∀ l, l ∈ n.external ↔ (eventsOn l past).head? = some (.read l)
  last : ∀ l, l ∈ left ↔ (eventsOn l past).getLast? = some (.write l)
  produced : ∀ l, l ∈ n.produced ↔ l ∈ left
  externalNodup : n.external.Nodup
  leftNodup : left.Nodup
  liveNodup : live.Nodup
  /-- What is needed from elsewhere was there. -/
  before : ∀ l ∈ n.external, l.isPad = false → l ∈ live₀
  /-- What is written first was not there. -/
  fresh : ∀ l, (eventsOn l past).head? = some (.write l) → l ∉ live₀
  noPads : ∀ l, Event.write l ∈ past → l.isPad = false
  live : ∀ l, l ∈ live ↔ (l ∈ live₀ ∧ (l ∈ n.external → l.isPad = true)) ∨ l ∈ left

theorem eventsOn_concat (l : Label) (past : List Event) (e : Event) :
    eventsOn l (past ++ [e]) = if e.label = l then eventsOn l past ++ [e] else eventsOn l past := by
  unfold eventsOn
  rw [List.filter_append]
  by_cases he : e.label = l <;> simp [he]

theorem head?_eventsOn_concat (l : Label) (past : List Event) (e : Event) :
    (eventsOn l (past ++ [e])).head? =
      if eventsOn l past = [] ∧ e.label = l then some e else (eventsOn l past).head? := by
  rw [eventsOn_concat]
  by_cases he : e.label = l
  · rw [if_pos he]
    cases eventsOn l past <;> simp [he]
  · simp [he]

theorem getLast?_eventsOn_concat (l : Label) (past : List Event) (e : Event) :
    (eventsOn l (past ++ [e])).getLast? =
      if e.label = l then some e else (eventsOn l past).getLast? := by
  rw [eventsOn_concat]
  by_cases he : e.label = l <;> simp [he]

theorem label_of_mem_eventsOn {l : Label} {past : List Event} {e : Event}
    (h : e ∈ eventsOn l past) : e = .read l ∨ e = .write l := by
  have hlabel : e.label = l := by simpa [eventsOn] using (List.mem_filter.mp h).2
  subst hlabel
  cases e <;> simp [Event.label]

/-- What happens to a label begins with a reading or a writing. -/
theorem head?_eventsOn {l : Label} {past : List Event} (h : eventsOn l past ≠ []) :
    (eventsOn l past).head? = some (.read l) ∨ (eventsOn l past).head? = some (.write l) := by
  rw [List.head?_eq_some_head h, Option.some.injEq, Option.some.injEq]
  exact label_of_mem_eventsOn (List.head_mem h)

theorem mem_of_head? {l : Label} {past : List Event} {e : Event}
    (h : (eventsOn l past).head? = some e) : e ∈ past :=
  (List.mem_filter.mp (List.mem_of_head? h)).1

theorem mem_of_getLast? {l : Label} {past : List Event} {e : Event}
    (h : (eventsOn l past).getLast? = some e) : e ∈ past :=
  (List.mem_filter.mp (List.mem_of_getLast? h)).1

theorem mem_external_read (n : Needs) (m l : Label) :
    l ∈ (n.read m).external ↔ l ∈ n.external ∨ (l = m ∧ m ∉ n.produced) := by
  unfold Needs.read
  by_cases hproduced : m ∈ n.produced
  · simp [hproduced]
  · by_cases hexternal : m ∈ n.external
    · rw [if_neg hproduced, if_pos hexternal]
      constructor
      · exact Or.inl
      · rintro (hl | ⟨rfl, -⟩)
        · exact hl
        · exact hexternal
    · simp [hproduced, hexternal]

theorem mem_produced_read (n : Needs) (m l : Label) :
    l ∈ (n.read m).produced ↔ l ∈ n.produced ∧ l ≠ m := by
  unfold Needs.read
  by_cases hproduced : m ∈ n.produced
  · simp [hproduced]
  · have hother : l ∈ n.produced → l ≠ m := by
      rintro hl rfl
      exact hproduced hl
    by_cases hexternal : m ∈ n.external
    · simpa [hproduced, hexternal] using hother
    · simpa [hproduced, hexternal] using hother

theorem nodup_external_read {n : Needs} (h : n.external.Nodup) (m : Label) :
    (n.read m).external.Nodup := by
  unfold Needs.read
  by_cases hproduced : m ∈ n.produced
  · simpa [hproduced] using h
  · by_cases hexternal : m ∈ n.external
    · simpa [hproduced, hexternal] using h
    · simpa [hproduced, hexternal] using
        List.nodup_append.mpr ⟨h, List.nodup_singleton m, by
          rintro l hl _ hm rfl
          exact hexternal (List.mem_singleton.mp hm ▸ hl)⟩

namespace Declared

variable {live₀ live live' left : List Label} {past : List Event} {n : Needs} {m : Label}

theorem start {live₀ : List Label} (hnodup : live₀.Nodup) :
    Declared live₀ [] live₀ {} [] where
  first l := by simp [eventsOn]
  last l := by simp [eventsOn]
  produced l := by simp
  externalNodup := List.nodup_nil
  leftNodup := List.nodup_nil
  liveNodup := hnodup
  before l hl := by cases hl
  fresh l hl := by simp [eventsOn] at hl
  noPads l hl := by cases hl
  live l := by simp

/-- A label that is neither left nor needed from elsewhere, but may be read, was not
touched so far. -/
theorem untouched (h : Declared live₀ past live n left) (hallowed : m.isPad = false → m ∈ live)
    (hleft : m ∉ left) (hexternal : m ∉ n.external) : eventsOn m past = [] := by
  by_contra htouched
  rcases head?_eventsOn htouched with hread | hwritten
  · exact hexternal ((h.first m).mpr hread)
  · have hlive := hallowed (h.noPads m (mem_of_head? hwritten))
    rcases (h.live m).mp hlive with ⟨hbefore, -⟩ | hin
    · exact h.fresh m hwritten hbefore
    · exact hleft hin

/-- A label that is left and was there before is needed from elsewhere: it was read
before it was written. -/
theorem external_of_left (h : Declared live₀ past live n left) (hleft : m ∈ left)
    (hbefore : m ∈ live₀) : m ∈ n.external := by
  have htouched : eventsOn m past ≠ [] := by
    intro hnil
    have hlast := (h.last m).mp hleft
    rw [hnil] at hlast
    cases hlast
  rcases head?_eventsOn htouched with hread | hwritten
  · exact (h.first m).mpr hread
  · exact absurd hbefore (h.fresh m hwritten)

theorem isPad_of_left (h : Declared live₀ past live n left) (hleft : m ∈ left) :
    m.isPad = false :=
  h.noPads m (mem_of_getLast? ((h.last m).mp hleft))

/-- **A reading.** -/
theorem read (h : Declared live₀ past live n left)
    (hafter : (Event.read m).after? live = some live') :
    Declared live₀ (past ++ [.read m]) live' (n.read m) (left.erase m) := by
  have hleft (l : Label) : l ∈ left.erase m ↔ l ∈ left ∧ l ≠ m := by
    rw [h.leftNodup.mem_erase_iff, and_comm]
  have hexternal (l : Label) :
      l ∈ (n.read m).external ↔ l ∈ n.external ∨ (l = m ∧ m ∉ left) := by
    rw [mem_external_read, h.produced]
  have hallowed : m.isPad = false → m ∈ live := by
    intro hpad
    by_contra hm
    simp [Event.after?, hpad, hm] at hafter
  have hlive : live'.Nodup ∧ ∀ l, l ∈ live' ↔ l ∈ live ∧ (l = m → m.isPad = true) := by
    by_cases hpad : m.isPad = true
    · simp only [Event.after?, if_pos hpad, Option.some.injEq] at hafter
      simp [← hafter, hpad, h.liveNodup]
    · have hm := hallowed (by simpa using hpad)
      simp only [Event.after?, if_neg hpad, if_pos hm, Option.some.injEq] at hafter
      refine hafter ▸ ⟨h.liveNodup.erase m, fun l => ?_⟩
      simp [h.liveNodup.mem_erase_iff, hpad, and_comm]
  constructor
  case first =>
    intro l
    rw [hexternal, head?_eventsOn_concat, h.first]
    by_cases hl : l = m
    · subst hl
      by_cases hnil : eventsOn l past = []
      · have hnot : l ∉ left := by simp [h.last, hnil]
        simp [hnil, hnot, Event.label]
      · have hread : l ∉ left → (eventsOn l past).head? = some (.read l) := by
          intro hnot
          by_contra hhead
          exact hnil (h.untouched hallowed hnot (mt (h.first l).mp hhead))
        simpa [hnil] using hread
    · simp [hl, Event.label, Ne.symm hl]
  case last =>
    intro l
    rw [hleft, getLast?_eventsOn_concat, h.last]
    by_cases hl : l = m
    · simp [hl, Event.label]
    · simp [hl, Event.label, Ne.symm hl]
  case produced =>
    intro l
    rw [mem_produced_read, hleft, h.produced]
  case externalNodup => exact nodup_external_read h.externalNodup m
  case leftNodup => exact h.leftNodup.erase m
  case liveNodup => exact hlive.1
  case before =>
    intro l hl hpad
    rcases (hexternal l).mp hl with hbefore | ⟨rfl, hnot⟩
    · exact h.before l hbefore hpad
    · exact (((h.live l).mp (hallowed hpad)).resolve_right hnot).1
  case fresh =>
    intro l hl
    rw [head?_eventsOn_concat] at hl
    split at hl
    · cases hl
    · exact h.fresh l hl
  case noPads =>
    intro l hl
    exact h.noPads l (by simpa using hl)
  case live =>
    intro l
    rw [hlive.2, hexternal, hleft, h.live]
    by_cases hl : l = m
    · subst hl
      by_cases hpad : l.isPad = true
      · have hnot : l ∉ left := fun hin => by simp [h.isPad_of_left hin] at hpad
        simp [hpad, hnot]
      · -- what was left cannot have been there too, unless it was needed before
        have hneeded : l ∈ live₀ → l ∉ n.external → l ∉ left :=
          fun hbefore hnot hin => hnot (h.external_of_left hin hbefore)
        simpa [hpad] using hneeded
    · simp [hl]

/-- **A writing.** -/
theorem write (h : Declared live₀ past live n left) (hpad : m.isPad = false)
    (hafter : (Event.write m).after? live = some live') :
    Declared live₀ (past ++ [.write m]) live'
      { n with produced := n.produced ++ [m] } (left ++ [m]) := by
  have hnot : m ∉ live := by
    intro hm
    simp [Event.after?, hm] at hafter
  simp only [Event.after?, if_neg hnot, Option.some.injEq] at hafter
  subst hafter
  have hleft : m ∉ left := fun hm => hnot ((h.live m).mpr (.inr hm))
  constructor
  case first =>
    intro l
    rw [head?_eventsOn_concat, h.first]
    split
    next htouched =>
      rw [htouched.1]
      simp
    next => rfl
  case last =>
    intro l
    rw [getLast?_eventsOn_concat, List.mem_append, h.last, List.mem_singleton]
    by_cases hl : l = m
    · simp [hl, Event.label]
    · simp [hl, Event.label, Ne.symm hl]
  case produced =>
    intro l
    simp [h.produced]
  case externalNodup => exact h.externalNodup
  case leftNodup => exact List.concat_eq_append ▸ h.leftNodup.concat hleft
  case liveNodup => exact List.nodup_cons.mpr ⟨hnot, h.liveNodup⟩
  case before => exact h.before
  case fresh =>
    intro l hl
    rw [head?_eventsOn_concat] at hl
    split at hl
    next htouched =>
      -- nothing happened to the label so far, so it would be live
      obtain ⟨hnil, hl'⟩ := htouched
      obtain rfl : m = l := hl'
      intro hbefore
      refine hnot ((h.live m).mpr (.inl ⟨hbefore, fun hin => ?_⟩))
      have hread := (h.first m).mp hin
      rw [hnil] at hread
      cases hread
    next => exact h.fresh l hl
  case noPads =>
    intro l hl
    rcases List.mem_append.mp hl with hin | hin
    · exact h.noPads l hin
    · obtain rfl : l = m := by simpa using hin
      exact hpad
  case live =>
    intro l
    rw [List.mem_cons, List.mem_append, List.mem_singleton, h.live]
    tauto

/-- **A run.** -/
theorem follow {events : List Event} (h : Declared live₀ past live n left)
    (hpads : ∀ l, Event.write l ∈ events → l.isPad = false)
    (hfollow : FilterGraph.follow live events = (live', none)) :
    Declared live₀ (past ++ events) live' (events.foldl Needs.event n)
      (events.foldl leave left) := by
  induction events generalizing past live n left with
  | nil =>
      cases hfollow
      simpa using h
  | cons e rest ih =>
      rw [FilterGraph.follow] at hfollow
      rcases hafter : e.after? live with _ | next
      · rw [hafter] at hfollow
        cases hfollow
      · rw [hafter] at hfollow
        rw [List.append_cons, List.foldl_cons, List.foldl_cons]
        have hrest := fun l hl => hpads l (List.mem_cons_of_mem e hl)
        cases e with
        | read m => exact ih (h.read hafter) hrest hfollow
        | write m => exact ih (h.write (hpads m List.mem_cons_self) hafter) hrest hfollow

end Declared

/-! ## What pushing does -/

open Assembly

theorem isPad_of_write_mem_events {f : Fragment}
    (hpads : ∀ c ∈ f.chains, ∀ l ∈ c.outputs, l.isPad = false) {l : Label}
    (h : Event.write l ∈ f.events) : l.isPad = false := by
  obtain ⟨c, hc, hin⟩ := List.mem_flatMap.mp h
  refine hpads c hc l ?_
  simpa [Chain.events] using hin

theorem declared_of_push {a : Assembly} {f : Fragment} (hnodup : a.live.Nodup)
    (hpads : ∀ c ∈ f.chains, ∀ l ∈ c.outputs, l.isPad = false) (h : (a.push f).1 = .ok ()) :
    Declared a.live f.events (a.push f).2.live (f.events.foldl Needs.event {}) f.outputs := by
  have hfollow : FilterGraph.follow a.live f.events = ((a.push f).2.live, none) := by
    unfold push at h ⊢
    rcases hfollow : FilterGraph.follow a.live f.events with ⟨live, none | e⟩
    · rfl
    · rw [hfollow] at h
      cases h
  rw [Fragment.outputs_eq]
  exact (Declared.start hnodup).follow (fun l hl => isPad_of_write_mem_events hpads hl) hfollow

/-- **What a fragment declares is what pushing it does.** What it takes from elsewhere
was live, unless it is a pad, and neither declaration repeats a label. Afterwards live is
what was live and is not taken, together with what is left; only a pad that was live
stays, whether or not it is taken. A label is taken if what happens to it in the fragment
begins with a reading, and left if that ends with a writing; so one that is written
first and read last is in neither declaration. -/
theorem interface_of_push (a : Assembly) (f : Fragment) (hnodup : a.live.Nodup)
    (hpads : ∀ c ∈ f.chains, ∀ l ∈ c.outputs, l.isPad = false) (h : (a.push f).1 = .ok ()) :
    (∀ l ∈ f.inputs, l.isPad = false → l ∈ a.live) ∧
    f.inputs.Nodup ∧ f.outputs.Nodup ∧ (a.push f).2.live.Nodup ∧
    (∀ l, l ∈ (a.push f).2.live ↔
      (l ∈ a.live ∧ (l ∈ f.inputs → l.isPad = true)) ∨ l ∈ f.outputs) ∧
    ((∀ l, l ∈ (a.push f).2.live ↔ (l ∈ a.live ∧ l ∉ f.inputs) ∨ l ∈ f.outputs) ↔
      ∀ l ∈ f.inputs, l.isPad = true → l ∉ a.live) ∧
    ∀ l,
      (l ∈ f.inputs ↔ (eventsOn l f.events).head? = some (.read l)) ∧
      (l ∈ f.outputs ↔ (eventsOn l f.events).getLast? = some (.write l)) ∧
      ((eventsOn l f.events).head? = some (.write l) →
        (eventsOn l f.events).getLast? = some (.read l) → l ∉ f.inputs ∧ l ∉ f.outputs) := by
  have hdeclared := declared_of_push hnodup hpads h
  rw [Fragment.inputs_eq f]
  refine ⟨hdeclared.before, hdeclared.externalNodup, hdeclared.leftNodup, hdeclared.liveNodup,
    hdeclared.live, ⟨?_, ?_⟩, fun l => ⟨hdeclared.first l, hdeclared.last l, ?_⟩⟩
  · intro hall l hin hpad hlive
    rcases (hall l).mp ((hdeclared.live l).mpr (.inl ⟨hlive, fun _ => hpad⟩)) with
      ⟨-, hnot⟩ | hleft
    · exact hnot hin
    · rw [hdeclared.isPad_of_left hleft] at hpad
      cases hpad
  · intro hnone l
    have htaken : l ∈ a.live → ((l ∈ (f.events.foldl Needs.event {}).external →
        l.isPad = true) ↔ l ∉ (f.events.foldl Needs.event {}).external) :=
      fun hlive => ⟨fun hpad hin => hnone l hin (hpad hin) hlive, fun hnot hin => absurd hin hnot⟩
    rw [hdeclared.live, and_congr_right htaken]
  · intro hfirst hlast
    rw [hdeclared.first, hdeclared.last, hfirst, hlast]
    simp

/-- An image that is turned twice before it is laid over a picture: the label in between
is written twice and read twice. -/
def turned : Fragment where
  role := .motion 0 "rotate"
  chains :=
    [ { inputs := [.image 0], filters := ["rotate=1"], outputs := [.imageStage 0 "turned"] },
      { inputs := [.imageStage 0 "turned"], filters := ["rotate=1"],
        outputs := [.imageStage 0 "turned"] },
      { inputs := [.background, .imageStage 0 "turned", .inputVideo 2],
        filters := ["overlay"], outputs := [.background] } ]

theorem interface_of_push_turned :
    (push { live := [.image 1, .image 0, .background] } turned).1 = .ok () ∧
      turned.inputs = [.image 0, .background, .inputVideo 2] ∧
      turned.outputs = [.background] ∧
      (∀ l, l ∈ (push { live := [.image 1, .image 0, .background] } turned).2.live ↔
        (l ∈ [Label.image 1, .image 0, .background] ∧ l ∉ turned.inputs) ∨
          l ∈ turned.outputs) ∧
      Label.imageStage 0 "turned" ∉ turned.inputs ∧
      Label.imageStage 0 "turned" ∉ turned.outputs := by
  have hok : (push { live := [.image 1, .image 0, .background] } turned).1 = .ok () := by decide
  obtain ⟨-, -, -, -, -, hexact, hlabels⟩ :=
    interface_of_push { live := [.image 1, .image 0, .background] } turned (by decide)
      (by decide) hok
  obtain ⟨-, -, hneither⟩ := hlabels (.imageStage 0 "turned")
  exact ⟨hok, by decide, by decide, hexact.mpr (by decide), hneither (by decide) (by decide)⟩

/-- A fragment that writes a pad of the engine. -/
def overwritten : Fragment where
  role := .backgroundScale
  chains := [{ filters := ["color"], outputs := [.inputVideo 0] }]

/-- A pad that was written is not used up by the fragment that takes it. -/
theorem not_live_as_declared :
    ¬ ∀ (history : List Fragment) (f : Fragment),
      (∀ c ∈ f.chains, ∀ l ∈ c.outputs, l.isPad = false) →
      ((pushEach {} history).push f).1 = .ok () →
      (∀ l ∈ f.inputs, l.isPad = false → l ∈ (pushEach {} history).live) ∧
      f.inputs.Nodup ∧ f.outputs.Nodup ∧
      ∀ l, l ∈ ((pushEach {} history).push f).2.live ↔
        (l ∈ (pushEach {} history).live ∧ l ∉ f.inputs) ∨ l ∈ f.outputs := by
  intro h
  obtain ⟨-, -, -, hlive⟩ := h [overwritten] picture (by decide) (by decide)
  exact absurd (hlive (.inputVideo 0)) (by decide)

end VideoGreeting.FilterGraph
