import Mathlib
import VideoGreeting.FilterGraph.Assembly

/-!
# Which fragments make a graph

An assembly goes through all events with one set of live labels. The property
it decides speaks of one label at a time and knows no set: the *uses* of a
label, in the order of the chains, are a write, a read, a write, and so on,
and the output of the graph is the one label whose last use is a write.

`follow_uses` relates the two for one run over events: what is live says for
each label which use has to come next. The main theorem `assembles_iff` is its
case for the empty assembly, in both directions.
-/

namespace VideoGreeting.FilterGraph

/-! ## The uses of one label -/

/-- What a chain does with a label. -/
inductive Use where
  | write
  | read
  deriving Repr, DecidableEq

/-- The use that has to follow. -/
def Use.other : Use → Use
  | write => read
  | read => write

/-- How a chain uses `l`: once for each time it is an input, then once for each
time it is an output. Reading a pad of the engine counts for nothing. -/
def Chain.uses (l : Label) (c : Chain) : List Use :=
  (if l.isPad then [] else List.replicate (c.inputs.count l) .read) ++
    List.replicate (c.outputs.count l) .write

/-- How fragments use `l`, chain after chain. -/
def usesOf (l : Label) (fs : List Fragment) : List Use :=
  (fs.flatMap Fragment.chains).flatMap (Chain.uses l)

/-- The uses alternate, beginning with `next`. -/
def Alternate : Use → List Use → Prop
  | _, [] => True
  | next, u :: rest => u = next ∧ Alternate next.other rest

/-- A label is used linearly in the fragments of a graph with output `o`. -/
structure LinearIn (fs : List Fragment) (o l : Label) : Prop where
  /-- It is written, read, written again and so on. -/
  alternate : Alternate .write (usesOf l fs)
  /-- The output, and no other label, is written at the end. -/
  ends : (usesOf l fs).getLast? = some .write ↔ l = o

/-! ## Uses as events -/

/-- The use of `l` that an event is, if it is one. -/
def Event.use? (l : Label) : Event → Option Use
  | .read m => if m = l ∧ l.isPad = false then some .read else none
  | .write m => if m = l then some .write else none

theorem filterMap_use?_reads (l : Label) (ms : List Label) :
    (ms.map Event.read).filterMap (Event.use? l) =
      if l.isPad then [] else List.replicate (ms.count l) .read := by
  induction ms with
  | nil => simp
  | cons m ms ih =>
      rw [List.map_cons, List.filterMap_cons, ih]
      by_cases hpad : l.isPad = true
      · simp [Event.use?, hpad]
      · by_cases hml : m = l
        · subst hml
          simp [Event.use?, hpad, List.replicate_succ]
        · simp [Event.use?, hpad, hml]

theorem filterMap_use?_writes (l : Label) (ms : List Label) :
    (ms.map Event.write).filterMap (Event.use? l) =
      List.replicate (ms.count l) .write := by
  induction ms with
  | nil => rfl
  | cons m ms ih =>
      rw [List.map_cons, List.filterMap_cons, ih]
      by_cases hml : m = l
      · subst hml
        simp [Event.use?, List.replicate_succ]
      · simp [Event.use?, hml]

theorem filterMap_use?_chains (l : Label) (chains : List Chain) :
    (chains.flatMap Chain.events).filterMap (Event.use? l) =
      chains.flatMap (Chain.uses l) := by
  induction chains with
  | nil => rfl
  | cons c chains ih =>
      rw [List.flatMap_cons, List.flatMap_cons, List.filterMap_append, ih,
        Chain.events, List.filterMap_append, filterMap_use?_reads,
        filterMap_use?_writes, Chain.uses]

/-- The uses of a label are read off the events of the fragments. -/
theorem filterMap_use?_events (l : Label) (fs : List Fragment) :
    (fs.flatMap Fragment.events).filterMap (Event.use? l) = usesOf l fs := by
  unfold usesOf
  rw [← filterMap_use?_chains, List.flatMap_assoc]
  rfl

/-! ## What is live says what comes next -/

/-- The use of `l` that is allowed while `live` are live. -/
def nextUse (live : List Label) (l : Label) : Use :=
  if l ∈ live then .read else .write

/-- The use that is allowed after `us`, when `next` was allowed before. -/
def nextAfter (next : Use) (us : List Use) : Use :=
  (us.getLast?.map Use.other).getD next

theorem nextAfter_cons (next u : Use) (us : List Use) :
    nextAfter next (u :: us) = nextAfter u.other us := by
  unfold nextAfter
  rw [List.getLast?_cons]
  cases us.getLast? <;> rfl

/-- The uses begin with `u?`, if that is a use at all. -/
theorem alternate_option (next : Use) (u? : Option Use) (us : List Use) :
    Alternate next (u?.toList ++ us) ↔
      (∀ u, u? = some u → u = next) ∧
        Alternate (nextAfter next u?.toList) us := by
  cases u? with
  | none => simp [nextAfter]
  | some u =>
      simp only [Option.toList_some, List.singleton_append, Alternate,
        Option.some.injEq, forall_eq', nextAfter, List.getLast?_singleton,
        Option.map_some, Option.getD_some]
      constructor
      · rintro ⟨rfl, h⟩
        exact ⟨rfl, h⟩
      · rintro ⟨rfl, h⟩
        exact ⟨rfl, h⟩

theorem nextAfter_option (next : Use) (u? : Option Use) (us : List Use) :
    nextAfter next (u?.toList ++ us) =
      nextAfter (nextAfter next u?.toList) us := by
  cases u? with
  | none => rfl
  | some u =>
      rw [Option.toList_some, List.singleton_append, nextAfter_cons,
        nextAfter_cons]
      rfl

/-- **One event.** It is allowed if its label has the use that comes next, and
then what is live says again for every label what comes next. -/
theorem after?_eq_some {live live' : List Label} {e : Event}
    (hnodup : live.Nodup) (h : e.after? live = some live') :
    live'.Nodup ∧ ∀ l,
      (∀ u, e.use? l = some u → u = nextUse live l) ∧
        nextUse live' l = nextAfter (nextUse live l) (e.use? l).toList := by
  cases e with
  | read m =>
      simp only [Event.after?] at h
      by_cases hpad : m.isPad = true
      · rw [if_pos hpad] at h
        cases h
        refine ⟨hnodup, fun l => ?_⟩
        have hnone : (Event.read m).use? l = none := by
          rw [Event.use?, if_neg]
          rintro ⟨rfl, hl⟩
          rw [hl] at hpad
          exact Bool.noConfusion hpad
        rw [hnone]
        refine ⟨fun u hu => ?_, rfl⟩
        cases hu
      · rw [if_neg hpad] at h
        by_cases hm : m ∈ live
        · rw [if_pos hm] at h
          cases h
          refine ⟨hnodup.erase m, fun l => ?_⟩
          by_cases hml : m = l
          · subst hml
            have hgone : m ∉ live.erase m :=
              fun hin => (hnodup.mem_erase_iff.mp hin).1 rfl
            simp [Event.use?, hpad, nextUse, nextAfter, hm, hgone, Use.other]
          · simp [Event.use?, hml, nextUse, nextAfter,
              hnodup.mem_erase_iff, Ne.symm hml]
        · rw [if_neg hm] at h
          cases h
  | write m =>
      simp only [Event.after?] at h
      by_cases hm : m ∈ live
      · rw [if_pos hm] at h
        cases h
      · rw [if_neg hm] at h
        cases h
        refine ⟨List.nodup_cons.mpr ⟨hm, hnodup⟩, fun l => ?_⟩
        by_cases hml : m = l
        · subst hml
          simp [Event.use?, nextUse, nextAfter, hm, Use.other]
        · simp [Event.use?, hml, nextUse, nextAfter, Ne.symm hml]

/-- An event that is refused is a use of its label that does not come next. -/
theorem after?_eq_none {live : List Label} {e : Event}
    (h : e.after? live = none) :
    ∃ l u, e.use? l = some u ∧ u ≠ nextUse live l := by
  cases e with
  | read m =>
      simp only [Event.after?] at h
      split at h
      · cases h
      · rename_i hpad
        split at h
        · cases h
        · rename_i hm
          refine ⟨m, .read, ?_, ?_⟩
          · simp [Event.use?, hpad]
          · simp [nextUse, hm]
  | write m =>
      simp only [Event.after?] at h
      split at h
      · rename_i hm
        refine ⟨m, .write, ?_, ?_⟩
        · simp [Event.use?]
        · simp [nextUse, hm]
      · cases h

/-! ## A run over events -/

/-- **A run over events.** It goes through if every label is used alternately,
beginning with the use that what is live asks for; and at the end what is live
says again which use comes next. -/
theorem follow_uses (events : List Event) : ∀ live : List Label, live.Nodup →
    match follow live events with
    | (live', none) => ∀ l,
        Alternate (nextUse live l) (events.filterMap (Event.use? l)) ∧
          nextUse live' l =
            nextAfter (nextUse live l) (events.filterMap (Event.use? l))
    | (_, some _) =>
        ∃ l, ¬ Alternate (nextUse live l) (events.filterMap (Event.use? l)) := by
  induction events with
  | nil =>
      intro live _ l
      exact ⟨trivial, rfl⟩
  | cons e rest ih =>
      intro live hnodup
      have hcons : ∀ l, (e :: rest).filterMap (Event.use? l) =
          (e.use? l).toList ++ rest.filterMap (Event.use? l) := by
        intro l
        rw [List.filterMap_cons]
        cases e.use? l <;> rfl
      simp only [hcons, alternate_option, nextAfter_option]
      rw [follow]
      cases hafter : e.after? live with
      | none =>
          obtain ⟨l, u, hu, hne⟩ := after?_eq_none hafter
          exact ⟨l, fun h => hne (h.1 u hu)⟩
      | some live' =>
          obtain ⟨hnodup', hnext⟩ := after?_eq_some hnodup hafter
          have hrest := ih live' hnodup'
          dsimp only
          rcases hfollow : follow live' rest with ⟨final, none | bad⟩
          · rw [hfollow] at hrest
            intro l
            obtain ⟨halt, hfinal⟩ := hrest l
            rw [(hnext l).2] at halt hfinal
            exact ⟨⟨(hnext l).1, halt⟩, hfinal⟩
          · rw [hfollow] at hrest
            obtain ⟨l, hl⟩ := hrest
            rw [(hnext l).2] at hl
            exact ⟨l, fun h => hl h.2⟩

theorem follow_append (live : List Label) (es es' : List Event) :
    follow live (es ++ es') =
      match follow live es with
      | (live', none) => follow live' es'
      | (live', some e) => (live', some e) := by
  induction es generalizing live with
  | nil => rfl
  | cons e es ih =>
      rw [List.cons_append, follow, follow]
      cases e.after? live with
      | none => rfl
      | some live' => exact ih live'

/-! ## The assembly -/

namespace Assembly

/-- Fragments are appended one after the other exactly if their events go
through in one run. -/
theorem pushAll_eq_ok_iff (fs : List Fragment) : ∀ a b : Assembly,
    a.pushAll fs = .ok b ↔
      follow a.live (fs.flatMap Fragment.events) = (b.live, none) ∧
        b.fragments = a.fragments ++ fs := by
  induction fs with
  | nil =>
      rintro ⟨afs, alive⟩ ⟨bfs, blive⟩
      simp only [pushAll, List.flatMap_nil, follow, List.append_nil,
        Except.ok.injEq, mk.injEq, Prod.mk.injEq, and_true]
      constructor
      · rintro ⟨rfl, rfl⟩
        exact ⟨rfl, rfl⟩
      · rintro ⟨rfl, rfl⟩
        exact ⟨rfl, rfl⟩
  | cons f fs ih =>
      intro a b
      rw [pushAll, push, List.flatMap_cons, follow_append]
      rcases hfollow : follow a.live f.events with ⟨live, none | bad⟩
      · dsimp only
        rw [ih, List.append_assoc, List.singleton_append]
      · simp

/-- A graph is finished exactly if its output is the only live label. -/
theorem finish_eq_ok_iff (a : Assembly) (o : Label) (g : Graph) :
    a.finish o = .ok g ↔
      (∀ l, l ∈ a.live ↔ l = o) ∧ g = { fragments := a.fragments, output := o } := by
  unfold finish
  by_cases ho : o ∈ a.live
  · rw [if_pos ho]
    have hothers : (a.live.filter (· != o)).map Label.name = [] ↔
        ∀ l, l ∈ a.live ↔ l = o := by
      rw [List.map_eq_nil_iff, List.filter_eq_nil_iff]
      constructor
      · intro h l
        constructor
        · intro hl
          simpa using h l hl
        · rintro rfl
          exact ho
      · intro h l hl
        simp [(h l).mp hl]
    rw [← hothers]
    cases (a.live.filter (· != o)).map Label.name with
    | nil => simp [eq_comm]
    | cons name names => simp
  · rw [if_neg ho]
    constructor
    · exact nofun
    · rintro ⟨h, -⟩
      exact absurd ((h o).mpr rfl) ho

end Assembly

/-- **Assembling is deciding linearity.** Fragments can be appended to an empty
assembly and finished with output `o` exactly if every label is used linearly,
and then the graph holds these fragments in their order and the output. -/
theorem assembles_iff (fs : List Fragment) (o : Label) (g : Graph) :
    (do let a ← Assembly.pushAll {} fs; a.finish o) = .ok g ↔
      (∀ l, LinearIn fs o l) ∧ g = { fragments := fs, output := o } := by
  have hrun := follow_uses (fs.flatMap Fragment.events) [] List.nodup_nil
  simp only [filterMap_use?_events] at hrun
  have hstart : ∀ l, nextUse [] l = .write := fun l => if_neg List.not_mem_nil
  rcases hfollow : follow [] (fs.flatMap Fragment.events) with ⟨live, none | bad⟩
  · rw [hfollow] at hrun
    have hpush : Assembly.pushAll {} fs = .ok { fragments := fs, live } :=
      (Assembly.pushAll_eq_ok_iff fs _ _).mpr ⟨hfollow, rfl⟩
    -- a label is live in the end if its last use is a write
    have hlive : ∀ l, (usesOf l fs).getLast? = some .write ↔ l ∈ live := by
      intro l
      have hl := (hrun l).2
      rw [hstart, nextAfter, nextUse] at hl
      by_cases hmem : l ∈ live
      · rw [if_pos hmem] at hl
        cases hlast : (usesOf l fs).getLast? with
        | none => simp [hlast] at hl
        | some u => cases u <;> simp [hlast, Use.other, hmem] at hl ⊢
      · rw [if_neg hmem] at hl
        cases hlast : (usesOf l fs).getLast? with
        | none => simp [hmem]
        | some u => cases u <;> simp [hlast, Use.other, hmem] at hl ⊢
    rw [hpush]
    show Assembly.finish _ o = .ok g ↔ _
    rw [Assembly.finish_eq_ok_iff]
    constructor
    · rintro ⟨honly, rfl⟩
      refine ⟨fun l => ⟨?_, (hlive l).trans (honly l)⟩, rfl⟩
      rw [← hstart l]
      exact (hrun l).1
    · rintro ⟨hlinear, rfl⟩
      exact ⟨fun l => (hlive l).symm.trans (hlinear l).ends, rfl⟩
  · rw [hfollow] at hrun
    obtain ⟨l, hl⟩ := hrun
    rw [hstart] at hl
    constructor
    · intro hok
      cases hpush : Assembly.pushAll {} fs with
      | error fault =>
          rw [hpush] at hok
          cases hok
      | ok b =>
          have := ((Assembly.pushAll_eq_ok_iff fs _ _).mp hpush).1
          rw [show (({} : Assembly).live) = [] from rfl, hfollow] at this
          simp at this
    · rintro ⟨hlinear, -⟩
      exact absurd (hlinear l).alternate hl

end VideoGreeting.FilterGraph
