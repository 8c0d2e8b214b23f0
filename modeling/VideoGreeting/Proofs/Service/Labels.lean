import VideoGreeting.Proofs.Service.InFlight

/-!
# By what requests are counted

Every label under which requests are counted stays with the counters for good, so there
should be few. Paths are grouped into eight for that. The method is another part of a
label, and nothing groups it: a request is counted under the method that the client
wrote, and a method may be any word.

`mem_pairs_run` tells the methods and groups of a run in full. Main theorem:
`pairs_of_requests`, and that they are not bounded is `not_pairs_bounded`.
-/

namespace VideoGreeting.Service

open Http (Request Response)

/-! ## What a tally holds -/

namespace Tally

variable {α : Type} [DecidableEq α]

/-- The things that were counted. -/
def things (t : Tally α) : List α := t.counts.map (·.1)

theorem mem_keys_bump {a b : α} {counts : List (α × Nat)} :
    b ∈ (bump a counts).map (·.1) ↔ b = a ∨ b ∈ counts.map (·.1) := by
  induction counts with
  | nil => simp [bump]
  | cons count counts ih =>
      obtain ⟨c, n⟩ := count
      rw [bump]
      by_cases hc : a = c
      · simp [hc]
      · rw [if_neg hc, List.map_cons, List.map_cons, List.mem_cons, ih, List.mem_cons]
        exact or_left_comm

theorem mem_things_add {t : Tally α} {a b : α} :
    b ∈ (t.add a).things ↔ b = a ∨ b ∈ t.things := mem_keys_bump

end Tally

/-! ## Methods and groups -/

namespace Metrics

/-- The groups of paths. -/
def pathGroups : List String := ownPaths ++ ["/outputs/:file", "/static"]

theorem pathGroup_mem_pathGroups (path : String) : pathGroup path ∈ pathGroups := by
  unfold pathGroup pathGroups
  split
  next hown => exact List.mem_append_left _ (by simpa using hown)
  next =>
    split
    next => simp
    next => simp

/-- The methods and groups under which requests were counted. Their durations are told
under the same. -/
def pairs (m : Metrics) : List (String × String) :=
  m.requests.things.map fun label => (label.method, label.path)

theorem mem_pairs_leave {m : Metrics} {method path : String} {status : Nat}
    {pair : String × String} :
    pair ∈ (m.leave method path status).pairs ↔
      pair = (method, pathGroup path) ∨ pair ∈ m.pairs := by
  simp only [pairs, List.mem_map, leave, Tally.mem_things_add]
  constructor
  · rintro ⟨label, rfl | hlabel, rfl⟩
    · exact .inl rfl
    · exact .inr ⟨label, hlabel, rfl⟩
  · rintro (rfl | ⟨label, hlabel, rfl⟩)
    · exact ⟨_, .inl rfl, rfl⟩
    · exact ⟨label, .inr hlabel, rfl⟩

end Metrics

theorem requests_apply (m : Metrics) (count : ReelCount) :
    (count.apply m).requests = m.requests := by
  cases count with
  | started tag | completed tag | failed tag reason => rfl

/-- Reels are counted apart from requests. -/
theorem pairs_counts (m : Metrics) (counts : List ReelCount) :
    (counts.foldl ReelCount.apply m).pairs = m.pairs := by
  induction counts generalizing m with
  | nil => rfl
  | cons count counts ih =>
      rw [List.foldl_cons, ih]
      exact congrArg (List.map _ ·.things) (requests_apply m count)

/-- The method and the group of a request. -/
def pairOf (r : Request) : String × String := (r.method, Metrics.pathGroup r.path)

/-! ## Runs -/

namespace Gate

variable {ι : Type*} [DecidableEq ι]

/-- The request that is answered in a passage. -/
def answered? (g : Gate ι) : Passage ι → Option Request
  | .answered i _ => (g.within.find? (·.1 = i)).map (·.2)
  | _ => none

/-- The requests that are answered in a run. -/
def answers (g : Gate ι) : List (Passage ι) → List Request
  | [] => []
  | passage :: passages => (g.answered? passage).toList ++ answers (g.take passage) passages

/-- **One passage** adds the pair of the request that is answered. -/
theorem mem_pairs_take {g : Gate ι} (passage : Passage ι) {pair : String × String} :
    pair ∈ (g.take passage).metrics.pairs ↔
      pair ∈ (g.answered? passage).toList.map pairOf ∨ pair ∈ g.metrics.pairs := by
  cases passage with
  | arrives i request => simp [answered?, take, Metrics.enter, Metrics.pairs]
  | counts count =>
      have hpairs : (count.apply g.metrics).pairs = g.metrics.pairs :=
        pairs_counts g.metrics [count]
      simp [answered?, take, hpairs]
  | answered i status =>
      unfold answered? take
      dsimp only
      split
      next _ request hfind =>
        rw [Metrics.mem_pairs_leave, hfind]
        simp [pairOf]
      next hfind => simp [hfind]
  | dropped i =>
      unfold answered? take
      dsimp only
      split
      next => simp
      next => simp

/-- **A run** adds the pairs of all requests that are answered in it. -/
theorem mem_pairs_run {g : Gate ι} (passages : List (Passage ι)) {pair : String × String} :
    pair ∈ (g.run passages).metrics.pairs ↔
      pair ∈ (g.answers passages).map pairOf ∨ pair ∈ g.metrics.pairs := by
  induction passages generalizing g with
  | nil => simp [answers, run]
  | cons passage passages ih =>
      rw [run_cons, ih, mem_pairs_take, answers, List.map_append, List.mem_append, or_left_comm,
        or_assoc]

end Gate

/-- A request that is answered by itself is counted under its method and group. -/
theorem mem_pairs_respond {s : Service} {host : Host} {r : Request} {w : World}
    (h : r.method ≠ "OPTIONS") {pair : String × String} :
    pair ∈ (respond s host r w).2.metrics.pairs ↔
      pair ∈ w.metrics.pairs ∨ (respond s host r w).1.isSome = true ∧ pair = pairOf r := by
  obtain ⟨counts, hcounts⟩ := passes_respond s host w h
  rw [hcounts, metrics_run_passagesOf]
  have hpairs : (counts.foldl ReelCount.apply w.metrics.enter).pairs = w.metrics.pairs :=
    pairs_counts w.metrics.enter counts
  rcases (respond s host r w).1 with _ | response
  · simp [hpairs]
  · rw [Metrics.mem_pairs_leave, hpairs]
    simp [pairOf, or_comm]

/-! ## How many labels there are -/

/-- The methods of requests. -/
def methods (requests : List Request) : List String := requests.map (·.method)

/-- Requests have no more pairs than eight for each of their methods. -/
theorem card_pairs_le (requests : List Request) :
    (requests.map pairOf).toFinset.card ≤ 8 * (methods requests).toFinset.card := by
  have hsubset : (requests.map pairOf).toFinset ⊆
      (methods requests).toFinset ×ˢ Metrics.pathGroups.toFinset := by
    intro pair hpair
    obtain ⟨r, hr, rfl⟩ := List.mem_map.mp (List.mem_toFinset.mp hpair)
    rw [Finset.mem_product, List.mem_toFinset, List.mem_toFinset]
    exact ⟨List.mem_map_of_mem hr, Metrics.pathGroup_mem_pathGroups r.path⟩
  have hgroups : Metrics.pathGroups.toFinset.card ≤ 8 := List.toFinset_card_le _
  calc (requests.map pairOf).toFinset.card
      ≤ (methods requests).toFinset.card * Metrics.pathGroups.toFinset.card := by
        rw [← Finset.card_product]
        exact Finset.card_le_card hsubset
    _ ≤ (methods requests).toFinset.card * 8 := Nat.mul_le_mul_left _ hgroups
    _ = 8 * (methods requests).toFinset.card := Nat.mul_comm _ 8

/-- **The labels of requests.** A path is counted as one of eight groups. In a run,
whatever happens at the counters and in any order, the pairs of a method and a group
are those of the requests that were answered, each with the method as its client wrote
it; there are at most eight for each method. A request that the service answers alone
adds its own pair. -/
theorem pairs_of_requests {ι : Type*} [DecidableEq ι] :
    (∀ path, Metrics.pathGroup path ∈ Metrics.pathGroups) ∧
    (∀ passages : List (Passage ι),
      (Gate.run {} passages).metrics.pairs.toFinset =
        ((Gate.answers {} passages).map pairOf).toFinset ∧
      (Gate.run {} passages).metrics.pairs.toFinset.card ≤
        8 * (methods (Gate.answers {} passages)).toFinset.card) ∧
    ∀ (s : Service) (host : Host) (r : Request) (w : World),
      if r.method = "OPTIONS" then (respond s host r w).2.metrics = w.metrics
      else ∀ pair, pair ∈ (respond s host r w).2.metrics.pairs ↔
        pair ∈ w.metrics.pairs ∨ (respond s host r w).1.isSome = true ∧ pair = pairOf r := by
  refine ⟨Metrics.pathGroup_mem_pathGroups, ?_, ?_⟩
  · intro passages
    have hpairs : (Gate.run {} passages).metrics.pairs.toFinset =
        ((Gate.answers {} passages).map pairOf).toFinset := by
      ext pair
      rw [List.mem_toFinset, List.mem_toFinset, Gate.mem_pairs_run]
      exact or_iff_left List.not_mem_nil
    refine ⟨hpairs, ?_⟩
    rw [hpairs]
    exact card_pairs_le _
  · intro s host r w
    by_cases hoptions : r.method = "OPTIONS"
    · rw [if_pos hoptions, respond_options hoptions]
    · rw [if_neg hoptions]
      exact fun pair => mem_pairs_respond hoptions

/-- What is left when requests were answered one after the other. -/
def served (s : Service) (host : Host) (w : World) (requests : List Request) : World :=
  requests.foldl (fun w r => (respond s host r w).2) w

/-- Whether the service is alive is told or, to most methods, refused. -/
theorem isSome_respond_asking {method : String} (h : method ≠ "OPTIONS") (w : World) :
    (respond smallService pickyHost (asking method) w).1.isSome = true := by
  have hanswer (r : Request) (w : World) :
      (answer smallService pickyHost .health r w).1.isSome = true := by
    unfold answer
    split
    next => rfl
    next => rfl
  have hhandled (w : World) :
      (handled smallService pickyHost .health (asking method) w).1.isSome = true := by
    have hlimited : limited smallService.settings.maxBodySize
        (answer smallService pickyHost .health) (asking method) =
        answer smallService pickyHost .health
          { asking method with bodyLimit := some smallService.settings.maxBodySize } := rfl
    have hwithin := hanswer
      { asking method with bodyLimit := some smallService.settings.maxBodySize }
      { w with metrics := w.metrics.enter }
    unfold handled counted
    rw [hlimited]
    dsimp only
    split
    next => rfl
    next hnone =>
      rw [hnone] at hwithin
      cases hwithin
  have hroute : Route.of smallService "/health" = .health := by decide
  have hstatus := status_respond smallService pickyHost (r := asking method) w h
  rw [← Option.isSome_map, hstatus, Option.isSome_map]
  show (handled smallService pickyHost (Route.of smallService "/health") _ _).1.isSome = true
  rw [hroute]
  exact hhandled _

/-- A word of `n + 1` letters. -/
def word (n : Nat) : String := String.ofList (List.replicate (n + 1) 'X')

theorem word_injective : Function.Injective word := by
  intro n m h
  have hletters := List.replicate_left_injective 'X' (String.ofList_inj.mp h)
  exact Nat.succ_injective hletters

theorem word_ne_options (n : Nat) : word n ≠ "OPTIONS" := by
  intro h
  have hhead := congrArg (·.toList.head?) h
  simp [word, List.replicate_succ] at hhead

/-- **The labels of requests have no bound.** No set of pairs holds all under which the
service counts requests. -/
theorem not_pairs_bounded :
    ¬ ∃ bound : Finset (String × String), ∀ requests,
      ∀ pair ∈ (served smallService pickyHost { disk := Production.smallDisk }
        requests).metrics.pairs, pair ∈ bound := by
  rintro ⟨bound, hbound⟩
  have hinjective : Function.Injective fun n => pairOf (asking (word n)) := fun n m h =>
    word_injective (congrArg Prod.fst h)
  obtain ⟨pair, ⟨n, rfl⟩, hfresh⟩ :=
    (Set.infinite_range_of_injective hinjective).exists_notMem_finset bound
  refine hfresh (hbound [asking (word n)] _ ?_)
  exact (mem_pairs_respond (word_ne_options n)).mpr
    (.inr ⟨isSome_respond_asking (word_ne_options n) _, rfl⟩)

end VideoGreeting.Service
