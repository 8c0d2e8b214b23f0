import VideoGreeting.Proofs.Service.Substance

/-!
# The gauge of requests under way

The counters see a request twice: when it comes in, and when its response goes out.
In between reels are counted, and the client may go away: then the request is
dropped where it stands. Nothing tells the counters of that, so the gauge counts the
requests within and all that were ever dropped.

A `Gate` is the counters with the requests behind them, and every request that the
service answers passes it (`passes_respond`). `balanced_take` is one passage,
`balanced_run` is the run. Main theorem: `inFlight_run`.
-/

namespace VideoGreeting.Service

open Http (Request Response)
open Http.Multipart (Form)

/-! ## Requests on their way -/

/-- What is counted for reels while a request is within. -/
inductive ReelCount where
  | started (tag : String)
  | completed (tag : String)
  | failed (tag : String) (reason : Reason)

def ReelCount.apply (m : Metrics) : ReelCount → Metrics
  | started tag => m.start tag
  | completed tag => m.complete tag
  | failed tag reason => m.fail tag reason

/-- What happens at the counters. -/
inductive Passage (ι : Type*) where
  | arrives (i : ι) (request : Request)
  | counts (count : ReelCount)
  | answered (i : ι) (status : Nat)
  /-- The client goes away before there is a response. -/
  | dropped (i : ι)

/-- The counters and the requests behind them. -/
structure Gate (ι : Type*) where
  metrics : Metrics := {}
  /-- The requests that came in and were neither answered nor dropped. -/
  within : List (ι × Request) := []
  /-- How many requests were dropped. -/
  lost : Nat := 0

namespace Gate

variable {ι : Type*} [DecidableEq ι]

/-- One passage. Requests that are not within cannot go; one that is dropped does not
reach the counters again. -/
def take (g : Gate ι) : Passage ι → Gate ι
  | .arrives i request =>
    { g with metrics := g.metrics.enter, within := (i, request) :: g.within }
  | .counts count => { g with metrics := count.apply g.metrics }
  | .answered i status =>
    match g.within.find? (·.1 = i) with
    | some (_, request) =>
      { g with
        metrics := g.metrics.leave request.method request.path status
        within := g.within.eraseP (·.1 = i) }
    | none => g
  | .dropped i =>
    match g.within.find? (·.1 = i) with
    | some _ => { g with within := g.within.eraseP (·.1 = i), lost := g.lost + 1 }
    | none => g

def run (g : Gate ι) (passages : List (Passage ι)) : Gate ι := passages.foldl take g

/-- The gauge counts the requests within and those that were dropped. -/
def Balanced (g : Gate ι) : Prop := g.metrics.inFlight = g.within.length + g.lost

theorem inFlight_apply (m : Metrics) (count : ReelCount) :
    (count.apply m).inFlight = m.inFlight := by
  cases count with
  | started tag | completed tag | failed tag reason => rfl

/-- One request less is within when one goes. -/
theorem length_eraseP_of_find? {g : Gate ι} {i : ι} {entry : ι × Request}
    (h : g.within.find? (·.1 = i) = some entry) :
    (g.within.eraseP (·.1 = i)).length + 1 = g.within.length := by
  have hmem := List.mem_of_find?_eq_some h
  have hpos := List.length_pos_of_mem hmem
  rw [List.length_eraseP_of_mem hmem (List.find?_some h)]
  omega

/-- **One passage.** -/
theorem balanced_take {g : Gate ι} (h : g.Balanced) (passage : Passage ι) :
    (g.take passage).Balanced := by
  unfold Balanced at h
  cases passage with
  | arrives i request =>
      show g.metrics.inFlight + 1 = ((g.within.length + 1 : Nat) : Int) + g.lost
      omega
  | counts count =>
      show (count.apply g.metrics).inFlight = _
      rw [inFlight_apply, h]
      rfl
  | answered i status =>
      unfold take
      dsimp only
      split
      next _ request hfind =>
        have hlength := length_eraseP_of_find? hfind
        show g.metrics.inFlight - 1 = ((g.within.eraseP (·.1 = i)).length : Int) + g.lost
        omega
      next => exact h
  | dropped i =>
      unfold take
      dsimp only
      split
      next hfind =>
        -- the gauge stands, and the request changes sides
        have hlength := length_eraseP_of_find? hfind
        show g.metrics.inFlight =
          ((g.within.eraseP (·.1 = i)).length : Int) + ((g.lost + 1 : Nat) : Int)
        omega
      next => exact h

/-- **A run.** -/
theorem balanced_run {g : Gate ι} (h : g.Balanced) (passages : List (Passage ι)) :
    (g.run passages).Balanced := by
  induction passages generalizing g with
  | nil => exact h
  | cons passage passages ih => exact ih (balanced_take h passage)

theorem run_cons (g : Gate ι) (passage : Passage ι) (passages : List (Passage ι)) :
    g.run (passage :: passages) = (g.take passage).run passages := rfl

theorem run_append (g : Gate ι) (passages later : List (Passage ι)) :
    g.run (passages ++ later) = (g.run passages).run later := List.foldl_append

theorem run_counts (g : Gate ι) (counts : List ReelCount) :
    g.run (counts.map .counts) = { g with metrics := counts.foldl ReelCount.apply g.metrics } := by
  induction counts generalizing g with
  | nil => rfl
  | cons count counts ih =>
      rw [List.map_cons, run_cons, ih]
      rfl

end Gate

/-! ## Requests that are answered alone -/

section Alone

variable {r : Request}

/-- The counters `m` become `m'` by counting reels. -/
def CountsReels (m m' : Metrics) : Prop :=
  ∃ counts : List ReelCount, m' = counts.foldl ReelCount.apply m

theorem CountsReels.refl (m : Metrics) : CountsReels m m := ⟨[], rfl⟩

theorem countsReels_makeReel (s : Service) (host : Host) (selection : Selection) (w : World) :
    CountsReels w.metrics (makeReel s host selection w).2.metrics := by
  unfold makeReel
  dsimp only
  split
  next => exact ⟨[.started (Style.named selection.animation).tag], rfl⟩
  next result _ =>
    rcases result with failure | reel
    · exact ⟨[.started (Style.named selection.animation).tag,
        .failed (Style.named selection.animation).tag (reasonOf failure)], rfl⟩
    · exact ⟨[.started (Style.named selection.animation).tag,
        .completed (Style.named selection.animation).tag], rfl⟩

theorem countsReels_takeOrder (s : Service) (host : Host) (form : Form) (w : World) :
    CountsReels w.metrics (takeOrder s host form w).2.metrics := by
  unfold takeOrder
  dsimp only
  split
  next => exact .refl _
  next i _ => exact countsReels_makeReel s host i.selection _

theorem countsReels_answer (s : Service) (host : Host) (r : Request) (w : World)
    (route : Route) :
    CountsReels w.metrics (answer s host route r w).2.metrics := by
  unfold answer
  split
  next => exact .refl _
  next =>
    cases route with
    | createVideo =>
        show CountsReels w.metrics (createVideo s host r w).2.metrics
        unfold createVideo
        split
        next => exact .refl _
        next => exact countsReels_takeOrder s host _ w
    | options | health | ready | metrics | reels path | pages => exact .refl _

theorem countsReels_limited (s : Service) (host : Host) (r : Request) (w : World)
    (route : Route) :
    CountsReels w.metrics
      (limited s.settings.maxBodySize (answer s host route) r w).2.metrics := by
  unfold limited
  split
  next =>
    split
    next => exact .refl _
    next => exact countsReels_answer s host _ w route
  next => exact countsReels_answer s host _ w route

/-- What happens at the counters while a request is served alone. -/
def passagesOf (r : Request) (counts : List ReelCount) (response : Option Response) :
    List (Passage Unit) :=
  .arrives () r :: counts.map .counts ++
    response.toList.map fun response => .answered () response.status

/-- A gate without requests behind it, which one request passes. -/
theorem metrics_run_passagesOf (m : Metrics) (r : Request) (counts : List ReelCount)
    (response : Option Response) :
    (Gate.run { metrics := m } (passagesOf r counts response)).metrics =
      match response with
      | some response =>
        (counts.foldl ReelCount.apply m.enter).leave r.method r.path response.status
      | none => counts.foldl ReelCount.apply m.enter := by
  unfold passagesOf
  rw [List.cons_append, Gate.run_cons, Gate.run_append, Gate.run_counts]
  cases response with
  | none => rfl
  | some response => rfl

theorem metrics_handled (s : Service) (host : Host) (route : Route) (r : Request) (w : World) :
    ∃ counts, (handled s host route r w).2.metrics =
      (Gate.run { metrics := w.metrics }
        (passagesOf r counts (handled s host route r w).1)).metrics := by
  obtain ⟨counts, hcounts⟩ := countsReels_limited s host r { w with metrics := w.metrics.enter }
    route
  refine ⟨counts, ?_⟩
  rw [metrics_run_passagesOf]
  unfold handled counted
  dsimp only
  rcases hanswer : limited s.settings.maxBodySize (answer s host route) r
    { w with metrics := w.metrics.enter } with ⟨_ | response, w'⟩
  · rw [hanswer] at hcounts
    exact hcounts
  · rw [hanswer] at hcounts
    exact congrArg (Metrics.leave · r.method r.path response.status) hcounts

theorem metrics_identified (ids : Identifiers) (r : Request) (w : World) :
    (identified ids r w).2.metrics = w.metrics := by
  unfold identified
  split
  next => rfl
  next => rfl

/-- **The counters are a gate.** A request that reaches them comes in, reels are
counted, and its response goes out, if there is one. -/
theorem passes_respond (s : Service) (host : Host) (w : World) (h : r.method ≠ "OPTIONS") :
    ∃ counts, (respond s host r w).2.metrics =
      (Gate.run { metrics := w.metrics }
        (passagesOf r counts (respond s host r w).1)).metrics := by
  obtain ⟨counts, hcounts⟩ :=
    metrics_handled s host (Route.of s r.path) r (identified host.identifiers r w).2
  have hpassages : passagesOf r counts (respond s host r w).1 =
      passagesOf r counts
        (handled s host (Route.of s r.path) r (identified host.identifiers r w).2).1 := by
    have hstatus := congrArg Option.toList (status_respond s host w h)
    rw [Option.toList_map, Option.toList_map] at hstatus
    have hanswered := congrArg (List.map (Passage.answered ())) hstatus
    rw [List.map_map, List.map_map] at hanswered
    exact congrArg (_ ++ ·) hanswered
  refine ⟨counts, ?_⟩
  rw [hpassages, ← metrics_identified host.identifiers r w, ← hcounts, respond_eq h]

end Alone

/-! ## Requests in any order -/

/-- **The gauge counts dropped requests.** Whatever happens at the counters, in any
order: the gauge is the number of requests within and of those that were dropped, so
it tells how many are within exactly if none was dropped. A request that the service
answers alone passes the counters in this way. -/
theorem inFlight_run {ι : Type*} [DecidableEq ι] :
    (∀ passages : List (Passage ι),
      (Gate.run {} passages).metrics.inFlight =
        (Gate.run {} passages).within.length + (Gate.run {} passages).lost ∧
      ((Gate.run {} passages).metrics.inFlight = (Gate.run {} passages).within.length ↔
        (Gate.run {} passages).lost = 0)) ∧
    ∀ (s : Service) (host : Host) (r : Request) (w : World),
      if r.method = "OPTIONS" then (respond s host r w).2.metrics = w.metrics
      else ∃ counts, (respond s host r w).2.metrics =
        (Gate.run { metrics := w.metrics }
          (passagesOf r counts (respond s host r w).1)).metrics := by
  constructor
  · intro passages
    have hbalanced : Gate.Balanced ({} : Gate ι) := rfl
    have hgauge := Gate.balanced_run hbalanced passages
    unfold Gate.Balanced at hgauge
    refine ⟨hgauge, ?_⟩
    rw [hgauge]
    omega
  · intro s host r w
    by_cases hoptions : r.method = "OPTIONS"
    · rw [if_pos hoptions, respond_options hoptions]
    · rw [if_neg hoptions]
      exact passes_respond s host w hoptions

/-- A request that was dropped is counted with nobody within. -/
theorem not_inFlight_eq_length :
    ¬ ∀ passages : List (Passage Nat),
      (Gate.run {} passages).metrics.inFlight = (Gate.run {} passages).within.length := by
  intro h
  have hdropped := h [.arrives 0 (asking "GET"), .dropped 0]
  exact absurd hdropped (by decide)

end VideoGreeting.Service
