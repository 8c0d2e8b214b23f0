import VideoGreeting.Proofs.Composition.Assembled
import VideoGreeting.Proofs.Production.Ending

/-!
# How the making of a reel ends

A reel in the making goes from stage to stage, one change of the disk at a time.
`jobOf` is the same work as a program that takes the stages one after the other and
stops at the first that fails; `make_endsWith` says that both come to the same end, and
that the engine is started once if there is a job and never if there is none.
-/

namespace VideoGreeting.Production

open Disk

/-! ## The stages one after the other -/

/-- The graph of a reel that has a clip and a length. -/
def graphOf (r : Resolved) (s : Settings) : FilterGraph.Graph where
  fragments := Composition.fragments (Composition.scaleBackground s.canvas)
    (Composition.clipsOf r s) (CaptionOverlay.fragment r.caption r.font s.caption)
  output := .background

/-- The files that the engine reads, in the order in which they are looked for. -/
def neededFiles (r : Resolved) (s : Settings) : List Path :=
  r.background :: r.images.map (·.path) ++
    r.song :: if s.auxiliaryInput then [r.auxiliaryImage] else []

/-- The disk with a folder, which is made where it is missing. -/
def openFolder (d : Disk) (folder : Path) : Except Failure Disk :=
  match d.ensureFolder folder with
  | (.ok (), d) => .ok d
  | (.error fault, _) => .error (.disk fault)

/-- Asks for files; the first that is missing is reported. -/
def needFiles (d : Disk) (files : List Path) : Except Failure Unit :=
  match d.firstMissing? files with
  | some missing => .error (.fileMissing missing)
  | none => .ok ()

/-- What is done between the acceptance of a selection and the start of the engine. -/
def prepare (s : Settings) (now : Int) (d : Disk) (r : Resolved) : Except Failure Job := do
  let _ ← (Timeline.plan s.duration r.clipCount).mapError fun fault =>
    Failure.timeline fault.message
  let d ← openFolder d s.resolvedOutputFolder
  let (path, d) ← (d.reserve s.resolvedOutputFolder (outputStem now) reelExtension).mapError
    Failure.disk
  needFiles d (neededFiles r s)
  return Job.of r (graphOf r s) s path

/-- The job of a selection, if everything before the engine succeeds. -/
def jobOf (studio : Studio) (now : Int) (d : Disk) (selection : Selection) :
    Except Failure Job := do
  let r ← (selection.resolve studio.catalog studio.assets studio.settings.maxClips).mapError
    Failure.rejected
  prepare studio.settings now d r

/-- How a reel ends whose job is ready for the engine or not. -/
def conclude (s : Settings) (engine : Engine.Command → Engine.Run) :
    Except Failure Job → Stage
  | .error failure => .finished (.error failure) none
  | .ok job =>
    match (engine job.command).result with
    | none => .rendering job
    | some (.ok ()) => .finished (.ok (.of s job.output)) job.command
    | some (.error failure) => .finished (.error failure) job.command

/-! ## Runs of the engine -/

/-- What the engine is started with in the next step. -/
def Stage.asks? : Stage → Option Engine.Command
  | rendering job => some job.command
  | _ => none

/-- What the engine is started with in a number of steps. -/
def asked (studio : Studio) (engine : Engine.Command → Engine.Run) (now : Int) :
    Nat → Stage × Disk → List Engine.Command
  | 0, _ => []
  | n + 1, (stage, d) =>
    stage.asks?.toList ++ asked studio engine now n (step studio engine now d stage)

/-- A number of steps leads to the stage `last`. If the reel is finished then, its
command is the only one that the engine was started with. -/
structure EndsWith (studio : Studio) (engine : Engine.Command → Engine.Run) (now : Int)
    (n : Nat) (stage : Stage) (d : Disk) (last : Stage) : Prop where
  leads : (advance studio engine now n (stage, d)).1 = last
  asks : last.result? ≠ none → asked studio engine now n (stage, d) = last.command?.toList

variable {studio : Studio} {engine : Engine.Command → Engine.Run} {now : Int}
  {d d' : Disk} {n : Nat} {stage next last : Stage}

theorem advance_finished (n : Nat) (result : Except Failure Reel)
    (command : Option Engine.Command) :
    advance studio engine now n (.finished result command, d) =
      (.finished result command, d) := by
  induction n with
  | zero => rfl
  | succ n ih => exact ih

theorem asked_finished (n : Nat) (result : Except Failure Reel)
    (command : Option Engine.Command) :
    asked studio engine now n (.finished result command, d) = [] := by
  induction n with
  | zero => rfl
  | succ n ih => exact ih

/-- A step that does not start the engine. -/
theorem EndsWith.step (hquiet : stage.asks? = none)
    (hstep : Production.step studio engine now d stage = (next, d'))
    (h : EndsWith studio engine now n next d' last) :
    EndsWith studio engine now (n + 1) stage d last where
  leads := by
    rw [advance, hstep]
    exact h.leads
  asks hlast := by
    rw [asked, hquiet, hstep]
    exact h.asks hlast

theorem EndsWith.fail {failure : Failure} (hquiet : stage.asks? = none)
    (hstep : ∃ d', Production.step studio engine now d stage =
      (.finished (.error failure) none, d')) :
    EndsWith studio engine now (n + 1) stage d (.finished (.error failure) none) := by
  obtain ⟨d', hstep⟩ := hstep
  exact .step hquiet hstep ⟨by rw [advance_finished], fun _ => asked_finished n _ _⟩

/-! ## Stage by stage -/

/-- What becomes of a job once the engine is started. -/
theorem step_rendering (studio : Studio) (engine : Engine.Command → Engine.Run) (now : Int)
    (job : Job) (d : Disk) :
    (step studio engine now d (.rendering job)).1 =
      conclude studio.settings engine (.ok job) := by
  unfold step conclude
  dsimp only
  rcases (engine job.command).result with _ | failure | ⟨⟩
  all_goals rfl

/-- The engine is started once; if it runs forever, it is waited for. -/
theorem endsWith_rendering (n : Nat) (job : Job) (d : Disk) :
    EndsWith studio engine now (n + 1) (.rendering job) d
      (conclude studio.settings engine (.ok job)) := by
  have hnext := step_rendering studio engine now job
  rcases hresult : (engine job.command).result with _ | result
  · have hconclude : conclude studio.settings engine (.ok job) = .rendering job := by
      rw [conclude, hresult]
    rw [hconclude] at hnext ⊢
    -- each step writes once more and comes back to the same stage
    have hwaits (m : Nat) (d : Disk) :
        (advance studio engine now m (.rendering job, d)).1 = .rendering job := by
      induction m generalizing d with
      | zero => rfl
      | succ m ih =>
          show (advance studio engine now m (step studio engine now d (.rendering job))).1 = _
          rw [← Prod.eta (step studio engine now d (.rendering job)), hnext]
          exact ih _
    exact ⟨hwaits (n + 1) d, fun hlast => absurd rfl hlast⟩
  · obtain ⟨final, hconclude⟩ : ∃ final, conclude studio.settings engine (.ok job) =
        .finished final (some job.command) := by
      rw [conclude, hresult]
      rcases result with failure | ⟨⟩
      · exact ⟨_, rfl⟩
      · exact ⟨_, rfl⟩
    specialize hnext d
    rw [hconclude] at hnext ⊢
    constructor
    · rw [advance, ← Prod.eta (step studio engine now d (.rendering job)), hnext,
        advance_finished]
    · intro _
      rw [asked, ← Prod.eta (step studio engine now d (.rendering job)), hnext, asked_finished]
      rfl

theorem endsWith_checking {remaining : List Path} {job : Job} (hn : remaining.length + 2 ≤ n) :
    EndsWith studio engine now n (.checking job remaining) d
      (conclude studio.settings engine (do
        needFiles d remaining
        return job)) := by
  -- one step for each input that is left, and the one that starts the engine
  induction remaining generalizing n with
  | nil =>
      obtain ⟨n, rfl⟩ := Nat.exists_eq_add_of_le' hn
      exact .step rfl rfl (endsWith_rendering n job d)
  | cons path rest ih =>
      obtain ⟨n, rfl⟩ : ∃ m, n = m + 1 := ⟨n - 1, by omega⟩
      by_cases hheld : d.holds path = true
      · have hneed : needFiles d (path :: rest) = needFiles d rest := by
          simp [needFiles, firstMissing?, hheld]
        rw [hneed]
        refine .step rfl ?_ (ih (by simpa using hn))
        exact if_pos hheld
      · have hneed : needFiles d (path :: rest) = .error (.fileMissing path) := by
          simp [needFiles, firstMissing?, hheld]
        rw [hneed]
        exact .fail rfl ⟨_, if_neg hheld⟩

/-- What is done with a plan in the output folder; `left` counts the names that may be
tried from `attempt` on. -/
def reserveFor (s : Settings) (p : Plan) (stem : String) (attempt left : Nat) (d : Disk) :
    Except Failure Job := do
  let (path, d) ← (d.reserveFrom s.resolvedOutputFolder stem reelExtension attempt
    left).mapError Failure.disk
  let job := Job.of p.resolved p.graph s path
  needFiles d job.inputFiles
  return job

theorem endsWith_reserving {p : Plan} {stem : String} {attempt left : Nat}
    (hleft : attempt + left = maxAttempts) (hn : left + p.resolved.images.length + 6 ≤ n) :
    EndsWith studio engine now n (.reserving p stem attempt) d
      (conclude studio.settings engine
        (reserveFor studio.settings p stem attempt left d)) := by
  -- on the names that are left, since the attempts go up while those go down
  induction left generalizing attempt n with
  | zero =>
      obtain ⟨n, rfl⟩ : ∃ m, n = m + 1 := ⟨n - 1, by omega⟩
      have hnone : reserveFor studio.settings p stem attempt 0 d = .error (.disk
          (noneLeft studio.settings.resolvedOutputFolder stem reelExtension)) := rfl
      rw [hnone]
      exact .fail rfl ⟨_, if_neg (by omega)⟩
  | succ left ih =>
      obtain ⟨n, rfl⟩ : ∃ m, n = m + 1 := ⟨n - 1, by omega⟩
      have hless : attempt < maxAttempts := by omega
      unfold reserveFor reserveFrom
      rcases htry : d.tryReserve studio.settings.resolvedOutputFolder stem reelExtension
        attempt with ⟨path, d'⟩ | _ | fault
      · have hinputs := length_inputFiles p.resolved p.graph studio.settings path
        have hstep : step studio engine now d (.reserving p stem attempt) =
            (.checking (Job.of p.resolved p.graph studio.settings path)
              (Job.of p.resolved p.graph studio.settings path).inputFiles, d') := by
          unfold step
          dsimp only
          rw [if_pos hless, htry]
        exact .step rfl hstep (endsWith_checking (by omega))
      · have hstep : step studio engine now d (.reserving p stem attempt) =
            (.reserving p stem (attempt + 1), d) := by
          unfold step
          dsimp only
          rw [if_pos hless, htry]
        exact .step rfl hstep (ih (by omega) (by omega))
      · have hstep : ∃ d', step studio engine now d (.reserving p stem attempt) =
            (.finished (.error (.disk fault)) none, d') := by
          unfold step
          dsimp only
          rw [if_pos hless, htry]
          exact ⟨_, rfl⟩
        exact .fail rfl hstep

theorem endsWith_opening {p : Plan} (hn : maxAttempts + p.resolved.images.length + 7 ≤ n) :
    EndsWith studio engine now n (.opening p) d
      (conclude studio.settings engine (do
        let d ← openFolder d studio.settings.resolvedOutputFolder
        reserveFor studio.settings p (outputStem now) 0 maxAttempts d)) := by
  obtain ⟨n, rfl⟩ : ∃ m, n = m + 1 := ⟨n - 1, by omega⟩
  rcases hfolder : d.ensureFolder studio.settings.resolvedOutputFolder with
    ⟨fault | ⟨⟩, d'⟩
  · have hopen : openFolder d studio.settings.resolvedOutputFolder = .error (.disk fault) := by
      rw [openFolder, hfolder]
    have hstep : ∃ d', step studio engine now d (.opening p) =
        (.finished (.error (.disk fault)) none, d') := by
      unfold step
      dsimp only
      rw [hfolder]
      exact ⟨_, rfl⟩
    rw [hopen]
    exact .fail rfl hstep
  · have hopen : openFolder d studio.settings.resolvedOutputFolder = .ok d' := by
      rw [openFolder, hfolder]
    have hstep : step studio engine now d (.opening p) =
        (.reserving p (outputStem now) 0, d') := by
      unfold step
      dsimp only
      rw [hfolder]
    rw [hopen, ok_bind]
    exact .step rfl hstep (endsWith_reserving (Nat.zero_add _) (by omega))

/-! ## The whole -/

theorem images_ne_nil_of_resolve {selection : Selection} {catalog : Catalog} {assets : Assets}
    {maxClips : Nat} {r : Resolved} (h : selection.resolve catalog assets maxClips = .ok r) :
    r.images ≠ [] := by
  obtain ⟨himages, -, -, rfl⟩ := Selection.resolve_eq_ok_iff.mp h
  exact (Selection.checkImages_eq_ok_iff.mp himages).1

section Plan

variable {selection : Selection} {r : Resolved}

theorem jobOf_of_rejected {reason : Rejection}
    (hresolve : selection.resolve studio.catalog studio.assets studio.settings.maxClips =
      .error reason) :
    jobOf studio now d selection = .error (.rejected reason) := by
  rw [jobOf, hresolve]
  rfl

theorem jobOf_of_resolved
    (hresolve : selection.resolve studio.catalog studio.assets studio.settings.maxClips = .ok r) :
    jobOf studio now d selection = prepare studio.settings now d r := by
  rw [jobOf, hresolve]
  rfl

/-- A selection that is turned down is not planned. -/
theorem plan_of_rejected {reason : Rejection}
    (hresolve : selection.resolve studio.catalog studio.assets studio.settings.maxClips =
      .error reason) :
    plan studio selection = .error (.rejected reason) := by
  rw [plan, hresolve]
  rfl

theorem plan_eq_error {fault : Timeline.Fault}
    (hresolve : selection.resolve studio.catalog studio.assets studio.settings.maxClips = .ok r)
    (htimeline : Timeline.plan studio.settings.duration r.clipCount = .error fault) :
    plan studio selection = .error (.timeline fault.message) := by
  have hgraph : Composition.graph r studio.settings = .error (.timeline fault.message) := by
    rw [Composition.graph, htimeline]
    rfl
  rw [plan, hresolve]
  show (do let graph ← Composition.graph r studio.settings; _) = _
  rw [hgraph]
  rfl

/-- A reel with a timeline is planned: its graph is always complete. -/
theorem plan_eq_ok {windows : List (Window Float)}
    (hresolve : selection.resolve studio.catalog studio.assets studio.settings.maxClips = .ok r)
    (htimeline : Timeline.plan studio.settings.duration r.clipCount = .ok windows) :
    plan studio selection = .ok { resolved := r, graph := graphOf r studio.settings } := by
  obtain ⟨-, hduration, -⟩ := Timeline.plan_eq_ok_iff.mp htimeline
  have hgraph := Composition.graph_eq_ok (images_ne_nil_of_resolve hresolve) hduration
  rw [plan, hresolve]
  show (do let graph ← Composition.graph r studio.settings; _) = _
  rw [hgraph]
  rfl

/-- A selection without a plan is given up at once: its images are removed, and
nothing else happens on the disk. -/
theorem step_received_of_error {failure : Failure} (engine : Engine.Command → Engine.Run)
    (now : Int) (d : Disk) (hplan : plan studio selection = .error failure) :
    step studio engine now d (.received selection) =
      (.finished (.error failure) none, (Stage.uploadsOf selection.images).drop d) := by
  unfold step
  dsimp only
  rw [hplan]
  rfl

theorem make_of_error {failure : Failure} (engine : Engine.Command → Engine.Run)
    (now : Int) (d : Disk) (hplan : plan studio selection = .error failure) :
    make studio engine now d selection =
      (.finished (.error failure) none, (Stage.uploadsOf selection.images).drop d) := by
  show advance studio engine now _ (step studio engine now d (.received selection)) = _
  rw [step_received_of_error engine now d hplan, advance_finished]

/-- What is prepared for a reel with a timeline. -/
theorem prepare_eq {s : Settings} {windows : List (Window Float)} (now : Int) (d : Disk)
    (htimeline : Timeline.plan s.duration r.clipCount = .ok windows) :
    prepare s now d r = (do
      let d ← openFolder d s.resolvedOutputFolder
      reserveFor s { resolved := r, graph := graphOf r s } (outputStem now) 0 maxAttempts d) := by
  unfold prepare reserveFor
  rw [htimeline]
  simp only [Job.inputFiles_of]
  rfl

/-- **The first stage that fails decides**, and the engine is started only if none
does. -/
theorem make_endsWith (studio : Studio) (engine : Engine.Command → Engine.Run) (now : Int)
    (d : Disk) (selection : Selection) :
    EndsWith studio engine now (stepBound selection) (.received selection) d
      (conclude studio.settings engine (jobOf studio now d selection)) := by
  have hrejected {failure : Failure} (hplan : plan studio selection = .error failure) :
      EndsWith studio engine now (stepBound selection) (.received selection) d
        (.finished (.error failure) none) :=
    .fail rfl ⟨_, step_received_of_error engine now d hplan⟩
  rcases hresolve : selection.resolve studio.catalog studio.assets studio.settings.maxClips
    with reason | r
  · rw [jobOf_of_rejected hresolve]
    exact hrejected (plan_of_rejected hresolve)
  · rw [jobOf_of_resolved hresolve]
    rcases htimeline : Timeline.plan studio.settings.duration r.clipCount with fault | windows
    · unfold prepare
      rw [htimeline]
      exact hrejected (plan_eq_error hresolve htimeline)
    · rw [prepare_eq now d htimeline]
      have hplan := plan_eq_ok hresolve htimeline
      have hstep : step studio engine now d (.received selection) =
          (.opening { resolved := r, graph := graphOf r studio.settings }, d) := by
        unfold step
        dsimp only
        rw [hplan]
      have himages : r.images = selection.images := plan_images hplan
      exact .step rfl hstep (endsWith_opening (by rw [himages]))

/-- What fails on the way to the engine is the timeline, the disk or an input: the first
that is missing once the output is reserved. -/
theorem failure_of_prepare {s : Settings} {failure : Failure}
    (h : prepare s now d r = .error failure) :
    (∃ reason, failure = .timeline reason) ∨ (∃ fault, failure = .disk fault) ∨
      ∃ d₁ path d₂ missing, openFolder d s.resolvedOutputFolder = .ok d₁ ∧
        d₁.reserve s.resolvedOutputFolder (outputStem now) reelExtension = .ok (path, d₂) ∧
        d₂.firstMissing? (neededFiles r s) = some missing ∧
        failure = .fileMissing missing := by
  simp only [prepare, bind_eq_error, mapError_eq_error, mapError_eq_ok] at h
  obtain ⟨fault, -, rfl⟩ |
    ⟨windows, -, hfolder | ⟨d₁, hfolder, hreserve | ⟨⟨path, d₂⟩, hreserve, hmissing⟩⟩⟩ := h
  · exact .inl ⟨_, rfl⟩
  · unfold openFolder at hfolder
    split at hfolder
    next => cases hfolder
    next fault _ _ =>
      cases hfolder
      exact .inr (.inl ⟨fault, rfl⟩)
  · obtain ⟨fault, -, rfl⟩ := hreserve
    exact .inr (.inl ⟨fault, rfl⟩)
  · obtain hneed | ⟨-, -, hjob⟩ := hmissing
    · unfold needFiles at hneed
      split at hneed
      next missing hfirst =>
        cases hneed
        exact .inr (.inr ⟨d₁, path, d₂, missing, hfolder, hreserve, hfirst, rfl⟩)
      next => cases hneed
    · cases hjob

/-- It is never the graph. -/
theorem of_prepare_eq_error {s : Settings} {failure : Failure}
    (h : prepare s now d r = .error failure) :
    (∃ reason, failure = .timeline reason) ∨ (∃ fault, failure = .disk fault) ∨
      ∃ path, failure = .fileMissing path := by
  obtain htimeline | hdisk | ⟨-, -, -, missing, -, -, -, hmissing⟩ := failure_of_prepare h
  · exact .inl htimeline
  · exact .inr (.inl hdisk)
  · exact .inr (.inr ⟨missing, hmissing⟩)

theorem ne_graph_of_jobOf_eq_error {failure : Failure}
    (h : jobOf studio now d selection = .error failure) (fault : FilterGraph.Fault) :
    failure ≠ .graph fault := by
  simp only [jobOf, bind_eq_error, mapError_eq_error] at h
  obtain ⟨reason, -, rfl⟩ | ⟨r, -, hprepare⟩ := h
  · exact nofun
  · obtain ⟨reason, rfl⟩ | ⟨reason, rfl⟩ | ⟨path, rfl⟩ := of_prepare_eq_error hprepare
    · exact nofun
    · exact nofun
    · exact nofun

/-- A job is for the file that was reserved in the output folder. -/
theorem of_prepare_eq_ok {s : Settings} {job : Job} (h : prepare s now d r = .ok job) :
    ∃ d₁ d₂, openFolder d s.resolvedOutputFolder = .ok d₁ ∧
      d₁.reserve s.resolvedOutputFolder (outputStem now) reelExtension =
        .ok (job.output, d₂) := by
  simp only [prepare, bind_eq_ok, mapError_eq_ok] at h
  obtain ⟨-, -, d₁, hfolder, ⟨path, d₂⟩, hreserve, -, -, hjob⟩ := h
  cases hjob
  exact ⟨d₁, d₂, hfolder, hreserve⟩

end Plan

end VideoGreeting.Production
