import VideoGreeting.Proofs.Production.Outcome
import VideoGreeting.Proofs.Service.Uploads

/-!
# The response to an order

An order whose form can be read is answered by the first stage that fails: a selection
that is turned down is the client's mistake, and whatever fails after that is not, unless
the engine itself turns the selection down, which programs never do. The engine is started
once if everything before it succeeds, and never if something does not.

Main theorem: `order_answered`. That no engine could put a failure down to the client or
report a graph is refuted in `not_only_internal`.
-/

namespace VideoGreeting.Service

open Http.Multipart (Form)
open Production (prepare openFolder reelExtension jobOf conclude asked stepBound)

/-! ## Answers -/

/-- The response to the end of a reel. -/
def replyTo (s : Service) : Except Failure Reel → Http.Response
  | .ok reel => reelResponse reel
  | .error failure => (Problem.ofFailure failure).response s.settings.isProduction

/-- The selection of an order, accepted or not. -/
def resolved? (s : Service) (selection : Selection) : Except Rejection Resolved :=
  selection.resolve s.studio.catalog s.studio.assets s.studio.settings.maxClips

/-- An order from which `i` was taken gets a response, and `commands` are all that the
engine is started with for it. While the engine runs on, there is no response. -/
structure Answers (s : Service) (host : Host) (form : Form) (w : World) (i : Intake)
    (response : Option Http.Response) (commands : List Engine.Command) : Prop where
  responds : (takeOrder s host form w).1 = response
  records : (takeOrder s host form w).2.commands = w.commands ++ commands
  starts : response ≠ none →
    asked s.studio host.engine host.now (stepBound i.selection)
      (.received i.selection, i.disk) = commands

variable {s : Service} {host : Host} {form : Form} {w : World} {i : Intake}

/-- A job belongs to a selection that was accepted. -/
theorem of_jobOf_eq_ok {now : Int} {d : Disk} {selection : Selection} {job : Job}
    (hjob : jobOf s.studio now d selection = .ok job) :
    ∃ r, resolved? s selection = .ok r ∧ prepare s.studio.settings now d r = .ok job := by
  rcases hresolve : resolved? s selection with reason | r
  · rw [Production.jobOf_of_rejected hresolve] at hjob
    cases hjob
  · rw [Production.jobOf_of_resolved hresolve] at hjob
    exact ⟨r, rfl, hjob⟩

theorem commands_makeReel (selection : Selection) :
    (makeReel s host selection w).2.commands = w.commands ++
      (Production.make s.studio host.engine host.now w.disk selection).1.command?.toList := by
  unfold makeReel
  dsimp only
  split
  next => rfl
  next => rfl

/-- A finished reel is answered with the address of its file. -/
theorem replyTo_ok (path : Path) :
    replyTo s (.ok (.of s.studio.settings path)) =
      .json 200 (.object [("videoUrl", .string (s.studio.settings.urlOf path)),
        ("status", .string "complete")]) := by
  simp only [replyTo, reelResponse, Reel.of, Reel.status]

/-- Only a rejection is put down to the client. -/
theorem status_ofFailure (failure : Failure) :
    (Problem.ofFailure failure).status = if failure.isRejection then 400 else 500 := by
  cases failure
  all_goals rfl

/-- A rejection is always told. -/
theorem detail_rejected (s : Service) (reason : Rejection) :
    (Problem.rejected reason).detail s.settings.isProduction = reason.message := by
  unfold Problem.detail
  rw [show Problem.isClientError (.rejected reason) = true from rfl, Bool.not_true,
    Bool.and_false, if_neg Bool.false_ne_true]
  rfl

theorem report_fst (tag : String) (result : Except Failure Reel) (m : Metrics) :
    (report s tag result m).1 = replyTo s result := by
  rcases result with failure | reel
  · rfl
  · rfl

section Read

variable (hread : Intake.takeForm host s.settings.uploadFolder form
  { disk := w.disk, issued := w.issued } = (.ok (), i))

include hread

/-- An order is a reel made of what was taken. -/
theorem takeOrder_eq :
    takeOrder s host form w =
      makeReel s host i.selection { w with disk := i.disk, issued := i.issued } := by
  unfold takeOrder
  dsimp only
  rw [hread]

/-- **The answer is how the stages end.** -/
theorem answers_conclude {ready : Except Failure Job}
    (hready : jobOf s.studio host.now i.disk i.selection = ready) :
    Answers s host form w i
      ((conclude s.studio.settings host.engine ready).result?.map (replyTo s))
      (conclude s.studio.settings host.engine ready).command?.toList := by
  have hends := Production.make_endsWith s.studio host.engine host.now i.disk i.selection
  rw [hready] at hends
  have hmake : (Production.make s.studio host.engine host.now i.disk i.selection).1 =
      conclude s.studio.settings host.engine ready := hends.leads
  constructor
  · rw [takeOrder_eq hread, response_makeReel]
    dsimp only
    rw [hmake]
    exact congrArg (Option.map · _) (funext fun result => report_fst _ result _)
  · rw [takeOrder_eq hread, commands_makeReel]
    dsimp only
    rw [hmake]
  · intro hresponse
    refine hends.asks fun hnone => hresponse ?_
    rw [hnone]
    rfl

theorem answers_rejected {reason : Rejection}
    (hresolve : resolved? s i.selection = .error reason) :
    Answers s host form w i
        (some (.json 400 (.object [("detail", .string reason.message)]))) [] ∧
      (takeOrder s host form w).2.disk =
        (Production.Stage.uploadsOf i.selection.images).drop i.disk := by
  constructor
  · have hanswers := answers_conclude hread (Production.jobOf_of_rejected hresolve)
    rw [← detail_rejected s reason]
    exact hanswers
  · rw [takeOrder_eq hread, disk_makeReel,
      Production.make_of_error _ _ _ (Production.plan_of_rejected hresolve)]

theorem answers_failed {r : Resolved} {failure : Failure}
    (hresolve : resolved? s i.selection = .ok r)
    (hprepare : prepare s.studio.settings host.now i.disk r = .error failure) :
    Answers s host form w i
      (some (.json 500 ((Problem.notMade failure).body s.settings.isProduction))) [] := by
  have hanswers := answers_conclude hread
    ((Production.jobOf_of_resolved hresolve).trans hprepare)
  obtain ⟨reason, rfl⟩ | ⟨fault, rfl⟩ | ⟨path, rfl⟩ := Production.of_prepare_eq_error hprepare
  · exact hanswers
  · exact hanswers
  · exact hanswers

theorem answers_engine {r : Resolved} {job : Job}
    (hresolve : resolved? s i.selection = .ok r)
    (hprepare : prepare s.studio.settings host.now i.disk r = .ok job) :
    Answers s host form w i
      ((host.engine job.command).result.map fun result =>
        replyTo s (result.map fun _ => .of s.studio.settings job.output)) [job.command] := by
  have hanswers := answers_conclude hread
    ((Production.jobOf_of_resolved hresolve).trans hprepare)
  unfold conclude at hanswers
  dsimp only at hanswers
  rcases hresult : (host.engine job.command).result with _ | failure | ⟨⟩
  all_goals
    rw [hresult] at hanswers
    exact hanswers

end Read

/-! ## Engines -/

/-- Every stage before the engine succeeds, and the engine then gives this result. -/
def EngineGives (s : Service) (host : Host) (i : Intake)
    (result : Option (Except Failure Unit)) : Prop :=
  ∃ r job, resolved? s i.selection = .ok r ∧
    prepare s.studio.settings host.now i.disk r = .ok job ∧
    (host.engine job.command).result = result

/-- There is one job, and the engine gives what it gives for that. -/
theorem engineGives_iff {r : Resolved} {job : Job} {result : Option (Except Failure Unit)}
    (hresolve : resolved? s i.selection = .ok r)
    (hprepare : prepare s.studio.settings host.now i.disk r = .ok job) :
    EngineGives s host i result ↔ (host.engine job.command).result = result := by
  constructor
  · rintro ⟨r', job', hresolve', hprepare', hresult⟩
    cases hresolve.symm.trans hresolve'
    cases hprepare.symm.trans hprepare'
    exact hresult
  · exact fun hresult => ⟨r, job, hresolve, hprepare, hresult⟩

/-- Programs report only what went wrong with them: selections are turned down before they
are started, and the graph is not their own. -/
theorem of_run_eq_error {program : Engine.Program} {timeout : Option Nat} {failure : Failure}
    (hfailure : (program.run timeout).result = some (.error failure)) :
    failure.isRejection = false ∧ ∀ fault, failure ≠ .graph fault := by
  cases program with
  | absent =>
      cases hfailure
      exact ⟨rfl, nofun⟩
  | unstartable fault =>
      cases hfailure
      exact ⟨rfl, nofun⟩
  | present log output ending =>
      cases ending with
      | never =>
          obtain ⟨seconds, -, hseconds⟩ := Option.map_eq_some_iff.mp hfailure
          cases hseconds
          exact ⟨rfl, nofun⟩
      | killed =>
          cases hfailure
          exact ⟨rfl, nofun⟩
      | lost fault =>
          cases hfailure
          exact ⟨rfl, nofun⟩
      | exited code =>
          have hresult : Engine.Program.resultOf (.ofBytes log) (.exited code) =
              .error failure := Option.some.inj hfailure
          unfold Engine.Program.resultOf at hresult
          dsimp only at hresult
          split at hresult
          next => cases hresult
          next =>
            cases hresult
            exact ⟨rfl, nofun⟩

/-- **Graph faults** are the engine's own: no graph of a reel is at fault. -/
theorem result?_eq_graph_iff {fault : FilterGraph.Fault} :
    (Production.make s.studio host.engine host.now i.disk i.selection).1.result? =
        some (.error (.graph fault)) ↔
      EngineGives s host i (some (.error (.graph fault))) := by
  have hmake : (Production.make s.studio host.engine host.now i.disk i.selection).1 = _ :=
    (Production.make_endsWith s.studio host.engine host.now i.disk i.selection).leads
  rw [hmake]
  constructor
  · intro hgraph
    rcases hjob : jobOf s.studio host.now i.disk i.selection with failure | job
    · rw [hjob] at hgraph
      cases hgraph
      exact absurd rfl (Production.ne_graph_of_jobOf_eq_error hjob fault)
    · obtain ⟨r, hresolve, hprepare⟩ := of_jobOf_eq_ok hjob
      rw [hjob] at hgraph
      unfold conclude at hgraph
      dsimp only at hgraph
      rcases hresult : (host.engine job.command).result with _ | failure | ⟨⟩
      all_goals
        rw [hresult] at hgraph
        cases hgraph
      exact ⟨r, job, hresolve, hprepare, hresult⟩
  · rintro ⟨r, job, hresolve, hprepare, hresult⟩
    rw [Production.jobOf_of_resolved hresolve, hprepare]
    unfold conclude
    dsimp only
    rw [hresult]
    rfl

/-! ## Orders -/

section Failures

variable {r : Resolved} {job : Job}
  (hread : Intake.takeForm host s.settings.uploadFolder form
    { disk := w.disk, issued := w.issued } = (.ok (), i))
  (hresolve : resolved? s i.selection = .ok r)
  (hprepare : prepare s.studio.settings host.now i.disk r = .ok job)

include hread hresolve hprepare

/-- An engine that turns the selection down is answered like a studio that does. -/
theorem answers_engineRejected {reason : Rejection}
    (hresult : (host.engine job.command).result = some (.error (.rejected reason))) :
    Answers s host form w i
      (some (.json 400 (.object [("detail", .string reason.message)]))) [job.command] := by
  have hanswers := answers_engine hread hresolve hprepare
  rw [hresult] at hanswers
  rw [← detail_rejected s reason]
  exact hanswers

theorem answers_engineFailed {failure : Failure} (hown : failure.isRejection = false)
    (hresult : (host.engine job.command).result = some (.error failure)) :
    Answers s host form w i
      (some (.json 500 ((Problem.notMade failure).body s.settings.isProduction)))
      [job.command] := by
  have hanswers := answers_engine hread hresolve hprepare
  rw [hresult] at hanswers
  cases failure with
  | rejected reason => cases hown
  | _ => exact hanswers

end Failures

/-- The status tells whose fault it is. -/
theorem status_of_response
    (hread : Intake.takeForm host s.settings.uploadFolder form
      { disk := w.disk, issued := w.issued } = (.ok (), i))
    {response : Http.Response} (hresponse : (takeOrder s host form w).1 = some response) :
    response.status ∈ [200, 400, 500] ∧
      (response.status = 400 ↔ (∃ reason, resolved? s i.selection = .error reason) ∨
        ∃ reason, EngineGives s host i (some (.error (.rejected reason)))) := by
  have hstatus {code : Nat} {body : Json} {commands : List Engine.Command}
      (h : Answers s host form w i (some (.json code body)) commands) :
      response.status = code := by
    obtain rfl := Option.some.inj (hresponse.symm.trans h.responds)
    rfl
  rcases hresolve : resolved? s i.selection with reason | r
  · rw [hstatus (answers_rejected hread hresolve).1]
    exact ⟨by decide, iff_of_true rfl (.inl ⟨reason, rfl⟩)⟩
  · rcases hprepare : prepare s.studio.settings host.now i.disk r with failure | job
    · rw [hstatus (answers_failed hread hresolve hprepare)]
      refine ⟨by decide, iff_of_false nofun ?_⟩
      rintro (⟨reason, hrejected⟩ | ⟨reason, r', job, hresolve', hprepare', -⟩)
      · cases hrejected
      · cases hresolve.symm.trans hresolve'
        cases hprepare.symm.trans hprepare'
    · have hanswers := answers_engine hread hresolve hprepare
      simp only [engineGives_iff hresolve hprepare]
      rcases hresult : (host.engine job.command).result with _ | failure | ⟨⟩
      · -- the engine runs on, so there was no response
        rw [hresult] at hanswers
        cases hresponse.symm.trans hanswers.responds
      · by_cases hrejection : failure.isRejection = true
        · obtain ⟨reason, rfl⟩ : ∃ reason, failure = .rejected reason := by
            cases failure with
            | rejected reason => exact ⟨reason, rfl⟩
            | _ => cases hrejection
          rw [hstatus (answers_engineRejected hread hresolve hprepare hresult)]
          exact ⟨by decide, iff_of_true rfl (.inr ⟨reason, rfl⟩)⟩
        · rw [Bool.not_eq_true] at hrejection
          rw [hstatus (answers_engineFailed hread hresolve hprepare hrejection hresult)]
          refine ⟨by decide, iff_of_false nofun ?_⟩
          rintro (⟨reason, hrejected⟩ | ⟨reason, hengine⟩)
          · cases hrejected
          · cases hengine
            cases hrejection
      · rw [hresult] at hanswers
        have hcode : response.status = 200 := hstatus hanswers
        rw [hcode]
        refine ⟨by decide, iff_of_false nofun ?_⟩
        rintro (⟨reason, hrejected⟩ | ⟨reason, hengine⟩)
        · cases hrejected
        · cases hengine

/-- How an order is answered from which `i` was taken. -/
structure Decided (s : Service) (host : Host) (form : Form) (w : World) (i : Intake) :
    Prop where
  /-- A selection that is turned down is the client's mistake. Its images are removed, and
  nothing else happens on the disk. -/
  rejected : ∀ reason, resolved? s i.selection = .error reason →
    Answers s host form w i
        (some (.json 400 (.object [("detail", .string reason.message)]))) [] ∧
      (takeOrder s host form w).2.disk =
        (Production.Stage.uploadsOf i.selection.images).drop i.disk
  /-- The first failure on the way to the engine is reported. It is never the graph's. -/
  unprepared : ∀ r failure, resolved? s i.selection = .ok r →
    prepare s.studio.settings host.now i.disk r = .error failure →
    Answers s host form w i
        (some (.json 500 ((Problem.notMade failure).body s.settings.isProduction))) [] ∧
      ((∃ reason, failure = .timeline reason) ∨ (∃ fault, failure = .disk fault) ∨
        ∃ path, failure = .fileMissing path)
  /-- The engine writes to the file that was reserved. -/
  reserved : ∀ r job, resolved? s i.selection = .ok r →
    prepare s.studio.settings host.now i.disk r = .ok job →
    ∃ d d', openFolder i.disk s.studio.settings.resolvedOutputFolder = .ok d ∧
      d.reserve s.studio.settings.resolvedOutputFolder (outputStem host.now) reelExtension =
        .ok (job.output, d')
  complete : ∀ r job, resolved? s i.selection = .ok r →
    prepare s.studio.settings host.now i.disk r = .ok job →
    (host.engine job.command).result = some (.ok ()) →
    Answers s host form w i (some (.json 200 (.object
      [("videoUrl", .string (s.studio.settings.urlOf job.output)),
        ("status", .string "complete")]))) [job.command]
  /-- What an engine reports is not the client's mistake. -/
  engineFailed : ∀ r job failure, resolved? s i.selection = .ok r →
    prepare s.studio.settings host.now i.disk r = .ok job → failure.isRejection = false →
    (host.engine job.command).result = some (.error failure) →
    Answers s host form w i
      (some (.json 500 ((Problem.notMade failure).body s.settings.isProduction)))
      [job.command]
  /-- An engine may turn the selection down like a studio. -/
  engineRejected : ∀ r job reason, resolved? s i.selection = .ok r →
    prepare s.studio.settings host.now i.disk r = .ok job →
    (host.engine job.command).result = some (.error (.rejected reason)) →
    Answers s host form w i
      (some (.json 400 (.object [("detail", .string reason.message)]))) [job.command]
  /-- There is no response while the engine runs on. -/
  pending : ∀ r job, resolved? s i.selection = .ok r →
    prepare s.studio.settings host.now i.disk r = .ok job →
    (host.engine job.command).result = none → Answers s host form w i none [job.command]
  statuses : ∀ response, (takeOrder s host form w).1 = some response →
    response.status ∈ [200, 400, 500]
  /-- No graph is at fault, whatever an engine may say. -/
  graphs : ∀ fault,
    (Production.make s.studio host.engine host.now i.disk i.selection).1.result? =
        some (.error (.graph fault)) ↔
      EngineGives s host i (some (.error (.graph fault)))
  /-- The client is to blame for nothing but the selection. -/
  clientErrors : ∀ response, (takeOrder s host form w).1 = some response →
    (response.status = 400 ↔ (∃ reason, resolved? s i.selection = .error reason) ∨
      ∃ reason, EngineGives s host i (some (.error (.rejected reason))))
  /-- Programs turn no selection down and report no graph. -/
  programs : (∀ command, ∃ (program : Engine.Program) (timeout : Option Nat),
      host.engine command = program.run timeout) →
    ∀ failure, EngineGives s host i (some (.error failure)) →
      failure.isRejection = false ∧ ∀ fault, failure ≠ .graph fault

/-- **The first stage that fails decides.** For a form that is read to its end, the
stages are the selection, the timeline, the output folder, the output, the inputs in
their order and the engine. The engine is started with the command of the job, once, if
all the others succeed, and never if one does not. -/
theorem order_answered (s : Service) (host : Host) (form : Form) (w : World) (i : Intake)
    (hread : Intake.takeForm host s.settings.uploadFolder form
      { disk := w.disk, issued := w.issued } = (.ok (), i)) :
    Decided s host form w i where
  rejected _ hresolve := answers_rejected hread hresolve
  unprepared _ _ hresolve hprepare :=
    ⟨answers_failed hread hresolve hprepare, Production.of_prepare_eq_error hprepare⟩
  reserved _ _ _ hprepare := Production.of_prepare_eq_ok hprepare
  complete r job hresolve hprepare hresult := by
    have hanswers := answers_engine hread hresolve hprepare
    rw [hresult] at hanswers
    rw [← replyTo_ok]
    exact hanswers
  engineFailed _ _ _ hresolve hprepare hown hresult :=
    answers_engineFailed hread hresolve hprepare hown hresult
  engineRejected _ _ _ hresolve hprepare hresult :=
    answers_engineRejected hread hresolve hprepare hresult
  pending r job hresolve hprepare hresult := by
    have hanswers := answers_engine hread hresolve hprepare
    rw [hresult] at hanswers
    exact hanswers
  statuses _ hresponse := (status_of_response hread hresponse).1
  graphs _ := result?_eq_graph_iff
  clientErrors _ hresponse := (status_of_response hread hresponse).2
  programs hengine failure := by
    rintro ⟨r, job, -, -, hresult⟩
    obtain ⟨program, timeout, hprogram⟩ := hengine job.command
    rw [hprogram] at hresult
    exact of_run_eq_error hresult

theorem order_answered_smallForm :
    ∃ i, Intake.takeForm pickyHost smallService.settings.uploadFolder smallForm
        { disk := Production.smallDisk, issued := 0 } = (.ok (), i) ∧
      ∃ command, Answers smallService pickyHost smallForm { disk := Production.smallDisk } i
        (some (.json 200 (.object
          [("videoUrl", .string "outputs/output_0.mp4"), ("status", .string "complete")])))
        [command] := by
  let taken := Intake.takeForm pickyHost smallService.settings.uploadFolder smallForm
    { disk := Production.smallDisk, issued := 0 }
  have hread : taken = (.ok (), taken.2) := Prod.ext (by decide +kernel) rfl
  have haddress : (jobOf smallService.studio 0 taken.2.disk taken.2.selection).map
      (fun job => smallService.studio.settings.urlOf job.output) =
        .ok "outputs/output_0.mp4" := by
    decide +kernel
  rcases hjob : jobOf smallService.studio 0 taken.2.disk taken.2.selection with failure | job
  · rw [hjob] at haddress
    cases haddress
  · rw [hjob] at haddress
    obtain ⟨r, hresolve, hprepare⟩ := of_jobOf_eq_ok hjob
    have hdecided := order_answered smallService pickyHost smallForm
      { disk := Production.smallDisk } taken.2 hread
    rw [← Except.ok.inj haddress]
    exact ⟨taken.2, hread, job.command, hdecided.complete r job hresolve hprepare rfl⟩

/-- How the engine behaves does not matter while a form is read. -/
theorem takeForm_engine (host : Host) (engine : Engine.Command → Engine.Run) (folder : Path)
    (form : Form) (i : Intake) :
    Intake.takeForm { host with engine } folder form i = Intake.takeForm host folder form i := by
  have hparts : Intake.takeParts { host with engine } folder form.parts i =
      Intake.takeParts host folder form.parts i := by
    induction form.parts generalizing i with
    | nil => rfl
    | cons part parts ih =>
        unfold Intake.takeParts
        rw [show i.takePart { host with engine } folder part = i.takePart host folder part from rfl]
        simp only [ih]
  unfold Intake.takeForm
  rw [hparts]

/-- A host on which the engine fails in one way. -/
def failing (failure : Failure) : Host :=
  { pickyHost with engine := fun _ => { result := some (.error failure) } }

/-- The small form leads to the engine, and so to the way in which it fails. -/
theorem engineGives_failing (failure : Failure) :
    ∃ i, Intake.takeForm (failing failure) smallService.settings.uploadFolder smallForm
        { disk := Production.smallDisk, issued := 0 } = (.ok (), i) ∧
      EngineGives smallService (failing failure) i (some (.error failure)) := by
  let taken := Intake.takeForm pickyHost smallService.settings.uploadFolder smallForm
    { disk := Production.smallDisk, issued := 0 }
  have hread : taken = (.ok (), taken.2) := Prod.ext (by decide +kernel) rfl
  have hready : (jobOf smallService.studio 0 taken.2.disk taken.2.selection).isOk = true := by
    decide +kernel
  refine ⟨taken.2, (takeForm_engine pickyHost _ _ _ _).trans hread, ?_⟩
  rcases hjob : jobOf smallService.studio 0 taken.2.disk taken.2.selection with _ | job
  · rw [hjob] at hready
    cases hready
  · obtain ⟨r, hresolve, hprepare⟩ := of_jobOf_eq_ok hjob
    exact ⟨r, job, hresolve, hprepare, rfl⟩

/-- An engine could put its failure down to the client, and report a graph. -/
theorem not_only_internal :
    ¬(∀ (s : Service) (host : Host) (form : Form) (w : World) (i : Intake) (r : Resolved)
        (response : Http.Response),
      Intake.takeForm host s.settings.uploadFolder form
        { disk := w.disk, issued := w.issued } = (.ok (), i) →
      resolved? s i.selection = .ok r → (takeOrder s host form w).1 = some response →
      response.status ≠ 400) ∧
    ¬(∀ (s : Service) (host : Host) (d : Disk) (selection : Selection)
        (fault : FilterGraph.Fault),
      (Production.make s.studio host.engine host.now d selection).1.result? ≠
        some (.error (.graph fault))) := by
  constructor
  · intro h
    obtain ⟨i, hread, r, job, hresolve, hprepare, hresult⟩ :=
      engineGives_failing (.rejected .noImages)
    have hanswers : Answers smallService (failing (.rejected .noImages)) smallForm
        { disk := Production.smallDisk } i _ _ :=
      answers_engineRejected hread hresolve hprepare hresult
    exact h _ _ _ _ i r _ hread hresolve hanswers.responds rfl
  · intro h
    obtain ⟨i, -, hengine⟩ := engineGives_failing (.graph .noClips)
    exact h smallService _ i.disk i.selection .noClips (result?_eq_graph_iff.mpr hengine)

end VideoGreeting.Service
