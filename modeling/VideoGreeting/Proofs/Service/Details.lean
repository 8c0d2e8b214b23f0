import VideoGreeting.Proofs.Service.Orders
import VideoGreeting.Proofs.Service.Substance

/-!
# Details of failures

What goes wrong inside is not told in production. `Outcome` is what became of an
order, found without a look at the environment (`outcome_inEnvironment`), and the
environment only decides how it is shown (`shown_eq`). So two orders can be
told apart by their responses only as far as `Outcome.shown` tells their outcomes
apart. Main theorem: `details_kept`.
-/

namespace VideoGreeting.Service

open Http Text

/-! ## Orders and their outcomes -/

/-- A request for a reel, with the service that gets it and what it finds there. -/
structure Order where
  service : Service
  host : Host
  request : Request
  world : World
  posted : request.method = "POST"
  path : request.path = "/create-video"

/-- What became of an order. -/
inductive Outcome where
  /-- The body is said to be longer than what is allowed. -/
  | tooLong
  /-- The body is no form. -/
  | noForm
  /-- The form could not be taken. -/
  | unread (problem : Problem)
  | ended (result : Except Failure Reel)
  /-- The engine runs on. -/
  | pending

/-- The request with the limit on its body, unless the body is said to be too long. -/
def limited? (limit : Nat) (r : Request) : Option Request :=
  match declaredLength? r with
  | some length => if limit < length then none else some { r with bodyLimit := some length }
  | none => some { r with bodyLimit := some limit }

/-- The outcome of the order in a form. -/
def outcomeOfForm (s : Service) (host : Host) (form : Multipart.Form) (w : World) : Outcome :=
  match Intake.takeForm host s.settings.uploadFolder form
      { disk := w.disk, issued := w.issued } with
  | (.error problem, _) => .unread problem
  | (.ok (), i) =>
    match (Production.make s.studio host.engine host.now i.disk i.selection).1.result? with
    | some result => .ended result
    | none => .pending

/-- The outcome of the order in a body. -/
def outcomeOfBody (s : Service) (host : Host) (r : Request) (w : World) : Outcome :=
  match (r.header? "content-type").bind Multipart.boundary? with
  | none => .noForm
  | some boundary => outcomeOfForm s host (Multipart.ofRequest boundary r) w

/-- The outcome of the order in a request. -/
def outcomeOf (s : Service) (host : Host) (r : Request) (w : World) : Outcome :=
  match limited? s.settings.maxBodySize r with
  | none => .tooLong
  | some r => outcomeOfBody s host r w

/-- The status and the body that an outcome is answered with; `hide` keeps the details
of server failures back. -/
def Outcome.shown (hide : Bool) : Outcome → Option (Nat × Option Bytes)
  | tooLong => some (Response.plain 413 "length limit exceeded").substance
  | noForm => some Service.noForm.substance
  | unread problem => some (problem.response hide).substance
  | ended (.ok reel) => some (reelResponse reel).substance
  | ended (.error failure) => some ((Problem.ofFailure failure).response hide).substance
  | pending => none

namespace Order

/-- What becomes of an order. -/
def outcome (o : Order) : Outcome :=
  outcomeOf o.service o.host o.request (identified o.host.identifiers o.request o.world).2

/-- The status and the body of the response, if there is one. -/
def shown (o : Order) : Option (Nat × Option Bytes) :=
  (respond o.service o.host o.request o.world).1.map Response.substance

/-- The same order in another environment. -/
def inEnvironment (o : Order) (environment : String) : Order :=
  { o with
    service := { o.service with settings := { o.service.settings with environment } } }

/-- Whether the environment is the one for production, in capitals or not. -/
def InProduction (o : Order) : Prop := lowerName o.service.settings.environment = "production"

end Order

/-! ## Responses to outcomes -/

section Answers

variable {s : Service} {host : Host} {r : Request} {w : World}

theorem substance_report (tag : String) (result : Except Failure Reel) (m : Metrics) :
    some (report s tag result m).1.substance =
      (Outcome.ended result).shown s.settings.isProduction := by
  cases result with
  | ok reel => rfl
  | error failure => rfl

theorem substance_takeOrder (form : Multipart.Form) :
    (takeOrder s host form w).1.map Response.substance =
      (outcomeOfForm s host form w).shown s.settings.isProduction := by
  unfold outcomeOfForm takeOrder
  dsimp only
  rcases Intake.takeForm host s.settings.uploadFolder form
    { disk := w.disk, issued := w.issued } with ⟨problem | ⟨⟩, i⟩
  · rfl
  · dsimp only
    rw [response_makeReel, Option.map_map]
    dsimp only
    cases (Production.make s.studio host.engine host.now i.disk i.selection).1.result? with
    | none => rfl
    | some result => exact substance_report _ result _

theorem substance_createVideo :
    (createVideo s host r w).1.map Response.substance =
      (outcomeOfBody s host r w).shown s.settings.isProduction := by
  unfold createVideo outcomeOfBody
  cases (r.header? "content-type").bind Multipart.boundary? with
  | none => rfl
  | some boundary => exact substance_takeOrder _

theorem substance_answer (hmethod : r.method = "POST") :
    (answer s host .createVideo r w).1.map Response.substance =
      (outcomeOfBody s host r w).shown s.settings.isProduction := by
  have haccepted : Route.refuses .createVideo r.method = false := by
    rw [hmethod]
    rfl
  unfold answer
  rw [haccepted]
  exact substance_createVideo

/-- The counters pass on what is answered within, and the limit on the body stops a
request that is said to be too long. -/
theorem handled_eq (s : Service) (host : Host) (route : Route) (r : Request) (w : World) :
    ((handled s host route r w).1, (handled s host route r w).2.disk) =
      match limited? s.settings.maxBodySize r with
      | none => (some (.plain 413 "length limit exceeded"), w.disk)
      | some r =>
        ((answer s host route r { w with metrics := w.metrics.enter }).1,
          (answer s host route r { w with metrics := w.metrics.enter }).2.disk) := by
  have hcounted (inner : Handler) : ((counted inner r w).1, (counted inner r w).2.disk) =
      ((inner r { w with metrics := w.metrics.enter }).1,
        (inner r { w with metrics := w.metrics.enter }).2.disk) := by
    unfold counted
    dsimp only
    split
    next h => rw [h]
    next h => rw [h]
  rw [handled, hcounted]
  unfold limited limited?
  cases declaredLength? r with
  | none => rfl
  | some length =>
      dsimp only
      by_cases hlong : s.settings.maxBodySize < length
      · rw [if_pos hlong, if_pos hlong]
      · rw [if_neg hlong, if_neg hlong]

theorem method_limited? {limit : Nat} {r r' : Request} (h : limited? limit r = some r') :
    r'.method = r.method := by
  unfold limited? at h
  split at h
  next =>
    obtain ⟨-, h⟩ := Option.ite_none_left_eq_some.mp h
    cases h
    rfl
  next =>
    cases h
    rfl

theorem substance_handled (hmethod : r.method = "POST") :
    (handled s host .createVideo r w).1.map Response.substance =
      (outcomeOf s host r w).shown s.settings.isProduction := by
  have hhandled := congrArg Prod.fst (handled_eq s host .createVideo r w)
  dsimp only at hhandled
  rw [hhandled, outcomeOf]
  cases hlimited : limited? s.settings.maxBodySize r with
  | none => rfl
  | some r' => exact substance_answer ((method_limited? hlimited).trans hmethod)

/-- **An order is answered with what its outcome shows.** -/
theorem Order.shown_eq (o : Order) :
    o.shown = o.outcome.shown o.service.settings.isProduction := by
  have hroute : Route.of o.service o.request.path = .createVideo := by
    rw [o.path]
    rfl
  have hmethods (methods : List String)
      (h : (Route.of o.service o.request.path).methods = some methods) :
      o.request.method ∈ methods ∧ o.request.method ≠ "HEAD" := by
    rw [hroute] at h
    cases h
    rw [o.posted]
    decide
  have hpost : o.request.method ≠ "OPTIONS" := by
    rw [o.posted]
    decide
  rw [shown, substance_respond o.service o.host o.world hpost hmethods, hroute]
  exact substance_handled o.posted

/-- The environment has no bearing on the outcome. -/
theorem Order.outcome_inEnvironment (o : Order) (environment : String) :
    (o.inEnvironment environment).outcome = o.outcome := rfl

end Answers

/-- Whether nothing goes wrong with a form before the engine is started. -/
def isReady (s : Service) (host : Host) (form : Multipart.Form) (w : World) : Bool :=
  match Intake.takeForm host s.settings.uploadFolder form
      { disk := w.disk, issued := w.issued } with
  | (.ok (), i) => (Production.jobOf s.studio host.now i.disk i.selection).isOk
  | (.error _, _) => false

theorem isReady_engine (s : Service) (host : Host) (engine : Engine.Command → Engine.Run)
    (form : Multipart.Form) (w : World) :
    isReady s { host with engine } form w = isReady s host form w := by
  unfold isReady
  rw [takeForm_engine]

/-- An order that is ready for the engine ends with what the engine fails with. -/
theorem outcomeOfForm_of_isReady {s : Service} {host : Host} {form : Multipart.Form} {w : World}
    {failure : Failure} (hengine : ∀ command, (host.engine command).result = some (.error failure))
    (hready : isReady s host form w = true) :
    outcomeOfForm s host form w = .ended (.error failure) := by
  unfold isReady at hready
  unfold outcomeOfForm
  rcases htake : Intake.takeForm host s.settings.uploadFolder form
    { disk := w.disk, issued := w.issued } with ⟨problem | ⟨⟩, i⟩
  · rw [htake] at hready
    cases hready
  · rw [htake] at hready
    dsimp only at hready ⊢
    have hends := Production.make_endsWith s.studio host.engine host.now i.disk i.selection
    cases hjob : Production.jobOf s.studio host.now i.disk i.selection with
    | error failure =>
        rw [hjob] at hready
        cases hready
    | ok job =>
        have hmake : (Production.make s.studio host.engine host.now i.disk i.selection).1 =
            .finished (.error failure) job.command := by
          refine hends.leads.trans ?_
          rw [hjob, Production.conclude, hengine]
        rw [hmake]
        rfl

/-! ## What goes wrong with a form -/

section Forms

variable {host : Host} {folder : Path} {problem : Problem}

theorem internal_of_storeImage {i : Intake} {clientName : String} {content : Bytes}
    (h : (i.storeImage host folder clientName content).1 = .error problem) :
    ∃ text, problem = .internal text := by
  unfold Intake.storeImage at h
  dsimp only at h
  split at h
  next => cases h
  next =>
    split at h
    next =>
      cases h
      exact ⟨_, rfl⟩
    next =>
      split at h
      next =>
        cases h
        exact ⟨_, rfl⟩
      next => cases h

/-- Only the storing of an image keeps a part from being taken. -/
theorem internal_of_takeParts {parts : List Multipart.Part} {i : Intake}
    (h : (Intake.takeParts host folder parts i).1 = .error problem) :
    ∃ text, problem = .internal text := by
  induction parts generalizing i with
  | nil => cases h
  | cons part rest ih =>
      have hpart (given : Problem) (hgiven : (i.takePart host folder part).1 = .error given) :
          ∃ text, given = .internal text := by
        unfold Intake.takePart at hgiven
        dsimp only at hgiven
        split at hgiven
        next => exact internal_of_storeImage hgiven
        next => cases hgiven
      unfold Intake.takeParts at h
      rcases htake : i.takePart host folder part with ⟨given | ⟨⟩, i'⟩
      · rw [htake] at h hpart
        obtain rfl : given = problem := Except.error.inj h
        exact hpart given rfl
      · rw [htake] at h
        exact ih h

/-- A form is not taken if an image cannot be stored or if it is broken itself. -/
theorem problem_of_takeForm {form : Multipart.Form} {i : Intake}
    (h : (Intake.takeForm host folder form i).1 = .error problem) :
    (∃ text, problem = .internal text) ∨ ∃ text, problem = .badRequest text := by
  unfold Intake.takeForm at h
  rcases htake : Intake.takeParts host folder form.parts i with ⟨given | ⟨⟩, i'⟩
  · rw [htake] at h
    obtain rfl : given = problem := Except.error.inj h
    exact .inl (internal_of_takeParts (congrArg Prod.fst htake))
  · rw [htake] at h
    dsimp only at h
    cases hfault : form.fault with
    | none =>
        rw [hfault] at h
        cases h
    | some fault =>
        rw [hfault] at h
        exact .inr ⟨fault.message, (Except.error.inj h).symm⟩

theorem Order.problem_of_outcome {o : Order} (h : o.outcome = .unread problem) :
    (∃ text, problem = .internal text) ∨ ∃ text, problem = .badRequest text := by
  unfold outcome outcomeOf at h
  split at h
  next => cases h
  next =>
    unfold outcomeOfBody at h
    split at h
    next => cases h
    next =>
      unfold outcomeOfForm at h
      split at h
      next htake =>
        cases h
        exact problem_of_takeForm (congrArg Prod.fst htake)
      next =>
        split at h
        next => cases h
        next => cases h

end Forms

/-! ## What is shown -/

/-- What went wrong is the client's mistake. -/
def Outcome.IsClientError : Outcome → Prop
  | tooLong | noForm => True
  | unread problem => problem.isClientError = true
  | ended (.error failure) => failure.isRejection = true
  | ended (.ok _) | pending => False

theorem Order.isProduction {o : Order} (h : o.InProduction) :
    o.service.settings.isProduction = true := by
  have hlower : o.service.settings.environment.toList.map Number.lowerAscii =
      "production".toList := by
    rw [← h, lowerName, String.toList_ofList]
  rw [Settings.isProduction, hlower, beq_self_eq_true]

theorem body_of_isClientError {problem : Problem} (h : problem.isClientError = true)
    (hide hide' : Bool) : problem.body hide = problem.body hide' := by
  have hdetail (hide : Bool) : problem.detail hide = problem.message := by
    rw [Problem.detail, h, Bool.not_true, Bool.and_false, if_neg Bool.false_ne_true]
  unfold Problem.body
  rw [hdetail hide, hdetail hide']

theorem isClientError_ofFailure (failure : Failure) :
    (Problem.ofFailure failure).isClientError = failure.isRejection := by
  cases failure
  all_goals rfl

/-- The client's mistakes are always named. -/
theorem shown_of_isClientError {outcome : Outcome} (h : outcome.IsClientError)
    (hide hide' : Bool) : outcome.shown hide = outcome.shown hide' := by
  have hproblem {problem : Problem} (hclient : problem.isClientError = true) :
      some (problem.response hide).substance = some (problem.response hide').substance := by
    unfold Problem.response
    rw [body_of_isClientError hclient hide hide']
  cases outcome with
  | tooLong => rfl
  | noForm => rfl
  | unread problem => exact hproblem h
  | ended result =>
      cases result with
      | ok reel => exact h.elim
      | error failure => exact hproblem ((isClientError_ofFailure failure).trans h)
  | pending => rfl

/-- Keeping details back never changes the status. -/
theorem status_shown (outcome : Outcome) (hide hide' : Bool) :
    (outcome.shown hide).map Prod.fst = (outcome.shown hide').map Prod.fst := by
  cases outcome with
  | ended result =>
      cases result with
      | ok reel => rfl
      | error failure => rfl
  | tooLong | noForm | unread | pending => rfl

/-- The body that tells nothing but that no reel could be made. -/
def hiddenFailure : Json :=
  .object [("error", .string "Error creating video"), ("details", .string Problem.hiddenDetail)]

theorem shown_of_failure {failure : Failure} (h : failure.isRejection = false) :
    (Outcome.ended (.error failure)).shown true =
      some (500, some (Text.encode hiddenFailure.render)) := by
  cases failure with
  | rejected reason => cases h
  | graph | timeline | engineMissing | engineFailed | fileMissing | timedOut | disk => rfl

/-- The body that tells nothing at all. -/
def hiddenProblem : Json := .object [("detail", .string Problem.hiddenDetail)]

theorem shown_of_internal (text : String) :
    (Outcome.unread (.internal text)).shown true =
      some (500, some (Text.encode hiddenProblem.render)) := rfl

/-- **Details of failures are kept back in production.** Any two orders there for which
no reel could be made, other than by the client's mistake, are answered with the same status
and the same body, whatever failed and wherever, and so are any two for which an image could
not be stored. A form is not taken for this reason only or by the client's mistake.
The client's mistakes are told in the same words in every environment, and the status
is the same in every environment whatever went wrong. -/
theorem details_kept :
    (∀ (o o' : Order) (failure failure' : Failure), o.InProduction → o'.InProduction →
      o.outcome = .ended (.error failure) → failure.isRejection = false →
      o'.outcome = .ended (.error failure') → failure'.isRejection = false →
      ∃ body, o.shown = some (500, some body) ∧ o'.shown = some (500, some body)) ∧
    (∀ (o o' : Order) (text text' : String), o.InProduction → o'.InProduction →
      o.outcome = .unread (.internal text) → o'.outcome = .unread (.internal text') →
      ∃ body, o.shown = some (500, some body) ∧ o'.shown = some (500, some body)) ∧
    (∀ (o : Order) (problem : Problem), o.outcome = .unread problem →
      (∃ text, problem = .internal text) ∨ problem.isClientError = true) ∧
    (∀ (o : Order) (environment : String), o.outcome.IsClientError →
      (o.inEnvironment environment).shown = o.shown) ∧
    (∀ (o : Order) (environment : String),
      (o.inEnvironment environment).shown.map Prod.fst = o.shown.map Prod.fst) ∧
    ∀ (problem : Problem) (hide hide' : Bool),
      (problem.response hide).status = (problem.response hide').status := by
  refine ⟨?_, ?_, ?_, ?_, ?_, fun _ _ _ => rfl⟩
  · intro o o' failure failure' hproduction hproduction' houtcome hinside houtcome' hinside'
    refine ⟨Text.encode hiddenFailure.render, ?_, ?_⟩
    · rw [o.shown_eq, houtcome, Order.isProduction hproduction, shown_of_failure hinside]
    · rw [o'.shown_eq, houtcome', Order.isProduction hproduction', shown_of_failure hinside']
  · intro o o' text text' hproduction hproduction' houtcome houtcome'
    refine ⟨Text.encode hiddenProblem.render, ?_, ?_⟩
    · rw [o.shown_eq, houtcome, Order.isProduction hproduction, shown_of_internal]
    · rw [o'.shown_eq, houtcome', Order.isProduction hproduction', shown_of_internal]
  · intro o problem houtcome
    rcases Order.problem_of_outcome houtcome with hinternal | ⟨text, rfl⟩
    · exact .inl hinternal
    · exact .inr rfl
  · intro o environment hclient
    rw [Order.shown_eq, Order.shown_eq, Order.outcome_inEnvironment]
    exact shown_of_isClientError hclient _ _
  · intro o environment
    rw [Order.shown_eq, Order.shown_eq, Order.outcome_inEnvironment]
    exact status_shown _ _ _

/-- A request with an image, a song and a background. -/
def smallRequest : Request where
  method := "POST"
  target := { path := "/create-video" }
  headers := [("content-type", "multipart/form-data; boundary=b")]
  body := Text.encode <| String.join
    [ "--b\r\nContent-Disposition: form-data; name=images\r\n\r\nx\r\n",
      "--b\r\nContent-Disposition: form-data; name=song\r\n\r\njoy\r\n",
      "--b\r\nContent-Disposition: form-data; name=background\r\n\r\nsea\r\n--b--" ]

/-- The service in production. -/
def productionService : Service :=
  { smallService with settings := { smallService.settings with environment := "Production" } }

/-- That order there, for an engine that ends with a failure. -/
def failingOrder (failure : Failure) : Order where
  service := productionService
  host := failing failure
  request := smallRequest
  world := { disk := Production.smallDisk }
  posted := rfl
  path := rfl

theorem inProduction_failingOrder (failure : Failure) : (failingOrder failure).InProduction := by
  show lowerName "Production" = "production"
  decide

/-- Its form is read and everything is ready for the engine. -/
theorem outcome_failingOrder (failure : Failure) :
    (failingOrder failure).outcome = .ended (.error failure) := by
  let limited : Request := { smallRequest with bodyLimit := some smallService.settings.maxBodySize }
  have hready : isReady productionService pickyHost (Multipart.ofRequest "b" limited)
      { disk := Production.smallDisk, issued := 1 } = true := by
    decide +kernel
  have hlength : declaredLength? smallRequest = none := by decide +kernel
  have hboundary : (limited.header? "content-type").bind Multipart.boundary? = some "b" := by
    decide +kernel
  show outcomeOf _ _ smallRequest _ = _
  rw [outcomeOf, limited?, hlength]
  show outcomeOfBody _ _ limited _ = _
  rw [outcomeOfBody, hboundary]
  exact outcomeOfForm_of_isReady (fun _ => rfl) ((isReady_engine _ pickyHost _ _ _).trans hready)

theorem details_kept_failingOrder :
    ∃ body,
      (failingOrder (.timedOut 5)).shown = some (500, some body) ∧
      (failingOrder (.engineFailed "killed" (some "/srv/secret") (some 137))).shown =
        some (500, some body) :=
  details_kept.1 _ _ _ _ (inProduction_failingOrder _) (inProduction_failingOrder _)
    (outcome_failingOrder _) rfl (outcome_failingOrder _) rfl

end VideoGreeting.Service
