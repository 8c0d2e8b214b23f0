import VideoGreeting.Proofs.Http.Headers
import VideoGreeting.Proofs.Service.Uploads

/-!
# The headers of every response

Security headers and an identifier are added around the routes, the counters
and the limit on the body, so it does not matter which of them answers. The
layer for pages of other sites lies outside of this. What it passes on comes
back with these headers, and a request with the method `OPTIONS` it answers by
itself, without them.

Identifiers that are given out count up. Main theorem: `headers_of_response`.
-/

namespace VideoGreeting.Service

open Http

/-! ## How many identifiers are given out -/

section Issued

variable {s : Service} {host : Host} {w : World}

theorem issued_takeParts (host : Host) (folder : Path)
    (parts : List Multipart.Part) (i : Intake) :
    i.issued ≤ (Intake.takeParts host folder parts i).2.issued := by
  have hpart (i : Intake) (part : Multipart.Part) :
      i.issued ≤ (i.takePart host folder part).2.issued := by
    unfold Intake.takePart Intake.storeImage
    dsimp only
    repeat' split
    all_goals
      first
      | exact le_rfl
      | exact Nat.le_succ i.issued
  induction parts generalizing i with
  | nil => exact le_rfl
  | cons part parts ih =>
      have hfirst := hpart i part
      unfold Intake.takeParts
      rcases htake : i.takePart host folder part with ⟨problem | ⟨⟩, i'⟩
      · rw [htake] at hfirst
        exact hfirst
      · rw [htake] at hfirst
        exact hfirst.trans (ih i')

theorem issued_makeReel (selection : Selection) :
    (makeReel s host selection w).2.issued = w.issued := by
  unfold makeReel
  dsimp only
  split
  next => rfl
  next => rfl

theorem issued_takeOrder (form : Multipart.Form) :
    w.issued ≤ (takeOrder s host form w).2.issued := by
  have hparts := issued_takeParts host s.settings.uploadFolder form.parts
    { disk := w.disk, issued := w.issued }
  have hform : w.issued ≤ (Intake.takeForm host s.settings.uploadFolder form
      { disk := w.disk, issued := w.issued }).2.issued := by
    unfold Intake.takeForm
    split
    next htake => rwa [htake] at hparts
    next htake =>
      rw [htake] at hparts
      split
      next => exact hparts
      next => exact hparts
  unfold takeOrder
  dsimp only
  split
  next htake => rwa [htake] at hform
  next htake =>
    rw [htake] at hform
    rwa [issued_makeReel]

theorem issued_answer (route : Route) (r : Request) :
    w.issued ≤ (answer s host route r w).2.issued := by
  unfold answer
  split
  next => exact le_rfl
  next =>
    cases route with
    | createVideo =>
        show w.issued ≤ (createVideo s host r w).2.issued
        unfold createVideo
        split
        next => exact le_rfl
        next => exact issued_takeOrder _
    | options | health | ready | metrics | reels path | pages => exact le_rfl

/-- What the routes answer, within the counters and the limit on the body. -/
def handled (s : Service) (host : Host) (route : Route) : Handler :=
  counted <| limited s.settings.maxBodySize <| answer s host route

theorem issued_handled (route : Route) (r : Request) :
    w.issued ≤ (handled s host route r w).2.issued := by
  have hlimited (w : World) :
      w.issued ≤ (limited s.settings.maxBodySize (answer s host route) r w).2.issued := by
    unfold limited
    split
    next =>
      split
      next => exact le_rfl
      next => exact issued_answer _ _
    next => exact issued_answer _ _
  have h := hlimited { w with metrics := w.metrics.enter }
  unfold handled counted
  dsimp only
  split
  next => exact h
  next => exact h

end Issued

/-! ## Layers and headers -/

/-- The identifier that a request came with. -/
def ownIdentifier? (r : Request) : Option String := (r.header? "x-request-id").bind visibleText?

/-- The identifier of a request, and the world once it has it. -/
def identified (ids : Identifiers) (r : Request) (w : World) : String × World :=
  match ownIdentifier? r with
  | some id => (id, w)
  | none => w.issue ids

/-- A response has the security headers, with the values that it was given or
else the usual ones, and an identifier. -/
structure Marked (id : String) (given response : Response) : Prop where
  security : ∀ header ∈ securityHeaders,
    response.header? header.1 = some ((given.header? header.1).getD header.2)
  identifier : response.header? "x-request-id" = some id

/-- The headers that a response is marked with. -/
def markNames : List String := "x-request-id" :: securityHeaders.map (·.1)

theorem Marked.of_header?_eq {id : String} {given response response' : Response}
    (h : Marked id given response)
    (hsame : ∀ name ∈ markNames, response'.header? name = response.header? name) :
    Marked id given response' where
  security header hheader := by
    have hmem : header.1 ∈ markNames := List.mem_cons_of_mem _ (List.mem_map_of_mem hheader)
    rw [hsame header.1 hmem, h.security header hheader]
  identifier := by rw [hsame _ List.mem_cons_self, h.identifier]

theorem header?_finish (route : Route) (method : String) (response : Response) {name : String}
    (hname : name ≠ "allow") :
    (finish route method response).header? name = response.header? name := by
  unfold finish
  split
  next => rfl
  next =>
    split
    next => rw [Response.header?_setDefault, if_neg hname]
    next =>
      split
      next => exact Response.header?_bodiless _
      next => rfl

/-- The layer for other sites sets headers of its own only. -/
theorem name_of_mem_allowHeader {origins : List String} {r : Request} {header : String × String}
    (h : header ∈ Origins.allowHeader origins r) :
    header.1 = "access-control-allow-origin" := by
  unfold Origins.allowHeader at h
  repeat' split at h
  all_goals simp_all

def originNames : List String :=
  ["access-control-allow-origin", "access-control-allow-methods", "access-control-allow-headers",
    "access-control-max-age", "access-control-expose-headers"]

theorem name_of_mem_originHeaders {origins : List String} {r : Request} {header : String × String}
    (h : header ∈ Origins.preflightHeaders origins r ++ Origins.responseHeaders origins r) :
    header.1 ∈ originNames := by
  unfold Origins.preflightHeaders Origins.responseHeaders at h
  rw [List.mem_append, List.mem_append, List.mem_append] at h
  rcases h with (hallow | hothers) | (hallow | hothers)
  · simp [name_of_mem_allowHeader hallow, originNames]
  · have hname := List.mem_map_of_mem (f := Prod.fst) hothers
    simp only [List.map_cons, List.map_nil] at hname
    exact List.mem_cons_of_mem _ (List.mem_append_left ["access-control-expose-headers"] hname)
  · simp [name_of_mem_allowHeader hallow, originNames]
  · simp [List.mem_singleton.mp hothers, originNames]

/-- What is done to a response last leaves the marks as they are. -/
theorem header?_sent {origins : List String} {r : Request} {headers : List (String × String)}
    (hheaders : headers ⊆ Origins.preflightHeaders origins r ++ Origins.responseHeaders origins r)
    (route : Route) (response : Response) {name : String} (hname : name ∈ markNames) :
    (finish route r.method (response.setAll headers)).header? name = response.header? name := by
  have hothers : ∀ name ∈ markNames, name ≠ "allow" ∧ name ∉ originNames := by decide
  obtain ⟨hallow, hnew⟩ := hothers name hname
  rw [header?_finish route r.method _ hallow, Response.header?_setAll]
  intro header hheader heq
  rw [← heq] at hnew
  exact hnew (name_of_mem_originHeaders (hheaders hheader))

/-! ## Every response -/

section Responses

variable {s : Service} {host : Host} {r : Request} {w : World}

theorem respond_options (h : r.method = "OPTIONS") :
    respond s host r w =
      (some (finish (Route.of s r.path) r.method
        ((Response.empty 200).setAll (Origins.preflightHeaders s.settings.origins r))), w) := by
  unfold respond layered Origins.layer
  dsimp only
  rw [if_pos h]
  rfl

/-- What the security layer adds, and the identifier on top of it. -/
def mark (id : String) (given : Response) : Response :=
  (securityHeaders.foldl (fun r (name, value) => r.setDefault name value) given).set
    "x-request-id" id

theorem marked_mark (id : String) (given : Response) : Marked id given (mark id given) where
  security header hheader := by
    have hnodup : (securityHeaders.map (·.1)).Nodup := by decide
    have hne : ∀ header ∈ securityHeaders, header.1 ≠ "x-request-id" := by decide
    rw [mark, Response.header?_set, if_neg (hne header hheader),
      Response.header?_setDefaults hnodup hheader]
  identifier := by rw [mark, Response.header?_set, if_pos rfl]

/-- Other requests go through all layers. -/
theorem respond_eq (h : r.method ≠ "OPTIONS") :
    respond s host r w =
      ((handled s host (Route.of s r.path) r (identified host.identifiers r w).2).1.map fun given =>
          finish (Route.of s r.path) r.method
            ((mark (identified host.identifiers r w).1 given).setAll
              (Origins.responseHeaders s.settings.origins r)),
        (handled s host (Route.of s r.path) r (identified host.identifiers r w).2).2) := by
  have hidentifying (inner : Handler) : identifying host.identifiers inner r w =
      ((inner r (identified host.identifiers r w).2).1.map
          (·.set "x-request-id" (identified host.identifiers r w).1),
        (inner r (identified host.identifiers r w).2).2) := rfl
  unfold respond layered Origins.layer
  dsimp only
  rw [if_neg h, hidentifying]
  show (Option.map _ (Option.map _ (Option.map _ (Option.map _ _))), _) = _
  rw [Option.map_map, Option.map_map, Option.map_map]
  rfl

theorem identified_fst :
    (identified host.identifiers r w).1 =
      (ownIdentifier? r).getD (host.identifiers.text w.issued) := by
  unfold identified
  split
  next h => rw [h, Option.getD_some]
  next h =>
    rw [h, Option.getD_none]
    rfl

theorem issued_identified (h : ownIdentifier? r = none) :
    (identified host.identifiers r w).2.issued = w.issued + 1 := by
  unfold identified
  rw [h]
  rfl

theorem disk_identified (ids : Identifiers) (r : Request) (w : World) :
    (identified ids r w).2.disk = w.disk := by
  unfold identified
  split
  next => rfl
  next => rfl

/-- **The headers of a response.** A request with the method `OPTIONS` gets none
of them and changes nothing. Any other has a response exactly if the routes give
one, whichever of them, the counters or the limit that is; and the response is
marked with the identifier that the request came with. If it came without one,
with a new one: with none that was given out before, and none that will be. -/
theorem headers_of_response (s : Service) (host : Host) (r : Request) (w : World) :
    (r.method = "OPTIONS" →
      ∃ response, respond s host r w = (some response, w) ∧
        ∀ name ∈ markNames, response.header? name = none) ∧
    (r.method ≠ "OPTIONS" →
      Option.Rel (Marked ((ownIdentifier? r).getD (host.identifiers.text w.issued)))
        (handled s host (Route.of s r.path) r (identified host.identifiers r w).2).1
        (respond s host r w).1 ∧
      (ownIdentifier? r = none →
        (∀ number < w.issued,
          host.identifiers.text w.issued ≠ host.identifiers.text number) ∧
        w.issued < (respond s host r w).2.issued)) := by
  constructor
  · intro hoptions
    refine ⟨_, respond_options hoptions, ?_⟩
    intro name hname
    rw [header?_sent (List.subset_append_left _ _) _ _ hname]
    rfl
  · intro hothers
    rw [respond_eq hothers]
    constructor
    · rcases (handled s host (Route.of s r.path) r (identified host.identifiers r w).2).1 with
        _ | given
      · exact .none
      · refine .some ((marked_mark _ given).of_header?_eq ?_)
        intro name hname
        rw [header?_sent (List.subset_append_right _ _) _ _ hname, identified_fst]
    · intro hown
      constructor
      · intro number hnumber heq
        exact hnumber.ne' (host.identifiers.distinct _ _ heq)
      · have hissued : (identified host.identifiers r w).2.issued ≤
            (handled s host (Route.of s r.path) r (identified host.identifiers r w).2).2.issued :=
          issued_handled _ r
        rwa [issued_identified hown] at hissued

end Responses

/-- A request to a path that tells whether the service is alive. -/
def asking (method : String) : Request where
  method := method
  target := { path := "/health" }

theorem headers_of_response_asking :
    (∃ response, respond smallService pickyHost (asking "OPTIONS")
        { disk := Production.smallDisk } = (some response, { disk := Production.smallDisk }) ∧
      ∀ name ∈ markNames, response.header? name = none) ∧
    ∃ response, (respond smallService pickyHost (asking "GET")
        { disk := Production.smallDisk }).1 = some response ∧
      response.header? "x-frame-options" = some "DENY" ∧
      response.header? "x-request-id" = some "00000000-0000-4000-8000-000000000000" := by
  have hoptions := headers_of_response smallService pickyHost (asking "OPTIONS")
    { disk := Production.smallDisk }
  have hget := headers_of_response smallService pickyHost (asking "GET")
    { disk := Production.smallDisk }
  refine ⟨hoptions.1 rfl, ?_⟩
  have hmarked := (hget.2 (by decide)).1
  have hgiven : (handled smallService pickyHost (Route.of smallService (asking "GET").path)
      (asking "GET")
      (identified pickyHost.identifiers (asking "GET") { disk := Production.smallDisk }).2).1 =
      some (health 0) := rfl
  rw [hgiven] at hmarked
  rcases hresponse : (respond smallService pickyHost (asking "GET")
      { disk := Production.smallDisk }).1 with _ | response
  · rw [hresponse] at hmarked
    cases hmarked
  · rw [hresponse] at hmarked
    cases hmarked with
    | some hmarked =>
        have hframe := hmarked.security ("x-frame-options", "DENY") (by decide)
        exact ⟨response, rfl, hframe, hmarked.identifier⟩

/-- A request with the method `OPTIONS` has a response without identifier. -/
theorem not_marked_options :
    ¬ ∀ (s : Service) (host : Host) (r : Request) (w : World) (response : Response),
      (respond s host r w).1 = some response →
        ∀ name ∈ markNames, (response.header? name).isSome := by
  intro h
  have hoptions : respond smallService pickyHost (asking "OPTIONS")
      { disk := Production.smallDisk } = _ := respond_options rfl
  have hmarked := h _ _ _ _ _ (congrArg Prod.fst hoptions) "x-request-id" List.mem_cons_self
  rw [header?_sent (List.subset_append_left _ _) _ _ List.mem_cons_self] at hmarked
  exact absurd hmarked (by decide)

end VideoGreeting.Service
