import Mathlib.Logic.Function.Iterate
import VideoGreeting.Proofs.Service.InFlight
import VideoGreeting.Proofs.Service.Orders

/-!
# Orders that take turns

Any number of orders are at the desk at the same time. Each reads its form part by part,
has its reel made step by step, and is answered; in between, other orders take their
turns, and so does whatever else uses the disk and the counters. A part is taken in one
step: what others do to the disk meanwhile can decide only whether its image is stored,
and that comes out either way with the disk and the host as they are in that turn. The
counters of reels are touched twice for an order: when its form is read to its end, and
when its reel is over.

`Phase.step` is one step of one order. Without other turns the steps come to what the
service does with an order by itself: `createVideo_alone`.
-/

namespace VideoGreeting.Service

open Http (Request Response)
open Http.Multipart (Form Part)

/-! ## One order -/

/-- The world with what was taken from a form. -/
def World.holding (w : World) (i : Intake) : World := { w with disk := i.disk, issued := i.issued }

/-- How far an order has come. -/
inductive Phase where
  /-- Some parts of the form are read; the others and the fault at its end are left. -/
  | reading (rest : Form) (selection : Selection) (uploads : Guard)
  /-- The form could not be read. -/
  | refused (response : Response)
  /-- The form is read, and the reel is counted under a tag. -/
  | making (tag : String) (stage : Production.Stage)
  | answered (tag : String) (response : Response)

namespace Phase

/-- An order that has just come in. -/
def opening (r : Request) : Phase :=
  match (r.header? "content-type").bind Http.Multipart.boundary? with
  | none => refused noForm
  | some boundary => reading (Http.Multipart.ofRequest boundary r) {} .empty

/-- The response of an order that has one. -/
def response? : Phase → Option Response
  | refused response | answered _ response => some response
  | reading _ _ _ | making _ _ => none

/-- One step: the next part or the end of the form, one step of the reel, or its
report. An order that has its response stays as it is. -/
def step (s : Service) (host : Host) : Phase × World → Phase × World
  | (reading { parts := part :: parts, fault } selection uploads, w) =>
    let i : Intake := { selection, uploads, disk := w.disk, issued := w.issued }
    match i.takePart host s.settings.uploadFolder part with
    | (.ok (), i) =>
      (reading { parts, fault } i.selection i.uploads, w.holding i)
    | (.error problem, i) =>
      (refused (problem.response s.settings.isProduction),
        { w with disk := i.giveUp, issued := i.issued })
  | (reading { parts := [], fault := some fault } _ uploads, w) =>
    (refused ((Problem.badRequest fault.message).response s.settings.isProduction),
      { w with disk := uploads.drop w.disk })
  | (reading { parts := [], fault := none } selection _, w) =>
    let tag := (Style.named selection.animation).tag
    (making tag (.received selection), { w with metrics := w.metrics.start tag })
  | (making tag stage, w) =>
    match stage.result? with
    | none =>
      let (stage, disk) := Production.step s.studio host.engine host.now w.disk stage
      (making tag stage, { w with disk })
    | some result =>
      let (response, metrics) := report s tag result w.metrics
      (answered tag response,
        { w with metrics, commands := w.commands ++ stage.command?.toList })
  | (refused response, w) => (refused response, w)
  | (answered tag response, w) => (answered tag response, w)

end Phase

/-- What one step can do: the phase before it, and the phase and the world after it. -/
inductive Move (s : Service) (host : Host) (w : World) : Phase → Phase × World → Prop
  /-- A part is taken. -/
  | taken (part : Part) (rest : Form) (selection : Selection) (uploads : Guard) (i : Intake) :
      Intake.takePart host { selection, uploads, disk := w.disk, issued := w.issued }
        s.settings.uploadFolder part = (.ok (), i) →
      Move s host w (.reading (rest.cons part) selection uploads)
        (.reading rest i.selection i.uploads, w.holding i)
  /-- A part cannot be taken, or the form ends with a fault. -/
  | givenUp (rest : Form) (selection : Selection) (uploads : Guard) (response : Response)
      (i : Intake) :
      Move s host w (.reading rest selection uploads)
        (.refused response, { w with disk := i.giveUp, issued := i.issued })
  /-- The form is read to its end. -/
  | begun (selection : Selection) (uploads : Guard) :
      Move s host w (.reading {} selection uploads)
        (.making (Style.named selection.animation).tag (.received selection),
          { w with metrics := w.metrics.start (Style.named selection.animation).tag })
  | made (tag : String) (stage stage' : Production.Stage) (disk : Disk) :
      Move s host w (.making tag stage) (.making tag stage', { w with disk })
  /-- The reel is over. -/
  | reported (tag : String) (stage : Production.Stage) (result : Except Failure Reel) :
      stage.result? = some result →
      Move s host w (.making tag stage)
        (.answered tag (report s tag result w.metrics).1,
          { w with
            metrics := (report s tag result w.metrics).2
            commands := w.commands ++ stage.command?.toList })
  /-- There is a response already. -/
  | rests (phase : Phase) (response : Response) : phase.response? = some response →
      Move s host w phase (phase, w)

theorem move_step (s : Service) (host : Host) (phase : Phase) (w : World) :
    Move s host w phase (Phase.step s host (phase, w)) := by
  cases phase with
  | refused response | answered tag response => exact .rests _ response rfl
  | reading rest selection uploads =>
      obtain ⟨parts, fault⟩ := rest
      cases parts with
      | nil =>
          cases fault with
          | none => exact .begun selection uploads
          | some fault =>
              exact .givenUp _ selection uploads _
                { selection, uploads, disk := w.disk, issued := w.issued }
      | cons part parts =>
          unfold Phase.step
          dsimp only
          split
          next i htake => exact .taken part { parts, fault } selection uploads i htake
          next problem i htake => exact .givenUp _ selection uploads _ i
  | making tag stage =>
      unfold Phase.step
      dsimp only
      split
      next => exact .made tag stage _ _
      next result hresult => exact .reported tag stage result hresult

/-! ## An order by itself -/

section Alone

variable {s : Service} {host : Host} {w : World}

/-- Some number of steps leads from one state of an order to another. -/
def Leads (s : Service) (host : Host) (here there : Phase × World) : Prop :=
  ∃ n, (Phase.step s host)^[n] here = there

namespace Leads

variable {here between there : Phase × World}

theorem refl (here : Phase × World) : Leads s host here here := ⟨0, rfl⟩

theorem trans (h : Leads s host here between) (h' : Leads s host between there) :
    Leads s host here there := by
  obtain ⟨n, rfl⟩ := h
  obtain ⟨m, rfl⟩ := h'
  exact ⟨m + n, Function.iterate_add_apply _ m n here⟩

theorem of_step (h : Phase.step s host here = there) : Leads s host here there := ⟨1, h⟩

end Leads

/-- Where the reading of a form leads. -/
def readTo (s : Service) (w : World) : Except Problem Unit × Intake → Phase × World
  | (.error problem, i) =>
    (.refused (problem.response s.settings.isProduction),
      { w with disk := i.giveUp, issued := i.issued })
  | (.ok (), i) =>
    (.making (Style.named i.selection.animation).tag (.received i.selection),
      { w.holding i with metrics := w.metrics.start (Style.named i.selection.animation).tag })

/-- **The parts of a form**, one step each, and one step for its end. -/
theorem leads_readTo (s : Service) (host : Host) (w : World) (parts : List Part)
    (fault : Option Http.Multipart.Fault) (i : Intake) :
    Leads s host (.reading { parts, fault } i.selection i.uploads, w.holding i)
      (readTo s w (Intake.takeForm host s.settings.uploadFolder { parts, fault } i)) := by
  induction parts generalizing i with
  | nil =>
      cases fault with
      | none => exact .of_step rfl
      | some fault => exact .of_step rfl
  | cons part parts ih =>
      rcases hpart : i.takePart host s.settings.uploadFolder part with
        ⟨problem | ⟨⟩, i'⟩
      · have htake : Intake.takeForm host s.settings.uploadFolder
            { parts := part :: parts, fault } i = (.error problem, i') := by
          simp only [Intake.takeForm, Intake.takeParts, hpart]
        rw [htake]
        refine .of_step ?_
        simp only [Phase.step, World.holding, hpart, readTo]
      · have htake : Intake.takeForm host s.settings.uploadFolder
            { parts := part :: parts, fault } i =
            Intake.takeForm host s.settings.uploadFolder { parts, fault } i' := by
          simp only [Intake.takeForm, Intake.takeParts, hpart]
        rw [htake]
        refine .trans (.of_step ?_) (ih i')
        simp only [Phase.step, World.holding, hpart]

/-- **The steps of a reel.** One that is finished waits for its report. -/
theorem leads_making (s : Service) (host : Host) (tag : String) (n : Nat)
    (stage : Production.Stage) (w : World) :
    Leads s host (.making tag stage, w)
      (.making tag (Production.advance s.studio host.engine host.now n (stage, w.disk)).1,
        { w with
          disk := (Production.advance s.studio host.engine host.now n (stage, w.disk)).2 }) := by
  induction n generalizing stage w with
  | zero => exact .refl _
  | succ n ih =>
      rcases hresult : stage.result? with _ | result
      · refine .trans (.of_step ?_)
          (ih (Production.step s.studio host.engine host.now w.disk stage).1
            { w with disk := (Production.step s.studio host.engine host.now w.disk stage).2 })
        simp only [Phase.step, hresult]
      · cases stage with
        | finished result command =>
            rw [Production.advance_finished]
            exact .refl _
        | received | opening | reserving | checking | rendering => cases hresult

/-- A state of an order is what the service has come to with it: there is the response,
or the engine runs on and its command is yet to be put down. -/
def ComesTo (here : Phase × World) : Option Response × World → Prop
  | (some response, w) => here.1.response? = some response ∧ here.2 = w
  | (none, w) => ∃ tag stage, here.1 = .making tag stage ∧
      { here.2 with commands := here.2.commands ++ stage.command?.toList } = w

/-- A reel that is made without other turns. -/
theorem leads_makeReel (s : Service) (host : Host) (selection : Selection) (w : World) :
    ∃ there, Leads s host
        (.making (Style.named selection.animation).tag (.received selection),
          { w with metrics := w.metrics.start (Style.named selection.animation).tag }) there ∧
      ComesTo there (makeReel s host selection w) := by
  generalize htag : (Style.named selection.animation).tag = tag
  have hmaking := leads_making s host tag (Production.stepBound selection) (.received selection)
    { w with metrics := w.metrics.start tag }
  unfold makeReel Production.make
  dsimp only
  rw [htag]
  dsimp only at hmaking
  generalize Production.advance s.studio host.engine host.now (Production.stepBound selection)
    (.received selection, w.disk) = made at hmaking ⊢
  obtain ⟨stage, disk⟩ := made
  dsimp only at hmaking ⊢
  rcases hresult : stage.result? with _ | result
  · exact ⟨_, hmaking, tag, stage, rfl, rfl⟩
  · refine ⟨_, hmaking.trans (.of_step rfl), ?_⟩
    simp only [Phase.step, hresult]
    exact ⟨rfl, rfl⟩

/-- **An order by itself.** Its steps come to what the service does with it. -/
theorem createVideo_alone (s : Service) (host : Host) (r : Request) (w : World) :
    ∃ there, Leads s host (Phase.opening r, w) there ∧ ComesTo there (createVideo s host r w) := by
  unfold Phase.opening createVideo
  rcases hboundary : (r.header? "content-type").bind Http.Multipart.boundary? with _ | boundary
  · exact ⟨_, .refl _, rfl, rfl⟩
  · dsimp only
    have hread := leads_readTo s host w (Http.Multipart.ofRequest boundary r).parts
      (Http.Multipart.ofRequest boundary r).fault { disk := w.disk, issued := w.issued }
    rcases htake : Intake.takeForm host s.settings.uploadFolder
      (Http.Multipart.ofRequest boundary r) { disk := w.disk, issued := w.issued } with
      ⟨problem | ⟨⟩, i⟩
    · rw [htake] at hread
      refine ⟨_, hread, ?_⟩
      unfold takeOrder
      dsimp only
      rw [htake]
      exact ⟨rfl, rfl⟩
    · rw [htake] at hread
      rw [takeOrder_eq htake]
      obtain ⟨there, hleads, hcomes⟩ := leads_makeReel s host i.selection (w.holding i)
      exact ⟨there, hread.trans hleads, hcomes⟩

end Alone

/-! ## The desk -/

/-- An order at the desk: the request, and how far it has come. -/
structure Ticket where
  request : Request
  phase : Phase

/-- All orders, the first one first, and what they share. -/
structure Desk where
  orders : List Ticket := []
  world : World

/-- Another world, with the same counters of reels. -/
def World.sparingReels (w other : World) : World :=
  { other with
    metrics :=
      { other.metrics with
        started := w.metrics.started
        completed := w.metrics.completed
        failed := w.metrics.failed } }

/-- What happens next. -/
inductive Turn where
  | arrives (request : Request)
  /-- An order takes a step, for which everything around the service is as it is then. -/
  | step (order : Nat) (host : Host)
  /-- Anything else happens: other requests, other programs, a clean-up. Only the
  counters of reels are left to the orders. -/
  | elsewhere (world : World)

namespace Desk

def take (s : Service) (desk : Desk) : Turn → Desk
  | .arrives request =>
    { desk with orders := desk.orders ++ [{ request, phase := .opening request }] }
  | .step n host =>
    match desk.orders[n]? with
    | some order =>
      let (phase, world) := Phase.step s host (order.phase, desk.world)
      { orders := desk.orders.set n { order with phase }, world }
    | none => desk
  | .elsewhere world => { desk with world := desk.world.sparingReels world }

def run (s : Service) (desk : Desk) (turns : List Turn) : Desk := turns.foldl (take s) desk

variable {s : Service} {host : Host}

/-- With one order and nothing else, the turns are its steps. -/
theorem run_steps (n : Nat) (request : Request) (here : Phase × World) :
    run s { orders := [⟨request, here.1⟩], world := here.2 } (List.replicate n (.step 0 host)) =
      { orders := [⟨request, ((Phase.step s host)^[n] here).1⟩]
        world := ((Phase.step s host)^[n] here).2 } := by
  induction n generalizing here with
  | zero => rfl
  | succ n ih =>
      rw [Function.iterate_succ_apply]
      exact ih (Phase.step s host here)

end Desk

/-! ## Other requests -/

/-- The counters of reels are the same. -/
structure SameReels (m m' : Metrics) : Prop where
  started : m'.started = m.started
  completed : m'.completed = m.completed
  failed : m'.failed = m.failed

theorem sparingReels_eq {w w' : World} (h : SameReels w.metrics w'.metrics) :
    w.sparingReels w' = w' := by
  unfold World.sparingReels
  rw [← h.started, ← h.completed, ← h.failed]

theorem metrics_answer (s : Service) (host : Host) (r : Request) (w : World) {route : Route}
    (h : route ≠ .createVideo) : (answer s host route r w).2.metrics = w.metrics := by
  unfold answer
  split
  next => rfl
  next =>
    cases route with
    | createVideo => exact absurd rfl h
    | options | health | ready | metrics | reels path | pages => rfl

theorem metrics_limited (s : Service) (host : Host) (r : Request) (w : World) {route : Route}
    (h : route ≠ .createVideo) :
    (limited s.settings.maxBodySize (answer s host route) r w).2.metrics = w.metrics := by
  unfold limited
  split
  next =>
    split
    next => rfl
    next => exact metrics_answer s host _ w h
  next => exact metrics_answer s host _ w h

/-- They are counted as they come in and go out, and nothing else is. -/
theorem sameReels_handled (s : Service) (host : Host) (r : Request) (w : World) {route : Route}
    (h : route ≠ .createVideo) : SameReels w.metrics (handled s host route r w).2.metrics := by
  have hmetrics := metrics_limited s host r { w with metrics := w.metrics.enter } h
  unfold handled counted
  dsimp only
  split
  next =>
    dsimp only
    rw [hmetrics]
    exact ⟨rfl, rfl, rfl⟩
  next =>
    dsimp only
    rw [hmetrics]
    exact ⟨rfl, rfl, rfl⟩

/-- Requests along other routes do not count reels, so they are turns elsewhere. -/
theorem sparingReels_respond (s : Service) (host : Host) (r : Request) (w : World)
    (h : Route.of s r.path ≠ .createVideo) :
    w.sparingReels (respond s host r w).2 = (respond s host r w).2 := by
  apply sparingReels_eq
  by_cases hoptions : r.method = "OPTIONS"
  · rw [respond_options hoptions]
    exact ⟨rfl, rfl, rfl⟩
  · have hhandled := sameReels_handled s host r (identified host.identifiers r w).2 h
    rw [metrics_identified] at hhandled
    rw [respond_eq hoptions]
    exact hhandled

end VideoGreeting.Service
