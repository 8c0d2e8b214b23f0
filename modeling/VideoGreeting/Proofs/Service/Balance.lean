import VideoGreeting.Proofs.Service.Desk
import VideoGreeting.Proofs.Service.Forms
import VideoGreeting.Proofs.Service.Labels

/-!
# The counters of reels balance

What was counted for an order can be read off how far it has come (`Phase.counts`). The
counters of reels hold the counts of all orders and nothing else: `Accounted` is kept by
one turn (`accounted_take`) and by a run (`accounted_run`), whichever order takes its
turn and however it fares. How often a tag was started, completed and failed is then a
matter of counting orders.

An order is counted under one tag, which its form settles: the animation that comes last
in it. Main theorem: `reels_balance`.
-/

namespace VideoGreeting.Service

open Http (Request Response)
open Http.Multipart (Form Part)

deriving instance DecidableEq for ReelCount

/-! ## What was counted -/

namespace Tally

variable {α : Type} [DecidableEq α]

theorem lookup_bump (a b : α) (counts : List (α × Nat)) :
    (bump a counts).lookup b =
      if a = b then some ((counts.lookup b).getD 0 + 1) else counts.lookup b := by
  induction counts with
  | nil =>
      by_cases hab : a = b
      · simp [bump, hab]
      · simp [bump, List.lookup_cons, beq_false_of_ne (Ne.symm hab), hab]
  | cons entry counts ih =>
      obtain ⟨c, n⟩ := entry
      rw [bump]
      by_cases hac : a = c
      · subst hac
        by_cases hab : a = b
        · simp [hab]
        · simp [List.lookup_cons, beq_false_of_ne (Ne.symm hab), hab]
      · rw [if_neg hac, List.lookup_cons, List.lookup_cons, ih]
        by_cases hbc : b = c
        · simp [hbc, hac]
        · simp [beq_false_of_ne hbc]

theorem count_add (t : Tally α) (a b : α) :
    (t.add a).count b = t.count b + if a = b then 1 else 0 := by
  unfold count add
  rw [lookup_bump]
  by_cases hab : a = b
  · simp [hab]
  · simp [hab]

end Tally

namespace Metrics

/-- How often reels were counted in one way. -/
def told (m : Metrics) : ReelCount → Nat
  | .started tag => m.started.count tag
  | .completed tag => m.completed.count tag
  | .failed tag reason => m.failed.count (tag, reason)

/-- Reels were counted in this way. -/
def Knows (m : Metrics) : ReelCount → Prop
  | .started tag => tag ∈ m.started.things
  | .completed tag => tag ∈ m.completed.things
  | .failed tag reason => (tag, reason) ∈ m.failed.things

end Metrics

theorem told_apply (m : Metrics) (count c : ReelCount) :
    (count.apply m).told c = m.told c + if count = c then 1 else 0 := by
  cases count <;> cases c <;>
    simp [Metrics.told, ReelCount.apply, Metrics.start, Metrics.complete, Metrics.fail,
      Tally.count_add]

theorem knows_apply (m : Metrics) (count c : ReelCount) :
    (count.apply m).Knows c ↔ c = count ∨ m.Knows c := by
  cases count <;> cases c <;>
    simp [Metrics.Knows, ReelCount.apply, Metrics.start, Metrics.complete, Metrics.fail,
      Tally.mem_things_add]

theorem told_foldl (m : Metrics) (counts : List ReelCount) (c : ReelCount) :
    (counts.foldl ReelCount.apply m).told c = m.told c + counts.count c := by
  induction counts generalizing m with
  | nil => rfl
  | cons count counts ih =>
      rw [List.foldl_cons, ih, told_apply, List.count_cons]
      by_cases hc : count = c
      · simp [hc]
        omega
      · simp [hc]

theorem knows_foldl (m : Metrics) (counts : List ReelCount) (c : ReelCount) :
    (counts.foldl ReelCount.apply m).Knows c ↔ c ∈ counts ∨ m.Knows c := by
  induction counts generalizing m with
  | nil => simp
  | cons count counts ih =>
      rw [List.foldl_cons, ih, knows_apply, List.mem_cons, or_left_comm, or_assoc]

theorem told_of_sameReels {m m' : Metrics} (h : SameReels m m') (c : ReelCount) :
    m'.told c = m.told c := by
  cases c <;> simp [Metrics.told, h.started, h.completed, h.failed]

theorem knows_of_sameReels {m m' : Metrics} (h : SameReels m m') (c : ReelCount) :
    m'.Knows c ↔ m.Knows c := by
  cases c <;> simp [Metrics.Knows, h.started, h.completed, h.failed]

/-! ## One order -/

/-- The tags under which reels are counted. -/
def tags : List String := ["fade", "rotate", "zoom", "slide", "bounce", "unrecognized"]

theorem tag_mem_tags (style : Style) : style.tag ∈ tags := by
  cases style <;> simp [Style.tag, tags]

/-- The tag of the animation that a request asks for, if its body can be a form. -/
def tagOf? (r : Request) : Option String :=
  ((r.header? "content-type").bind Http.Multipart.boundary?).map fun boundary =>
    (Style.named (lastText "animation" (Http.Multipart.ofRequest boundary r).parts)).tag

/-- How an answered reel is counted. -/
def verdict (tag : String) (status : Nat) : ReelCount :=
  if status = 200 then .completed tag
  else .failed tag (if status = 400 then .validation else .engine)

namespace Phase

/-- The tag under which the reel of an order is counted. -/
def tag? : Phase → Option String
  | reading _ _ _ | refused _ => none
  | making tag _ | answered tag _ => some tag

/-- The status of the response. -/
def status? (phase : Phase) : Option Nat := phase.response?.map (·.status)

/-- What was counted for an order so far. -/
def counts : Phase → List ReelCount
  | reading _ _ _ | refused _ => []
  | making tag _ => [.started tag]
  | answered tag response => [.started tag, verdict tag response.status]

theorem counts_opening (r : Request) : (opening r).counts = [] := by
  unfold opening
  split
  next => rfl
  next => rfl

end Phase

/-- A report counts what its status says, which is one of three. -/
theorem report_counts (s : Service) (tag : String) (result : Except Failure Reel) (m : Metrics) :
    (report s tag result m).1.status ∈ [200, 400, 500] ∧
      (report s tag result m).2 = (verdict tag (report s tag result m).1.status).apply m := by
  rcases result with failure | reel
  · have hstatus : (report s tag (.error failure) m).1.status =
        if failure.isRejection then 400 else 500 := status_ofFailure failure
    rw [hstatus, show (report s tag (.error failure) m).2 = m.fail tag (reasonOf failure) from rfl,
      reasonOf]
    cases failure.isRejection
    · exact ⟨by simp, rfl⟩
    · exact ⟨by simp, rfl⟩
  · exact ⟨List.mem_cons_self, rfl⟩

/-- **One step counts** what it adds to the counts of its order. -/
theorem counts_step (s : Service) (host : Host) (phase : Phase) (w : World) :
    ∃ new, (Phase.step s host (phase, w)).1.counts = phase.counts ++ new ∧
      (Phase.step s host (phase, w)).2.metrics = new.foldl ReelCount.apply w.metrics := by
  have hmove := move_step s host phase w
  generalize Phase.step s host (phase, w) = next at hmove ⊢
  cases hmove with
  | taken | givenUp | made => exact ⟨[], rfl, rfl⟩
  | begun selection uploads =>
      exact ⟨[.started (Style.named selection.animation).tag], rfl, rfl⟩
  | reported tag stage result =>
      exact ⟨[_], rfl, (report_counts s tag result w.metrics).2⟩
  | rests => exact ⟨[], (List.append_nil _).symm, rfl⟩

/-! ### The tag of an order -/

/-- A phase is one of the request: what was read so far is the front of its form, and the
reel is counted under the tag of the form. -/
inductive Phase.Fits (r : Request) : Phase → Prop
  | reading (boundary : String) (past : List Part) (rest : Form) (selection : Selection)
      (uploads : Guard) :
      (r.header? "content-type").bind Http.Multipart.boundary? = some boundary →
      (Http.Multipart.ofRequest boundary r).parts = past ++ rest.parts →
      selection.animation = lastText "animation" past →
      Fits r (.reading rest selection uploads)
  | refused (response : Response) : Fits r (.refused response)
  | making (tag : String) (stage : Production.Stage) : tagOf? r = some tag →
      Fits r (.making tag stage)
  | answered (tag : String) (response : Response) : tagOf? r = some tag →
      response.status ∈ [200, 400, 500] → Fits r (.answered tag response)

theorem fits_opening (r : Request) : (Phase.opening r).Fits r := by
  unfold Phase.opening
  split
  next => exact .refused _
  next boundary hboundary => exact .reading boundary [] _ {} .empty hboundary rfl rfl

/-- Of the parts, those with the animation set it. -/
theorem animation_takePart {host : Host} {folder : Path} {i i' : Intake}
    {past : List Part} {part : Part} (h : i.takePart host folder part = (.ok (), i'))
    (hpast : i.selection.animation = lastText "animation" past) :
    i'.selection.animation = lastText "animation" (past ++ [part]) := by
  rw [lastText_concat]
  rcases takePart_eq_ok h with ⟨hname, -, d, d', -, -, rfl⟩ | ⟨-, rfl⟩
  · rw [if_neg (by rw [hname]; decide)]
    exact hpast
  · dsimp only
    rw [setField_eq, hpast]
    cases part.name <;> simp

/-- **One step stays with the form.** -/
theorem fits_step (s : Service) (host : Host) {r : Request} {phase : Phase} (w : World)
    (h : phase.Fits r) : (Phase.step s host (phase, w)).1.Fits r := by
  have hmove := move_step s host phase w
  generalize Phase.step s host (phase, w) = next at hmove ⊢
  cases hmove with
  | taken part rest selection uploads i htake =>
      cases h with
      | reading boundary past _ _ _ hboundary hparts hanimation =>
          refine .reading boundary (past ++ [part]) rest _ _ hboundary ?_
            (animation_takePart htake hanimation)
          rw [hparts, List.append_assoc]
          rfl
  | givenUp => exact .refused _
  | begun selection uploads =>
      cases h with
      | reading boundary past _ _ _ hboundary hparts hanimation =>
          refine .making _ _ ?_
          rw [tagOf?, hboundary, Option.map_some, hparts, hanimation, List.append_nil]
  | made tag stage stage' disk =>
      cases h with
      | making _ _ htag => exact .making tag stage' htag
  | reported tag stage result =>
      cases h with
      | making _ _ htag => exact .answered tag _ htag (report_counts s tag result w.metrics).1
  | rests => exact h

/-! ## All orders -/

/-- What was counted for orders so far. -/
def countsOf (orders : List Ticket) : List ReelCount := orders.flatMap (·.phase.counts)

/-- The counters of reels hold the counts of the orders and nothing else. -/
structure Accounted (desk : Desk) : Prop where
  fits : ∀ o ∈ desk.orders, o.phase.Fits o.request
  told : ∀ c, desk.world.metrics.told c = (countsOf desk.orders).count c
  knows : ∀ c, desk.world.metrics.Knows c ↔ c ∈ countsOf desk.orders

theorem accounted_opened (d : Disk) (issued : Nat) :
    Accounted { world := { disk := d, issued } } where
  fits := List.forall_mem_nil _
  told c := by cases c <;> rfl
  knows c := by cases c <;> simp [Metrics.Knows, Tally.things, countsOf]

/-- An order takes the place of another one. -/
theorem exists_set {orders : List Ticket} {n : Nat} {o : Ticket} (h : orders[n]? = some o) :
    ∃ front back, orders = front ++ o :: back ∧ ∀ o', orders.set n o' = front ++ o' :: back := by
  obtain ⟨hn, rfl⟩ := List.getElem?_eq_some_iff.mp h
  refine ⟨orders.take n, orders.drop (n + 1), ?_, fun o' => ?_⟩
  · rw [List.getElem_cons_drop, List.take_append_drop]
  · rw [List.set_eq_take_append_cons_drop, if_pos hn]

/-- Some counts are added, and the counters of reels take them in. -/
theorem Accounted.add {desk : Desk} (h : Accounted desk) (new : List ReelCount)
    {orders : List Ticket} {w : World} (hfits : ∀ o ∈ orders, o.phase.Fits o.request)
    (hcounts : (countsOf orders).Perm (countsOf desk.orders ++ new))
    (hreels : SameReels (new.foldl ReelCount.apply desk.world.metrics) w.metrics) :
    Accounted { orders, world := w } where
  fits := hfits
  told c := by
    show w.metrics.told c = _
    rw [hcounts.count_eq, List.count_append, ← h.told, ← told_foldl]
    exact told_of_sameReels hreels c
  knows c := by
    show w.metrics.Knows c ↔ _
    rw [hcounts.mem_iff, List.mem_append, or_comm, ← h.knows, ← knows_foldl]
    exact knows_of_sameReels hreels c

/-- **One turn.** -/
theorem accounted_take {s : Service} {desk : Desk} (h : Accounted desk) (turn : Turn) :
    Accounted (desk.take s turn) := by
  cases turn with
  | arrives request =>
      refine h.add [] ?_ ?_ ⟨rfl, rfl, rfl⟩
      · intro o ho
        rcases List.mem_append.mp ho with hbefore | hlast
        · exact h.fits o hbefore
        · obtain rfl := List.mem_singleton.mp hlast
          exact fits_opening request
      · simp [countsOf, Phase.counts_opening]
  | step n host =>
      unfold Desk.take
      dsimp only
      split
      next o ho =>
        obtain ⟨front, back, horders, hset⟩ := exists_set ho
        obtain ⟨new, hcounts, hmetrics⟩ := counts_step s host o.phase desk.world
        have hfits := h.fits
        rw [horders, List.forall_mem_append, List.forall_mem_cons] at hfits
        rw [hset]
        refine h.add new ?_ ?_ (by rw [hmetrics]; exact ⟨rfl, rfl, rfl⟩)
        · rw [List.forall_mem_append, List.forall_mem_cons]
          exact ⟨hfits.1, fits_step s host desk.world hfits.2.1, hfits.2.2⟩
        · -- what is new stands among the counts of the order
          simp only [countsOf, horders, List.flatMap_append, List.flatMap_cons, hcounts,
            List.append_assoc]
          exact (List.perm_append_comm.append_left _).append_left _
      next => exact h
  | elsewhere world =>
      refine h.add [] h.fits ?_ ⟨rfl, rfl, rfl⟩
      rw [List.append_nil]

/-- **A run.** -/
theorem accounted_run {s : Service} {desk : Desk} (h : Accounted desk) (turns : List Turn) :
    Accounted (desk.run s turns) := by
  induction turns generalizing desk with
  | nil => exact h
  | cons turn turns ih => exact ih (accounted_take h turn)

/-! ## Counting orders -/

namespace Desk

/-- How many orders have a tag, be their reels under way or over. -/
def tagged (desk : Desk) (tag : String) : Nat :=
  desk.orders.countP fun o => o.phase.tag? = some tag

/-- How many orders with a tag are between the reading of the form and the response. -/
def underWay (desk : Desk) (tag : String) : Nat :=
  desk.orders.countP fun o => o.phase.tag? = some tag ∧ o.phase.status? = none

/-- How many orders with a tag are answered with a status. -/
def answered (desk : Desk) (tag : String) (status : Nat) : Nat :=
  desk.orders.countP fun o => o.phase.tag? = some tag ∧ o.phase.status? = some status

end Desk

/-- A way of counting picks at most one count of each order. -/
theorem count_countsOf {orders : List Ticket} {c : ReelCount} {p : Ticket → Bool}
    (h : ∀ o ∈ orders, o.phase.counts.count c = if p o then 1 else 0) :
    (countsOf orders).count c = orders.countP p := by
  induction orders with
  | nil => rfl
  | cons o orders ih =>
      rw [List.forall_mem_cons] at h
      rw [countsOf, List.flatMap_cons, List.count_append, List.countP_cons, h.1]
      rw [show (orders.flatMap _).count c = _ from ih h.2]
      omega

theorem verdict_ne_started (tag own : String) (status : Nat) :
    verdict own status ≠ .started tag := by
  unfold verdict
  split <;> exact nofun

/-- The outcome tells the tag and, of the three statuses of reels, which one it was. -/
theorem verdict_eq_iff {tag own : String} {status given : Nat} (hgiven : given ∈ [200, 400, 500])
    (hstatus : status ∈ [200, 400, 500]) :
    verdict own given = verdict tag status ↔ own = tag ∧ given = status := by
  simp only [List.mem_cons, List.not_mem_nil, or_false] at hgiven hstatus
  rcases hgiven with rfl | rfl | rfl <;> rcases hstatus with rfl | rfl | rfl <;> simp [verdict]

theorem count_started (phase : Phase) (tag : String) :
    phase.counts.count (.started tag) = if decide (phase.tag? = some tag) then 1 else 0 := by
  cases phase with
  | reading rest selection uploads | refused response => rfl
  | making own stage => simp [Phase.counts, Phase.tag?, List.count_singleton]
  | answered own response =>
      simp [Phase.counts, Phase.tag?, List.count_cons, verdict_ne_started]

/-- A reel that is over is counted by the status of its response. -/
theorem count_verdict {r : Request} {phase : Phase} (h : phase.Fits r) (tag : String)
    {status : Nat} (hstatus : status ∈ [200, 400, 500]) :
    phase.counts.count (verdict tag status) =
      if decide (phase.tag? = some tag ∧ phase.status? = some status) then 1 else 0 := by
  have hstarted (own : String) : ReelCount.started own ≠ verdict tag status :=
    (verdict_ne_started own tag status).symm
  cases h with
  | reading | refused => rfl
  | making own stage =>
      simp [Phase.counts, Phase.status?, Phase.response?, hstarted]
  | answered own response _ hgiven =>
      simp [Phase.counts, Phase.tag?, Phase.status?, Phase.response?, List.count_cons, hstarted,
        verdict_eq_iff hgiven hstatus]

/-- The orders with a tag are under way or answered. -/
theorem tagged_eq {desk : Desk} (h : Accounted desk) (tag : String) :
    desk.tagged tag = desk.answered tag 200 + desk.answered tag 400 + desk.answered tag 500 +
      desk.underWay tag := by
  have hfits := h.fits
  unfold Desk.tagged Desk.answered Desk.underWay
  generalize desk.orders = orders at hfits ⊢
  induction orders with
  | nil => rfl
  | cons o orders ih =>
      rw [List.forall_mem_cons] at hfits
      simp only [List.countP_cons, ih hfits.2]
      -- the head counts on both sides or on neither
      obtain ⟨request, phase⟩ := o
      cases hfits.1 with
      | reading | refused => simp [Phase.tag?]
      | making own stage =>
          by_cases htag : own = tag <;> simp [Phase.tag?, Phase.status?, Phase.response?, htag]
          omega
      | answered own response _ hstatus =>
          simp only [List.mem_cons, List.not_mem_nil, or_false] at hstatus
          by_cases htag : own = tag
          · rcases hstatus with h | h | h <;>
              simp [Phase.tag?, Phase.status?, Phase.response?, htag, h] <;> omega
          · simp [Phase.tag?, htag]

/-! ## What becomes of an order -/

/-- What an order may become: its tag stays once it has one, and so does its response. -/
structure Follows (o o' : Ticket) : Prop where
  request : o'.request = o.request
  tag : ∀ tag, o.phase.tag? = some tag → o'.phase.tag? = some tag
  response : ∀ response, o.phase.response? = some response → o'.phase = o.phase

theorem Follows.refl (o : Ticket) : Follows o o := ⟨rfl, fun _ => id, fun _ _ => rfl⟩

theorem Follows.trans {o o' o'' : Ticket} (h : Follows o o') (h' : Follows o' o'') :
    Follows o o'' where
  request := h'.request.trans h.request
  tag tag htag := h'.tag tag (h.tag tag htag)
  response response hresponse := by
    have hkept := h.response response hresponse
    rw [h'.response response (by rw [hkept, hresponse]), hkept]

theorem follows_step (s : Service) (host : Host) (o : Ticket) (w : World) :
    Follows o { o with phase := (Phase.step s host (o.phase, w)).1 } := by
  obtain ⟨request, phase⟩ := o
  have hmove := move_step s host phase w
  generalize Phase.step s host (phase, w) = next at hmove ⊢
  cases hmove with
  | taken | givenUp | begun => exact ⟨rfl, nofun, nofun⟩
  | made | reported => exact ⟨rfl, fun _ => id, nofun⟩
  | rests => exact .refl _

theorem follows_take {s : Service} {desk : Desk} (turn : Turn) {n : Nat} {o : Ticket}
    (h : desk.orders[n]? = some o) :
    ∃ o', (desk.take s turn).orders[n]? = some o' ∧ Follows o o' := by
  cases turn with
  | arrives request =>
      refine ⟨o, ?_, .refl o⟩
      show (desk.orders ++ _)[n]? = _
      rw [List.getElem?_append_left (List.getElem?_eq_some_iff.mp h).1, h]
  | step m host =>
      unfold Desk.take
      dsimp only
      split
      next o' ho' =>
        by_cases hm : m = n
        · subst hm
          obtain rfl := Option.some.inj (ho'.symm.trans h)
          exact ⟨_, List.getElem?_set_self (List.getElem?_eq_some_iff.mp h).1,
            follows_step s host o' desk.world⟩
        · exact ⟨o, by rw [List.getElem?_set_ne hm, h], .refl o⟩
      next => exact ⟨o, h, .refl o⟩
  | elsewhere world => exact ⟨o, h, .refl o⟩

theorem follows_run {s : Service} {desk : Desk} (turns : List Turn) {n : Nat} {o : Ticket}
    (h : desk.orders[n]? = some o) :
    ∃ o', (desk.run s turns).orders[n]? = some o' ∧ Follows o o' := by
  induction turns generalizing desk o with
  | nil => exact ⟨o, h, .refl o⟩
  | cons turn turns ih =>
      obtain ⟨next, hnext, hfollows⟩ := follows_take (s := s) turn h
      obtain ⟨last, hlast, hrest⟩ := ih hnext
      exact ⟨last, hlast, hfollows.trans hrest⟩

/-! ## The balance -/

/-- The counters of reels of one tag, held against the orders. -/
structure Balanced (desk : Desk) (tag : String) : Prop where
  /-- Every reel that was begun is finished, not made for one of two reasons, or under
  way. -/
  balance : desk.world.metrics.started.count tag =
    desk.world.metrics.completed.count tag +
      desk.world.metrics.failed.count (tag, .validation) +
      desk.world.metrics.failed.count (tag, .engine) + desk.underWay tag
  /-- Every order with the tag was begun once. -/
  started : desk.world.metrics.started.count tag = desk.tagged tag
  completed : desk.world.metrics.completed.count tag = desk.answered tag 200
  /-- The reason is validation exactly if the status is 400. -/
  validation : desk.world.metrics.failed.count (tag, .validation) = desk.answered tag 400
  engine : desk.world.metrics.failed.count (tag, .engine) = desk.answered tag 500

theorem Accounted.balanced {desk : Desk} (h : Accounted desk) (tag : String) :
    Balanced desk tag := by
  have hstarted : desk.world.metrics.started.count tag = desk.tagged tag :=
    (h.told (.started tag)).trans (count_countsOf fun o _ => count_started o.phase tag)
  have houtcome (status : Nat) (hstatus : status ∈ [200, 400, 500]) :
      desk.world.metrics.told (verdict tag status) = desk.answered tag status :=
    (h.told _).trans (count_countsOf fun o ho => count_verdict (h.fits o ho) tag hstatus)
  have hcompleted : desk.world.metrics.completed.count tag = desk.answered tag 200 :=
    houtcome 200 (by simp)
  have hvalidation : desk.world.metrics.failed.count (tag, .validation) =
      desk.answered tag 400 := houtcome 400 (by simp)
  have hengine : desk.world.metrics.failed.count (tag, .engine) = desk.answered tag 500 :=
    houtcome 500 (by simp)
  refine ⟨?_, hstarted, hcompleted, hvalidation, hengine⟩
  rw [hstarted, hcompleted, hvalidation, hengine]
  exact tagged_eq h tag

/-- The tag under which something is counted. -/
def ReelCount.tag : ReelCount → String
  | started tag | completed tag | failed tag _ => tag

theorem tag?_of_mem_counts {phase : Phase} {c : ReelCount} (h : c ∈ phase.counts) :
    phase.tag? = some c.tag := by
  cases phase with
  | reading | refused => cases h
  | making own stage =>
      obtain rfl := List.mem_singleton.mp h
      rfl
  | answered own response =>
      have houtcome : (verdict own response.status).tag = own := by
        unfold verdict
        split <;> rfl
      rcases List.mem_cons.mp h with rfl | h
      · rfl
      · obtain rfl := List.mem_singleton.mp h
        rw [houtcome]
        rfl

theorem tagOf?_of_fits {r : Request} {phase : Phase} (h : phase.Fits r) {tag : String}
    (htag : phase.tag? = some tag) : tagOf? r = some tag := by
  cases h with
  | reading | refused => cases htag
  | making own stage hown =>
      cases htag
      exact hown
  | answered own response hown =>
      cases htag
      exact hown

theorem mem_tags_of_tagOf? {r : Request} {tag : String} (h : tagOf? r = some tag) :
    tag ∈ tags := by
  obtain ⟨boundary, -, rfl⟩ := Option.map_eq_some_iff.mp h
  exact tag_mem_tags _

/-- What is counted is counted under one of the tags. -/
theorem Accounted.tag_mem_tags {desk : Desk} (h : Accounted desk) {c : ReelCount}
    (hc : desk.world.metrics.Knows c) : c.tag ∈ tags := by
  obtain ⟨o, ho, hcounts⟩ := List.mem_flatMap.mp ((h.knows c).mp hc)
  exact mem_tags_of_tagOf? (tagOf?_of_fits (h.fits o ho) (tag?_of_mem_counts hcounts))

/-- The counters of reels and the orders agree. -/
structure Reconciled (s : Service) (desk : Desk) : Prop where
  balanced : ∀ tag, Balanced desk tag
  /-- An order is counted under no other tag than that of its form. -/
  tagOf : ∀ o ∈ desk.orders, ∀ tag, o.phase.tag? = some tag →
    tagOf? o.request = some tag ∧ tag ∈ tags
  statuses : ∀ o ∈ desk.orders, ∀ tag response, o.phase = .answered tag response →
    response.status ∈ [200, 400, 500]
  /-- Whatever the clients write, the counters know few tags. -/
  known : ∀ c, desk.world.metrics.Knows c → c.tag ∈ tags
  /-- The tag and the response of an order stay. -/
  follows : ∀ (later : List Turn) (n : Nat) (o : Ticket), desk.orders[n]? = some o →
    ∃ o', (desk.run s later).orders[n]? = some o' ∧ Follows o o'

theorem Accounted.reconciled {s : Service} {desk : Desk} (h : Accounted desk) :
    Reconciled s desk where
  balanced := h.balanced
  tagOf o ho tag htag := by
    have hown := tagOf?_of_fits (h.fits o ho) htag
    exact ⟨hown, mem_tags_of_tagOf? hown⟩
  statuses o ho tag response hphase := by
    have hfits := h.fits o ho
    rw [hphase] at hfits
    cases hfits with
    | answered _ _ _ hstatus => exact hstatus
  known _ hc := h.tag_mem_tags hc
  follows later _ _ ho := follows_run later ho

/-- **The counters of reels balance.** At every moment, whichever orders have come in,
however they take turns, whatever happens elsewhere and however each of them fares: of
the reels begun under a tag, those that are neither finished nor failed are under way. An
order whose form is read is begun once, under the tag of its form, and is finished or
failed once, for the reason that its status tells; one whose form cannot be read is not
counted. An order by itself is what the service makes of it, and requests along other
routes do not touch these counters. -/
theorem reels_balance (s : Service) :
    (∀ (d : Disk) (issued : Nat) (turns : List Turn),
      Reconciled s (Desk.run s { world := { disk := d, issued } } turns)) ∧
    (∀ (host : Host) (r : Request) (w : World), ∃ n phase world,
      Desk.run s { world := w } (.arrives r :: List.replicate n (.step 0 host)) =
        { orders := [⟨r, phase⟩], world } ∧
      ComesTo (phase, world) (createVideo s host r w)) ∧
    ∀ (host : Host) (r : Request) (w : World), Route.of s r.path ≠ .createVideo →
      w.sparingReels (respond s host r w).2 = (respond s host r w).2 := by
  refine ⟨fun d issued turns => ?_, fun host r w => ?_, sparingReels_respond s⟩
  · exact (accounted_run (accounted_opened d issued) turns).reconciled
  · obtain ⟨there, ⟨n, hn⟩, hcomes⟩ := createVideo_alone s host r w
    refine ⟨n, there.1, there.2, ?_, hcomes⟩
    rw [← hn]
    exact Desk.run_steps n r (.opening r, w)

end VideoGreeting.Service
