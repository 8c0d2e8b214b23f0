import VideoGreeting.Production
import VideoGreeting.Proofs.Disk.Files
import VideoGreeting.Proofs.Production.Inputs
import VideoGreeting.Proofs.Selection.Resolved

/-!
# The making of a reel ends

Every step lowers the rank of the stage, which counts the names left to try and
the inputs left to look for. Only an engine that runs forever keeps a reel from
being finished.
-/

namespace VideoGreeting.Production

open Disk

variable {studio : Studio} {engine : Engine.Command → Engine.Run} {now : Int}
  {selection : Selection} {d : Disk}

/-- A plan is made for the images of the selection. -/
theorem plan_images {p : Plan} (h : plan studio selection = .ok p) :
    p.resolved.images = selection.images := by
  simp only [plan, bind_eq_ok, mapError_eq_ok, pure_eq_ok] at h
  obtain ⟨resolved, hresolve, graph, -, rfl⟩ := h
  exact congrArg Resolved.images (Selection.eq_resolved hresolve)

/-- A stage that does not change any more: the reel is finished, or the engine
runs forever. -/
def IsOver (engine : Engine.Command → Engine.Run) : Stage → Prop
  | .finished _ _ => True
  | .rendering job => (engine job.command).result = none
  | _ => False

/-- How many steps are left at most, unless the engine runs forever. -/
def rank : Stage → Nat
  | .received selection => maxAttempts + selection.images.length + 8
  | .opening p => maxAttempts + p.resolved.images.length + 7
  | .reserving p _ attempt => (maxAttempts - attempt) + p.resolved.images.length + 6
  | .checking _ remaining => remaining.length + 2
  | .rendering _ => 1
  | .finished _ _ => 0

theorem isOver_step {stage : Stage} (h : IsOver engine stage) :
    IsOver engine (step studio engine now d stage).1 := by
  cases stage with
  | finished result command => exact h
  | rendering job =>
      have hresult : (engine job.command).result = none := h
      unfold step
      dsimp only
      rw [hresult]
      exact h
  | received | opening | reserving | checking => exact h.elim

/-- A job has an input for every image and three more at most. -/
theorem length_inputFiles (r : Resolved) (g : FilterGraph.Graph) (s : Settings) (output : Path) :
    (Job.of r g s output).inputFiles.length ≤ r.images.length + 3 := by
  rw [Job.inputFiles_of]
  by_cases haux : s.auxiliaryInput = true
  · simp [haux]
  · simp [haux]

/-- **Every step counts.** -/
theorem rank_step {stage : Stage} (h : ¬IsOver engine stage) :
    rank (step studio engine now d stage).1 < rank stage := by
  cases stage with
  | received s =>
      unfold step
      dsimp only
      split
      next p hplan =>
        rw [rank, rank, plan_images hplan]
        omega
      next => exact Nat.succ_pos _
  | opening p =>
      unfold step
      dsimp only
      split
      next =>
        rw [rank, rank]
        omega
      next => exact Nat.succ_pos _
  | reserving p stem attempt =>
      unfold step
      dsimp only
      split
      next hattempt =>
        split
        next path d' hreserved =>
          -- one step for each input follows, and two more
          have hinputs := length_inputFiles p.resolved p.graph studio.settings path
          rw [rank, rank]
          omega
        next =>
          rw [rank, rank]
          omega
        next => exact Nat.succ_pos _
      next => exact Nat.succ_pos _
  | checking job remaining =>
      cases remaining with
      | nil => exact Nat.lt_succ_self 1
      | cons path rest =>
          unfold step
          dsimp only
          split
          next => exact Nat.lt_succ_self _
          next => exact Nat.succ_pos _
  | rendering job =>
      unfold step
      dsimp only
      split
      next hnone => exact absurd hnone h
      next => exact Nat.one_pos
      next => exact Nat.one_pos
  | finished result command => exact absurd trivial h

theorem isOver_advance_of_isOver (n : Nat) {stage : Stage} (h : IsOver engine stage) :
    IsOver engine (advance studio engine now n (stage, d)).1 := by
  induction n generalizing stage d with
  | zero => exact h
  | succ n ih => exact ih (isOver_step h)

/-- A run that is long enough is over. -/
theorem isOver_advance (n : Nat) {stage : Stage} (hrank : rank stage ≤ n) :
    IsOver engine (advance studio engine now n (stage, d)).1 := by
  by_cases h : IsOver engine stage
  · exact isOver_advance_of_isOver n h
  · have hless : rank (step studio engine now d stage).1 < rank stage := rank_step h
    induction n generalizing stage d with
    | zero => omega
    | succ n ih =>
        show IsOver engine (advance studio engine now n
          ((step studio engine now d stage).1, (step studio engine now d stage).2)).1
        by_cases hnext : IsOver engine (step studio engine now d stage).1
        · exact isOver_advance_of_isOver n hnext
        · exact ih (by omega) hnext (rank_step hnext)

end VideoGreeting.Production
