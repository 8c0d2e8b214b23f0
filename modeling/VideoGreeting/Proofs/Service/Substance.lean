import VideoGreeting.Proofs.Service.Headers

/-!
# Status and body

What a response tells beside its headers. The layers around the routes only add
headers, so a response comes out with the status and the body with which the route
answered.
-/

namespace VideoGreeting

open Text (Bytes)

namespace Http.Response

/-- The status and the body. -/
def substance (r : Response) : Nat × Option Bytes := (r.status, r.body)

variable {name value : String}

@[simp] theorem substance_set (r : Response) : (r.set name value).substance = r.substance := rfl

@[simp] theorem substance_setDefault (r : Response) :
    (r.setDefault name value).substance = r.substance := by
  unfold setDefault
  split
  next => rfl
  next => rfl

theorem substance_setDefaults (headers : List (String × String)) (r : Response) :
    (headers.foldl (fun r (name, value) => r.setDefault name value) r).substance =
      r.substance := by
  induction headers generalizing r with
  | nil => rfl
  | cons header headers ih => rw [List.foldl_cons, ih, substance_setDefault]

theorem substance_setAll (headers : List (String × String)) (r : Response) :
    (r.setAll headers).substance = r.substance := by
  unfold setAll
  induction headers generalizing r with
  | nil => rfl
  | cons header headers ih => rw [List.foldl_cons, ih, substance_set]

end Http.Response

namespace Service

open Http

theorem substance_mark (id : String) (given : Response) :
    (mark id given).substance = given.substance := by
  rw [mark, Response.substance_set, Response.substance_setDefaults]

theorem status_finish (route : Route) (method : String) (response : Response) :
    (finish route method response).status = response.status := by
  unfold finish
  split
  next => rfl
  next =>
    split
    next => exact congrArg Prod.fst (Response.substance_setDefault response)
    next =>
      split
      next => rfl
      next => rfl

/-- A route keeps the body for its own methods, apart from `HEAD`. -/
theorem finish_eq_self {route : Route} {method : String}
    (h : ∀ methods, route.methods = some methods → method ∈ methods ∧ method ≠ "HEAD")
    (response : Response) : finish route method response = response := by
  unfold finish
  split
  next => rfl
  next methods hmethods =>
    obtain ⟨hmem, hhead⟩ := h methods hmethods
    rw [if_neg (by simpa using hmem), if_neg hhead]

section Responses

variable {r : Request}

/-- The status is the one that the route or the limit answered with. -/
theorem status_respond (s : Service) (host : Host) (w : World) (h : r.method ≠ "OPTIONS") :
    (respond s host r w).1.map (·.status) =
      (handled s host (Route.of s r.path) r (identified host.identifiers r w).2).1.map
        (·.status) := by
  rw [respond_eq h]
  show Option.map _ (Option.map _ _) = _
  rw [Option.map_map]
  congr 1
  funext given
  show (finish _ _ _).status = given.status
  rw [status_finish]
  exact congrArg Prod.fst ((Response.substance_setAll _ _).trans (substance_mark _ given))

theorem substance_respond (s : Service) (host : Host) (w : World) (h : r.method ≠ "OPTIONS")
    (hmethod : ∀ methods, (Route.of s r.path).methods = some methods →
      r.method ∈ methods ∧ r.method ≠ "HEAD") :
    (respond s host r w).1.map Response.substance =
      (handled s host (Route.of s r.path) r (identified host.identifiers r w).2).1.map
        Response.substance := by
  rw [respond_eq h]
  show Option.map _ (Option.map _ _) = _
  rw [Option.map_map]
  congr 1
  funext given
  show (finish _ _ _).substance = given.substance
  rw [finish_eq_self hmethod, Response.substance_setAll, substance_mark]

end Responses

end Service

end VideoGreeting
