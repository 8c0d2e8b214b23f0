import VideoGreeting.Http.Message
import VideoGreeting.Proofs.Disk.Files

/-!
# Headers of a response

What a response has in its headers after one of them is set: that one is as it
was set, and the others are as they were.
-/

namespace VideoGreeting.Http.Response

variable {name name' value : String}

theorem header?_set (r : Response) :
    (r.set name value).header? name' = if name' = name then some value else r.header? name' := by
  unfold header? set
  rw [List.lookup_append, lookup_filter_ne, List.lookup_cons, List.lookup_nil]
  by_cases hname : name' = name
  · simp [hname]
  · rw [if_neg hname, if_neg hname, beq_false_of_ne hname, Option.or_none]

theorem header?_setDefault (r : Response) :
    (r.setDefault name value).header? name' =
      if name' = name then some ((r.header? name).getD value) else r.header? name' := by
  unfold setDefault
  rcases hheader : r.header? name with _ | given
  · simp [header?_set]
  · by_cases hname : name' = name
    · simp [hname, hheader]
    · simp [hname]

/-- Setting headers leaves those of other names. -/
theorem header?_setAll {headers : List (String × String)}
    (h : ∀ header ∈ headers, header.1 ≠ name') (r : Response) :
    (r.setAll headers).header? name' = r.header? name' := by
  unfold setAll
  induction headers generalizing r with
  | nil => rfl
  | cons header headers ih =>
      obtain ⟨hne, hrest⟩ := List.forall_mem_cons.mp h
      rw [List.foldl_cons, ih hrest, header?_set, if_neg hne.symm]

/-- Setting defaults leaves what has a value. -/
theorem header?_setDefaults {headers : List (String × String)} (hnodup : (headers.map (·.1)).Nodup)
    {header : String × String} (h : header ∈ headers) (r : Response) :
    (headers.foldl (fun r (name, value) => r.setDefault name value) r).header? header.1 =
      some ((r.header? header.1).getD header.2) := by
  have hothers (headers : List (String × String)) {name : String}
      (hname : name ∉ headers.map (·.1)) (r : Response) :
      (headers.foldl (fun r (name, value) => r.setDefault name value) r).header? name =
        r.header? name := by
    induction headers generalizing r with
    | nil => rfl
    | cons header headers ih =>
        rw [List.map_cons, List.mem_cons, not_or] at hname
        rw [List.foldl_cons, ih hname.2, header?_setDefault, if_neg hname.1]
  induction headers generalizing r with
  | nil => cases h
  | cons first headers ih =>
      rw [List.map_cons, List.nodup_cons] at hnodup
      rw [List.foldl_cons]
      rcases List.mem_cons.mp h with rfl | hrest
      · rw [hothers headers hnodup.1, header?_setDefault, if_pos rfl]
      · have hne : header.1 ≠ first.1 := by
          intro heq
          exact hnodup.1 (heq ▸ List.mem_map_of_mem hrest)
        rw [ih hnodup.2 hrest, header?_setDefault, if_neg hne]

@[simp] theorem header?_bodiless (r : Response) : r.bodiless.header? name' = r.header? name' := rfl

end VideoGreeting.Http.Response
