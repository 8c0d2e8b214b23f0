import Mathlib

/-!
# Values under keys

Entries, headers and fields are lists of values under keys, of which the first under a
key counts. So what is found under a key is a matter of the entries under that key, and
of their order only if there are several.
-/

namespace VideoGreeting

variable {α β : Type} [BEq α] [LawfulBEq α] [DecidableEq α] {entries entries' : List (α × β)}
  {key : α}

/-- Keys that are kept are found as before. -/
theorem lookup_filter (keep : α → Bool) (entries : List (α × β)) (key : α) :
    (entries.filter fun entry => keep entry.1).lookup key =
      if keep key then entries.lookup key else none := by
  induction entries with
  | nil => simp
  | cons entry entries ih =>
      obtain ⟨first, value⟩ := entry
      by_cases hkey : key = first
      · subst hkey
        by_cases hkeep : keep key = true
        · simp [hkeep]
        · simpa [hkeep] using ih
      · have hother : (key == first) = false := beq_false_of_ne hkey
        rw [List.lookup_cons, hother, ← ih]
        by_cases hkeep : keep first = true
        · rw [List.filter_cons_of_pos (by exact hkeep), List.lookup_cons, hother]
        · rw [List.filter_cons_of_neg (by exact hkeep)]

/-- Without the entries under a key, the others are found as before. -/
theorem lookup_filter_ne (entries : List (α × β)) (removed other : α) :
    (entries.filter (·.1 != removed)).lookup other =
      if other = removed then none else entries.lookup other := by
  rw [lookup_filter (· != removed)]
  by_cases hother : other = removed
  · simp [hother]
  · simp [hother]

theorem lookup_eq_some_iff (hkeys : (entries.map (·.1)).Nodup) {value : β} :
    entries.lookup key = some value ↔ (key, value) ∈ entries := by
  induction entries with
  | nil => simp
  | cons entry entries ih =>
      obtain ⟨first, held⟩ := entry
      rw [List.map_cons, List.nodup_cons] at hkeys
      rw [List.lookup_cons, List.mem_cons, Prod.mk.injEq]
      by_cases hkey : key = first
      · subst hkey
        have hfresh : (key, value) ∉ entries := fun hin =>
          hkeys.1 (List.mem_map.mpr ⟨(key, value), hin, rfl⟩)
        simp [hfresh, eq_comm]
      · simp [beq_false_of_ne hkey, hkey, ih hkeys.2]

/-- Under keys that differ, the order does not count. -/
theorem lookup_of_perm (h : entries.Perm entries') (hkeys : (entries'.map (·.1)).Nodup)
    (key : α) : entries.lookup key = entries'.lookup key := by
  have hkeys' : (entries.map (·.1)).Nodup := (h.map (·.1)).nodup_iff.mpr hkeys
  refine Option.ext fun value => ?_
  rw [lookup_eq_some_iff hkeys', lookup_eq_some_iff hkeys, h.mem_iff]

end VideoGreeting
