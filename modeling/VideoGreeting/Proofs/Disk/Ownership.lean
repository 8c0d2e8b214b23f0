import VideoGreeting.Proofs.Disk.Finding

/-!
# What guards own

Guards come and go while files are written around them, and two guards may track the same
file: work that is handed on is tracked twice for a moment. What a guard tracks is said of
its whole history at once: a path that was given to it, unless something that came later
took it back (`owned`). One more action changes this as it changes the guard, so it is
what the guard tracks (`paths_run`). What a dropped guard takes away is said of the disk
at that moment: the files that its paths lead to, and nothing else (`Cleared`).

Main theorem: `guards_own`.
-/

namespace VideoGreeting

open Text (Bytes)

namespace Guard

/-! ## Dropping -/

/-- `d'` is `d` without the files that the paths lead to. -/
structure Cleared (paths : List Path) (d d' : Disk) : Prop where
  gone : ∀ p ∈ paths, ∀ place content, d.find p = .ok (place, .file content) →
    d'.entry? place = none
  kept : ∀ place, (∀ p ∈ paths, ∀ content, d.find p ≠ .ok (place, .file content)) →
    d'.entry? place = d.entry? place

theorem entry?_drop_folder (g : Guard) (d : Disk) (place : Place) :
    Disk.entry? (g.drop d) place = some .folder ↔ d.entry? place = some .folder := by
  obtain ⟨paths⟩ := g
  unfold drop
  dsimp only
  induction paths generalizing d with
  | nil => rfl
  | cons p paths ih => rw [List.foldl_cons, ih, Disk.entry?_discard_folder]

theorem entry?_eq_none_iff {d : Disk} {place : Place} :
    d.entry? place = none ↔ d.file? place = none ∧ d.entry? place ≠ some .folder := by
  unfold Disk.file?
  rcases d.entry? place with _ | ⟨content⟩ | _ <;> simp

/-- **Dropping a guard** takes the files that its paths lead to, however often and under
whatever spelling; folders and all other files stay. -/
theorem cleared_drop (g : Guard) (d : Disk) : Cleared g.paths d (g.drop d) := by
  constructor
  · intro p hp place content hfind
    obtain ⟨hreach, rfl, hfile⟩ := Disk.find_eq_file_iff.mp hfind
    rw [entry?_eq_none_iff, Ne, entry?_drop_folder, Disk.file?_eq_some.mp hfile]
    exact ⟨Disk.file?_drop_of_reaches hp hreach, nofun⟩
  · intro place hnone
    rcases hentry : d.entry? place with _ | ⟨content⟩ | _
    · rw [entry?_eq_none_iff] at hentry ⊢
      rw [Ne, entry?_drop_folder]
      exact ⟨Disk.file?_drop_of_none hentry.1, hentry.2⟩
    · rw [← Disk.file?_eq_some] at hentry ⊢
      rw [Disk.file?_drop]
      refine ⟨hentry, fun p hp hreach => hnone p hp content ?_⟩
      exact Disk.find_eq_file_iff.mpr ⟨hreach.2, hreach.1, hentry⟩
    · rw [entry?_drop_folder, hentry]

/-! ## Histories -/

/-- What may happen to guards, which go by numbers, and around them. -/
inductive Action where
  /-- A guard is made for paths. One that had the number before is dropped. -/
  | make (id : Nat) (paths : List Path)
  | push (id : Nat) (p : Path)
  | release (id : Nat) (p : Path)
  | releaseAll (id : Nat)
  | drop (id : Nat)
  /-- Something else happens to the disk: files are written, say. -/
  | elsewhere (change : Disk → Disk)

/-- What an action answers. -/
inductive Answer where
  | done
  /-- Whether the path was tracked. -/
  | released (any : Bool)
  /-- The paths that the caller looks after from now on. -/
  | handed (paths : List Path)
  deriving Repr, DecidableEq

/-- The disk and the guards over it, by their numbers. A number without a guard stands for
one that tracks nothing. -/
structure Watch where
  disk : Disk
  guards : Nat → Guard := fun _ => .empty

namespace Watch

/-- The guard of a number becomes `g`. -/
def set (w : Watch) (id : Nat) (g : Guard) : Watch :=
  { w with guards := Function.update w.guards id g }

@[simp] theorem guards_set (w : Watch) (id id' : Nat) (g : Guard) :
    (w.set id' g).guards id = if id = id' then g else w.guards id :=
  Function.update_apply _ _ _ _

/-- Takes an action. -/
def step (w : Watch) : Action → Answer × Watch
  | .make id paths =>
    (.done, { w with disk := (w.guards id).drop w.disk }.set id ⟨paths⟩)
  | .push id p => (.done, w.set id ((w.guards id).push p))
  | .release id p => (.released ((w.guards id).tracks p), w.set id ((w.guards id).release p))
  | .releaseAll id => (.handed (w.guards id).paths, w.set id .empty)
  | .drop id => (.done, { w with disk := (w.guards id).drop w.disk }.set id .empty)
  | .elsewhere change => (.done, { w with disk := change w.disk })

/-- What becomes of a disk without guards after actions. -/
def run (d : Disk) (actions : List Action) : Watch :=
  actions.foldl (fun w a => (w.step a).2) { disk := d }

theorem run_concat (d : Disk) (actions : List Action) (a : Action) :
    run d (actions ++ [a]) = ((run d actions).step a).2 := List.foldl_concat _ _ _ _

end Watch

/-! ## What a history says -/

/-- The paths that an action gives to a guard. -/
def Action.given (id : Nat) : Action → List Path
  | make id' paths => if id' = id then paths else []
  | push id' p => if id' = id then [p] else []
  | _ => []

/-- Whether an action takes a path from a guard that was given to it before. -/
def Action.ends (id : Nat) (p : Path) : Action → Bool
  | make id' _ | releaseAll id' | drop id' => id' = id
  | release id' q => id' = id && p.same q
  | _ => false

/-- The paths that were given to a guard and not taken from it since, in the order in
which they were given. -/
def owned (id : Nat) : List Action → List Path
  | [] => []
  | a :: later => (a.given id).filter (fun p => !later.any (·.ends id p)) ++ owned id later

theorem owned_concat (id : Nat) (actions : List Action) (a : Action) :
    owned id (actions ++ [a]) =
      (owned id actions).filter (fun p => !a.ends id p) ++ a.given id := by
  induction actions with
  | nil => simp [owned]
  | cons b actions ih =>
      rw [List.cons_append, owned, owned, ih, List.filter_append, List.filter_filter,
        List.append_assoc]
      simp [Bool.and_comm]

/-- **One action** takes from a guard what it ends, and gives what it gives. -/
theorem paths_step (w : Watch) (a : Action) (id : Nat) :
    ((w.step a).2.guards id).paths =
      (w.guards id).paths.filter (fun p => !a.ends id p) ++ a.given id := by
  cases a with
  | make id' paths | push id' p | release id' p | releaseAll id' | drop id' =>
      by_cases hid : id = id'
      · simp [Watch.step, hid, Action.ends, Action.given, push, release, empty]
      · simp [Watch.step, hid, Ne.symm hid, Action.ends, Action.given]
  | elsewhere change => simp [Watch.step, Action.ends, Action.given]

/-- **A history** tells what a guard tracks. -/
theorem paths_run (d : Disk) (actions : List Action) (id : Nat) :
    ((Watch.run d actions).guards id).paths = owned id actions := by
  induction actions using List.reverseRecOn with
  | nil => rfl
  | append_singleton actions a ih => rw [Watch.run_concat, paths_step, owned_concat, ih]

/-- A path is owned if it was given and nothing that came later took it. -/
theorem mem_owned_iff {id : Nat} {actions : List Action} {p : Path} :
    p ∈ owned id actions ↔
      ∃ before a later, actions = before ++ a :: later ∧ p ∈ a.given id ∧
        ∀ b ∈ later, b.ends id p = false := by
  induction actions with
  | nil => simp [owned]
  | cons a actions ih =>
      rw [owned, List.mem_append, ih, List.mem_filter]
      constructor
      · rintro (⟨hgiven, hlater⟩ | ⟨before, b, later, rfl, hb⟩)
        · exact ⟨[], a, actions, rfl, hgiven, by simpa using hlater⟩
        · exact ⟨a :: before, b, later, rfl, hb⟩
      · rintro ⟨before, b, later, hsplit, hgiven, hlater⟩
        cases before with
        | nil =>
            obtain ⟨rfl, rfl⟩ := List.cons.inj hsplit
            exact .inl ⟨hgiven, by simpa using hlater⟩
        | cons first before =>
            obtain ⟨rfl, rfl⟩ := List.cons.inj hsplit
            exact .inr ⟨before, b, later, rfl, hgiven, hlater⟩

/-- Releasing answers whether an entry was removed. -/
theorem tracks_iff_length_lt (g : Guard) (p : Path) :
    g.tracks p = true ↔ (g.release p).paths.length < g.paths.length := by
  rw [tracks, release, List.length_filter_lt_length_iff_exists, List.any_eq_true]
  simp

theorem disk_run_drop (d : Disk) (actions : List Action) (id : Nat) :
    Cleared (owned id actions) (Watch.run d actions).disk
      (Watch.run d (actions ++ [.drop id])).disk := by
  rw [← paths_run d, Watch.run_concat]
  exact cleared_drop _ _

theorem disk_run_make (d : Disk) (actions : List Action) (id : Nat) (paths : List Path) :
    Cleared (owned id actions) (Watch.run d actions).disk
      (Watch.run d (actions ++ [.make id paths])).disk := by
  rw [← paths_run d, Watch.run_concat]
  exact cleared_drop _ _

/-- **Guards own what they were given.** After any history, a guard tracks the paths that
were given to it and not taken from it since by releasing an equal path, releasing all of
them, or dropping it, each as often as it was given and in that order; other guards and
the disk have no part in it. Releasing a path answers whether this removed an entry, and
releasing all hands out what is tracked. Dropping a guard, also because its number is
given to another one, clears the disk of the files that its paths lead to at that moment;
what else a guard does leaves the disk as it is. -/
theorem guards_own (d : Disk) (actions : List Action) (id : Nat) :
    ((Watch.run d actions).guards id).paths = owned id actions ∧
    (∀ p, p ∈ ((Watch.run d actions).guards id).paths ↔
      ∃ before a later, actions = before ++ a :: later ∧ p ∈ a.given id ∧
        ∀ b ∈ later, b.ends id p = false) ∧
    (∀ p, ∃ any, ((Watch.run d actions).step (.release id p)).1 = .released any ∧
      (any = true ↔
        (owned id (actions ++ [.release id p])).length < (owned id actions).length)) ∧
    ((Watch.run d actions).step (.releaseAll id)).1 = .handed (owned id actions) ∧
    Cleared (owned id actions) (Watch.run d actions).disk
      (Watch.run d (actions ++ [.drop id])).disk ∧
    (∀ paths, Cleared (owned id actions) (Watch.run d actions).disk
      (Watch.run d (actions ++ [.make id paths])).disk) ∧
    ∀ p, ∀ a ∈ [Action.push id p, .release id p, .releaseAll id],
      (Watch.run d (actions ++ [a])).disk = (Watch.run d actions).disk := by
  refine ⟨paths_run d actions id, fun p => ?_, fun p => ⟨_, rfl, ?_⟩, ?_,
    disk_run_drop d actions id, disk_run_make d actions id, fun p a ha => ?_⟩
  · rw [paths_run, mem_owned_iff]
  · rw [← paths_run d, ← paths_run d, Watch.run_concat, tracks_iff_length_lt]
    simp [Watch.step]
  · rw [← paths_run d]
    rfl
  · rw [Watch.run_concat]
    simp only [List.mem_cons, List.not_mem_nil, or_false] at ha
    rcases ha with rfl | rfl | rfl <;> rfl

/-- Of two guards over one file, the first lets go of `b` and is dropped: it tracks `a`
twice, a path without a file and a folder. -/
example :
    let files : Disk := ⟨[(["a"], .file [1]), (["b"], .file [2]), (["f"], .folder)]⟩
    let actions : List Action :=
      [.make 0 [⟨"/a"⟩, ⟨"/b"⟩, ⟨"/f/../a"⟩, ⟨"/none"⟩, ⟨"/f"⟩], .make 1 [⟨"/a"⟩],
        .release 0 ⟨"//b/"⟩, .drop 0]
    (Watch.run files actions).disk = ⟨[(["b"], .file [2]), (["f"], .folder)]⟩ ∧
      owned 1 actions = [⟨"/a"⟩] := by
  decide +kernel

end Guard

end VideoGreeting
