import VideoGreeting.Disk.Folder
import VideoGreeting.Proofs.Number.Numerals
import VideoGreeting.Proofs.Text.Pieces

/-!
# Where a path leads

The place that the text of a path spells, whatever the disk holds: a dot stays,
two dots go back, and a name goes on. A walk that succeeds ends there, and paths
that are the same spell the same place.
-/

namespace VideoGreeting.Path

/-! ## The place of a path -/

/-- Where a piece leads from a place. -/
def descend (place : Place) (segment : String) : Place :=
  if segment = "." then place
  else if segment = ".." then place.dropLast
  else place ++ [segment]

/-- The place that a path spells. -/
def place (p : Path) : Place := p.segments.foldl descend []

/-- Where a component leads from a place. -/
def Component.descend (place : Place) : Component → Place
  | root | here => place
  | up => place.dropLast
  | name s => place ++ [s]

theorem descend_eq_ofSegment (place : Place) (segment : String) :
    descend place segment = (Component.ofSegment segment).descend place := by
  unfold descend Component.ofSegment
  by_cases hdot : segment = "."
  · rw [if_pos hdot, if_pos hdot]
    rfl
  · by_cases hup : segment = ".."
    · rw [if_neg hdot, if_neg hdot, if_pos hup, if_pos hup]
      rfl
    · rw [if_neg hdot, if_neg hdot, if_neg hup, if_neg hup]
      rfl

/-- Dots do not matter for where components lead. -/
theorem foldl_descend_filter (place : Place) (components : List Component) :
    (components.filter (· != .here)).foldl (fun place c => c.descend place) place =
      components.foldl (fun place c => c.descend place) place := by
  induction components generalizing place with
  | nil => rfl
  | cons c components ih =>
      cases c with
      | here => exact ih place
      | root | up | name s => exact ih _

/-- The place of a path is read off its components. -/
theorem place_eq_components (p : Path) :
    p.place = p.components.foldl (fun place c => c.descend place) [] := by
  have hrest (rest : List String) (place : Place) : rest.foldl descend place =
      ((rest.map Component.ofSegment).filter (· != .here)).foldl
        (fun place c => c.descend place) place := by
    rw [foldl_descend_filter, List.foldl_map]
    congr 1
    funext place segment
    exact descend_eq_ofSegment place segment
  unfold place components
  cases p.segments with
  | nil => by_cases habsolute : p.isAbsolute = true <;> simp [habsolute, Component.descend]
  | cons first rest =>
      dsimp only
      rw [List.foldl_cons, hrest, descend_eq_ofSegment]
      by_cases habsolute : p.isAbsolute = true
      · rw [if_pos habsolute]
        exact (foldl_descend_filter [] (_ :: _)).symm
      · rw [if_neg habsolute, List.foldl_cons]

/-- **The same paths spell the same place.** -/
theorem place_eq_of_same {p q : Path} (h : p.same q = true) : p.place = q.place := by
  rw [place_eq_components, place_eq_components, eq_of_beq h]

/-! ## A name in a folder -/

/-- What has no slash does not start at the root. -/
theorem isAbsolute_of_slash_notMem {name : String} (hslash : '/' ∉ name.toList) :
    isAbsolute ⟨name⟩ = false := by
  unfold isAbsolute
  rw [beq_eq_false_iff_ne]
  intro hhead
  exact hslash (List.mem_of_head? hhead)

/-- A name in a folder comes after the pieces of the folder, however the path of
the folder ends. -/
theorem segments_join {folder : Path} {name : String} (hne : name ≠ "")
    (hslash : '/' ∉ name.toList) : (folder.join ⟨name⟩).segments = folder.segments ++ [name] := by
  have hname : Text.splitBy (· == '/') name.toList = [name.toList] := by
    apply Text.splitBy_of_forall
    intro c hc
    rw [beq_eq_false_iff_ne]
    rintro rfl
    exact hslash hc
  have hempty : name.toList.isEmpty = false := by
    rw [List.isEmpty_eq_false_iff, Ne, String.toList_eq_nil_iff]
    exact hne
  have hrelative := isAbsolute_of_slash_notMem hslash
  -- what follows a slash at the end of the folder is a piece of its own
  have hafter (front : List Char) :
      ((Text.splitBy (· == '/') (front ++ '/' :: name.toList)).filter (!·.isEmpty)).map
          String.ofList =
        ((Text.splitBy (· == '/') front).filter (!·.isEmpty)).map String.ofList ++ [name] := by
    rw [Text.splitBy_append_cons (by rfl), hname, List.filter_append, List.map_append]
    simp [hempty]
  unfold join
  rw [hrelative, if_neg Bool.false_ne_true]
  by_cases hbare : (folder.text.isEmpty || folder.endsInSlash) = true
  · rw [if_pos hbare]
    rcases Bool.or_eq_true_iff.mp hbare with hnil | hend
    · have htext : folder.text = "" := String.isEmpty_iff.mp hnil
      simp [segments, htext, hname, hempty, Text.splitBy]
    · obtain ⟨front, hfront⟩ := List.getLast?_eq_some_iff.mp (eq_of_beq hend)
      have hjoin : (folder.text ++ name).toList = front ++ '/' :: name.toList := by
        rw [String.toList_append, hfront, List.append_assoc, List.singleton_append]
      have hfolder : Text.splitBy (· == '/') folder.text.toList =
          Text.splitBy (· == '/') front ++ [[]] := by
        rw [hfront, Text.splitBy_append_cons (by rfl)]
        rfl
      unfold segments
      rw [hjoin, hafter, hfolder, List.filter_append]
      simp
  · rw [if_neg hbare]
    have hjoin : (folder.text ++ "/" ++ name).toList =
        folder.text.toList ++ '/' :: name.toList := by simp
    unfold segments
    rw [hjoin, hafter]

/-- A name in a folder spells the place of that name below the folder. -/
theorem place_join {folder : Path} {name : String} (hne : name ≠ "") (hdot : name ≠ ".")
    (hup : name ≠ "..") (hslash : '/' ∉ name.toList) :
    (folder.join ⟨name⟩).place = folder.place ++ [name] := by
  unfold place
  rw [segments_join hne hslash, List.foldl_append, List.foldl_cons, List.foldl_nil, descend,
    if_neg hdot, if_neg hup]

end VideoGreeting.Path
