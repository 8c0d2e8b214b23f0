import VideoGreeting.Http.Mount
import VideoGreeting.Http.StaticFiles
import VideoGreeting.Proofs.Disk.Finding
import VideoGreeting.Proofs.Text.Ascii
import VideoGreeting.Proofs.Text.Pieces

/-!
# Files that are served

A file with a plain name is found below the folder that is served, whatever the
folder, and a request for it gets its content. A mount takes its own pieces off the
path of a request and leaves that name.
-/

namespace VideoGreeting

open Text

/-! ## Plain names -/

/-- A name that stands for itself in a path and in a request. -/
structure IsPlainName (name : String) : Prop where
  chars : ∀ c ∈ name.toList, isAscii c = true ∧ c ≠ '%' ∧ c ≠ '/'
  ne_nil : name ≠ ""
  ne_dot : name ≠ "."
  ne_up : name ≠ ".."

namespace IsPlainName

variable {name : String}

theorem slash_notMem (h : IsPlainName name) : '/' ∉ name.toList :=
  fun hmem => (h.chars _ hmem).2.2 rfl

theorem toList_ne_nil (h : IsPlainName name) : name.toList ≠ [] := by
  rw [Ne, String.toList_eq_nil_iff]
  exact h.ne_nil

theorem not_steps (h : IsPlainName name) : name.toList ≠ ['.'] ∧ name.toList ≠ ['.', '.'] := by
  refine ⟨fun hdot => h.ne_dot ?_, fun hdots => h.ne_up ?_⟩
  · exact String.toList_inj.mp hdot
  · exact String.toList_inj.mp hdots

theorem splitBy (h : IsPlainName name) : splitBy (· == '/') name.toList = [name.toList] := by
  apply splitBy_of_forall
  intro c hc
  exact beq_eq_false_iff_ne.mpr (h.chars c hc).2.2

theorem decodeText? (h : IsPlainName name) : Http.Percent.decodeText? name = some name :=
  Http.Percent.decodeText?_of_ascii fun c hc => ⟨(h.chars c hc).1, (h.chars c hc).2.1⟩

theorem ofSegment (h : IsPlainName name) : Path.Component.ofSegment name = .name name := by
  rw [Path.Component.ofSegment, if_neg h.ne_dot, if_neg h.ne_up]

end IsPlainName

namespace Path

variable {name : String}

/-- The last piece of a path is its file name. -/
theorem fileName?_of_segments {p : Path} {front : List String} (hname : IsPlainName name)
    (h : p.segments = front ++ [name]) : p.fileName? = some name := by
  have hlast : p.components.getLast? = some (.name name) := by
    unfold components
    rw [h]
    cases front with
    | nil =>
        dsimp only [List.nil_append]
        rw [hname.ofSegment]
        by_cases habsolute : p.isAbsolute = true
        · rw [if_pos habsolute]
          rfl
        · rw [if_neg habsolute]
          rfl
    | cons first front =>
        have hkept : ((front ++ [name]).map Component.ofSegment).filter (· != .here) =
            (front.map Component.ofSegment).filter (· != .here) ++ [.name name] := by
          rw [List.map_append, List.filter_append, List.map_singleton, hname.ofSegment]
          rfl
        dsimp only [List.cons_append]
        rw [hkept]
        by_cases habsolute : p.isAbsolute = true
        · rw [if_pos habsolute, ← List.cons_append, List.filter_append]
          rw [show [Component.name name].filter (· != .here) = [.name name] from rfl,
            ← List.cons_append, List.getLast?_concat]
        · rw [if_neg habsolute, ← List.cons_append, List.getLast?_concat]
  rw [fileName?, hlast]

theorem fileName?_join (folder : Path) (hname : IsPlainName name) :
    (folder.join ⟨name⟩).fileName? = some name :=
  fileName?_of_segments hname (segments_join hname.ne_nil hname.slash_notMem)

/-- A plain name alone is one component. -/
theorem components_name (hname : IsPlainName name) : (Path.mk name).components = [.name name] := by
  have hempty : name.toList.isEmpty = false :=
    List.isEmpty_eq_false_iff.mpr hname.toList_ne_nil
  have hsegments : (Path.mk name).segments = [name] := by
    rw [segments, hname.splitBy]
    simp [hempty]
  have hrelative := isAbsolute_of_slash_notMem hname.slash_notMem
  rw [components, hsegments]
  dsimp only
  rw [hrelative, if_neg Bool.false_ne_true, hname.ofSegment]
  rfl

end Path

/-! ## Requests for a file -/

namespace Http

/-- A request for what a target leads to, and nothing else. -/
def reading (target : String) : Request where
  method := "GET"
  target := .ofText target

/-- A path without a query is the whole target. -/
theorem path_ofText {path : List Char}
    (h : ∀ c ∈ path, c ≠ '?' ∧ c ≠ '#') :
    Target.ofText (String.ofList ('/' :: path)) = { path := String.ofList ('/' :: path) } := by
  have hchars (c : Char) (hc : c ∈ '/' :: path) : c ≠ '?' ∧ c ≠ '#' := by
    rcases List.mem_cons.mp hc with rfl | hc
    · decide
    · exact h c hc
  have hsite : Target.splitSite ('/' :: path) = (.unnamed, '/' :: path) := by
    unfold Target.splitSite
    rw [List.takeWhile_cons_of_neg (by decide)]
    rfl
  have hquery : Target.splitQuery ('/' :: path) = (String.ofList ('/' :: path), none) := by
    have hfront : ('/' :: path).takeWhile (· != '#') = '/' :: path := by
      rw [List.takeWhile_eq_self_iff]
      intro c hc
      simpa using (hchars c hc).2
    have hwhole : ('/' :: path).takeWhile (· != '?') = '/' :: path := by
      rw [List.takeWhile_eq_self_iff]
      intro c hc
      simpa using (hchars c hc).1
    unfold Target.splitQuery
    dsimp only
    rw [hfront, hwhole, List.drop_length]
  rw [Target.ofText, String.toList_ofList, hsite]
  dsimp only
  rw [hquery]
  simp

namespace StaticFiles

variable {d : Disk} {now : Int} {r : Request} {folder p : Path}

/-- A plain name is looked for in the folder. -/
theorem locate?_name {name : String} (hname : IsPlainName name) (folder : Path) :
    locate? folder (String.ofList ('/' :: name.toList)) = some (folder.join ⟨name⟩) := by
  have hdrop : ('/' :: name.toList).dropWhile (· == '/') = name.toList := by
    rw [List.dropWhile_cons_of_pos (by rfl)]
    obtain ⟨c, cs, hcs⟩ := List.exists_cons_of_ne_nil hname.toList_ne_nil
    have hc : c ≠ '/' := (hname.chars c (by rw [hcs]; exact List.mem_cons_self)).2.2
    rw [hcs, List.dropWhile_cons_of_neg (by simpa using hc)]
  rw [locate?, String.toList_ofList, hdrop, String.ofList_toList, hname.decodeText?]
  show descend? folder (Path.mk name).components = _
  rw [Path.components_name hname]
  rfl

theorem serve_eq_file (hmethod : r.method = "GET") (hlocate : locate? folder r.path = some p)
    (hfolder : d.isFolder p = false) : serve folder d now r = file d now r p := by
  have hreading : r.isReading = true := by
    rw [Request.isReading, hmethod]
    rfl
  unfold serve
  rw [hreading, hlocate]
  dsimp only
  rw [hfolder]
  rfl

/-- **A request without conditions gets the content of the file.** -/
theorem serve_of_read {content : Bytes} (hmethod : r.method = "GET") (hheaders : r.headers = [])
    (hlocate : locate? folder r.path = some p) (hread : d.read p = .ok content) :
    serve folder d now r = typed p 200 (some content) := by
  have hnone (name : String) : r.header? name = none := by
    rw [Request.header?, hheaders]
    rfl
  have hopen : openFor d r p = .ok { size := content.length, content := some content } := by
    rw [openFor, openAt, hread]
  have hfound : found r p { size := content.length, content := some content } =
      typed p 200 (some content) := by
    unfold found
    rw [hnone, sent, if_neg (by rw [hmethod]; decide)]
    rfl
  have hrefusal : refusal? now r = none := by
    unfold refusal? date?
    rw [hnone, hnone]
    rfl
  have hfolder : d.isFolder p = false := by
    apply Disk.isFolder_eq_false
    rw [hread]
    exact nofun
  rw [serve_eq_file hmethod hlocate hfolder, file, hopen]
  dsimp only
  rw [hrefusal, hfound]
  rfl

/-- Where there is no file, there is nothing to serve. -/
theorem serve_of_missing (hmethod : r.method = "GET") (hheaders : r.headers = [])
    (hlocate : locate? folder r.path = some p) (hread : d.read p = .error .missing) :
    serve folder d now r = notFound := by
  have hidentity : takesIdentity r = false := by
    rw [takesIdentity, hheaders]
    rfl
  have hopen : openAt d p = .error .missing := by rw [openAt, hread]
  have hfolder : d.isFolder p = false := by
    apply Disk.isFolder_eq_false
    rw [hread]
    exact nofun
  rw [serve_eq_file hmethod hlocate hfolder, file, openFor, hopen]
  dsimp only
  rw [hidentity, if_neg Bool.false_ne_true, hopen]

end StaticFiles

/-! ## Mounts -/

namespace Mount

theorem hasParameter_eq_false {piece : List Char} (h : ':' ∉ piece) :
    hasParameter piece = false := by
  rw [hasParameter, ← Bool.not_eq_true, List.contains_iff_mem]
  exact h

/-- A path that goes on below the pieces of a mount without parameters reaches it. -/
theorem reaches_append {pieces rest : List (List Char)} (h : ∀ piece ∈ pieces, ':' ∉ piece)
    (hrest : rest ≠ []) : reaches pieces (pieces ++ rest) = true := by
  induction pieces with
  | nil => simp [reaches]
  | cons piece pieces ih =>
      obtain ⟨hpiece, hpieces⟩ := List.forall_mem_cons.mp h
      have hfits : fits piece piece = true := by
        rw [fits, hasParameter_eq_false hpiece, if_neg Bool.false_ne_true, beq_self_eq_true]
      rw [List.cons_append, reaches, hfits, ih hpieces]
      · rfl
      -- what is left over is not the end of the path
      · intro _ hend
        exact hrest (List.append_eq_nil_iff.mp hend).2

/-- **The path below a mount.** -/
theorem below?_append {m : Mount} {path : String} {name : List Char}
    (h : ∀ piece ∈ m.pieces, ':' ∉ piece) (hname : '/' ∉ name)
    (hpath : split path = m.pieces ++ [name]) :
    m.below? path = some (String.ofList ('/' :: name)) := by
  have hreaches : reaches m.pieces (m.pieces ++ [name]) = true :=
    reaches_append h (List.cons_ne_nil _ _)
  have hcomesOff : ∀ pair ∈ m.pieces.zip (m.pieces ++ [name]),
      comesOff pair.1 pair.2 = true := by
    have hzip (pieces : List (List Char)) :
        pieces.zip (pieces ++ [name]) = pieces.map fun piece => (piece, piece) := by
      induction pieces with
      | nil => rfl
      | cons piece pieces ih => rw [List.cons_append, List.zip_cons_cons, ih, List.map_cons]
    rw [hzip]
    intro pair hpair
    obtain ⟨piece, -, rfl⟩ := List.mem_map.mp hpair
    simp [comesOff]
  have hrooted : rooted [name] = String.ofList ('/' :: name) := by
    have hhead : (name.head? == some '/') = false := by
      rw [beq_eq_false_iff_ne]
      intro hhead
      exact hname (List.mem_of_head? hhead)
    rw [rooted, List.intercalate_singleton, hhead, if_neg Bool.false_ne_true]
  unfold below?
  rw [hpath]
  dsimp only
  rw [hreaches, if_neg (by decide), if_pos (List.all_eq_true.mpr hcomesOff), List.drop_left,
    hrooted]

end Mount

end Http

end VideoGreeting
