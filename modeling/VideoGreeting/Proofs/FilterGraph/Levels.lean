import VideoGreeting.Proofs.FilterGraph.Reader

/-!
# The two levels at which a value is read

The engine reads a value twice. A graph is cut into tokens first, which takes
one layer of backslashes and quotes away, and what is left of a filter is cut
into options, which takes away the other. At each level the blanks at the ends
of a token are dropped, unless they were taken literally.

For one level, `read_escapeWith` says what becomes of a value that was escaped:
it is read up to its end and not further, without those blanks at its ends that
were not escaped. For both levels, `readFilter_of_settings` reads a filter off
the options it was put together from.
-/

namespace VideoGreeting.FilterGraph

/-- A level of reading: the characters that are dropped at the ends of a token,
and those at which a token ends. -/
structure Level where
  blanks : List Char
  stops : List Char

namespace Level

/-- What the engine takes for blanks. -/
def engineBlanks : List Char := [' ', '\t', '\n', '\r']

/-- The tokens of a graph. -/
def graph : Level := { blanks := engineBlanks, stops := ['[', ']', ',', ';'] }

/-- The tokens of options. -/
def options : Level := { blanks := engineBlanks, stops := [':'] }

/-! ## The reader -/

/-- Reads up to a bare stop: the characters, each with whether it was taken
literally, and what follows them. A backslash at the end stands for itself. -/
def scan (level : Level) : Mode → List Char → List (Char × Bool) × List Char
  | .escaped, [] => ([('\\', false)], [])
  | _, [] => ([], [])
  | .bare, c :: rest =>
    if c ∈ level.stops then ([], c :: rest)
    else if c = '\\' then level.scan .escaped rest
    else if c = '\'' then level.scan .quoted rest
    else (level.scan .bare rest).map ((c, false) :: ·) id
  | .escaped, c :: rest => (level.scan .bare rest).map ((c, true) :: ·) id
  | .quoted, c :: rest =>
    if c = '\'' then level.scan .bare rest
    else (level.scan .quoted rest).map ((c, true) :: ·) id

/-- Whether a character is dropped at the end of a token. -/
def drops (level : Level) (c : Char × Bool) : Bool := !c.2 && level.blanks.contains c.1

/-- Reads a token, and gives what follows it. -/
def read (level : Level) (text : List Char) : List Char × List Char :=
  let (cs, rest) := level.scan .bare (text.dropWhile level.blanks.contains)
  ((cs.rdropWhile level.drops).map (·.1), rest)

/-- Nothing follows, or a stop does. -/
def Ends (level : Level) (rest : List Char) : Prop := ∀ c, rest.head? = some c → c ∈ level.stops

theorem scan_of_ends {level : Level} {rest : List Char} (h : level.Ends rest) :
    level.scan .bare rest = ([], rest) := by
  cases rest with
  | nil => rfl
  | cons c rest => rw [scan, if_pos (h c rfl)]

/-- A text reads as these characters wherever it stands bare, and what follows
it is bare again. -/
def Scans (level : Level) (text : List Char) (cs : List (Char × Bool)) : Prop :=
  ∀ rest, level.scan .bare (text ++ rest) = (level.scan .bare rest).map (cs ++ ·) id

namespace Scans

variable {level : Level} {text text' : List Char} {cs cs' : List (Char × Bool)}

theorem nil : level.Scans [] [] := fun _ => rfl

theorem append (h : level.Scans text cs) (h' : level.Scans text' cs') :
    level.Scans (text ++ text') (cs ++ cs') := by
  intro rest
  rw [List.append_assoc, h, h']
  simp [Prod.map]

theorem single {c : Char} (hstop : c ∉ level.stops) (hslash : c ≠ '\\') (hquote : c ≠ '\'') :
    level.Scans [c] [(c, false)] := by
  intro rest
  rw [List.singleton_append, scan, if_neg hstop, if_neg hslash, if_neg hquote]
  rfl

theorem escaped (hslash : '\\' ∉ level.stops) (c : Char) :
    level.Scans ['\\', c] [(c, true)] := by
  intro rest
  rw [List.cons_append, scan, if_neg hslash, if_pos rfl]
  rfl

theorem quoted (hquote : '\'' ∉ level.stops) {text : List Char} (h : '\'' ∉ text) :
    level.Scans ('\'' :: (text ++ ['\''])) (text.map fun c => (c, true)) := by
  intro rest
  rw [List.cons_append, scan, if_neg hquote, if_neg (by decide), if_pos rfl]
  induction text with
  | nil => rfl
  | cons c text ih =>
      rw [List.mem_cons, not_or] at h
      rw [List.cons_append, List.cons_append, scan, if_neg (Ne.symm h.1), ih h.2]
      rfl

end Scans

/-! ## Escaped values -/

/-- Escaping these characters protects a value at a level. -/
structure Protected (level : Level) (special : List Char) : Prop where
  backslash : '\\' ∈ special
  quote : '\'' ∈ special
  stops : ∀ c ∈ level.stops, c ∈ special
  /-- What separates is neither a backslash nor a blank. -/
  bare : '\\' ∉ level.stops ∧ '\\' ∉ level.blanks ∧ ∀ c ∈ level.stops, c ∉ level.blanks

theorem protected_graph : graph.Protected graphSpecial where
  backslash := by simp [graphSpecial]
  quote := by simp [graphSpecial]
  stops := by simp [graph, graphSpecial]
  bare := by simp [graph, engineBlanks]

theorem protected_options : options.Protected optionSpecial where
  backslash := by simp [optionSpecial]
  quote := by simp [optionSpecial]
  stops := by simp [options, optionSpecial]
  bare := by simp [options, engineBlanks]

variable {level : Level} {special : List Char}

/-- An escaped value reads as the value, and what was escaped is literal. -/
theorem scans_escapeWith (h : level.Protected special) (value : List Char) :
    level.Scans (escapeWith special value)
      (value.map fun c => (c, decide (c ∈ special))) := by
  induction value with
  | nil => exact Scans.nil
  | cons c value ih =>
      rw [escapeWith, List.flatMap_cons, ← escapeWith, List.map_cons]
      show level.Scans _ ([(c, decide (c ∈ special))] ++ _)
      refine Scans.append ?_ ih
      by_cases hc : c ∈ special
      · rw [if_pos hc, decide_eq_true hc]
        exact Scans.escaped h.bare.1 c
      · rw [if_neg hc, decide_eq_false hc]
        refine Scans.single (fun hstop => hc (h.stops c hstop)) ?_ ?_
        · rintro rfl
          exact hc h.backslash
        · rintro rfl
          exact hc h.quote

/-- The blanks of a level that are not escaped. -/
def exposed (level : Level) (special : List Char) (c : Char) : Bool :=
  level.blanks.contains c && !special.contains c

theorem dropWhile_escapeWith (h : level.Protected special) {rest : List Char}
    (hrest : level.Ends rest) (value : List Char) :
    (escapeWith special value ++ rest).dropWhile level.blanks.contains =
      escapeWith special (value.dropWhile (level.exposed special)) ++ rest := by
  induction value with
  | nil =>
      cases rest with
      | nil => rfl
      | cons c rest =>
          have hc : c ∉ level.blanks := h.bare.2.2 c (hrest c rfl)
          simp [escapeWith, hc]
  | cons c value ih =>
      rw [escapeWith, List.flatMap_cons, ← escapeWith, List.append_assoc, List.dropWhile_cons]
      by_cases hc : c ∈ special
      · simp [hc, exposed, h.bare.2.1, escapeWith]
      · by_cases hblank : c ∈ level.blanks
        · simp [hc, exposed, hblank]
          simpa using ih
        · simp [hc, exposed, hblank, escapeWith]

/-- **An escaped value.** It is read up to its end and not further, and nothing
is lost but the blanks at its ends that were not escaped. -/
theorem read_escapeWith (h : level.Protected special) {rest : List Char}
    (hrest : level.Ends rest) (value : List Char) :
    level.read (escapeWith special value ++ rest) =
      (Text.stripBy (level.exposed special) value, rest) := by
  unfold read
  rw [dropWhile_escapeWith h hrest, scans_escapeWith h, scan_of_ends hrest]
  have hdrops : level.drops ∘ (fun c => (c, decide (c ∈ special))) = level.exposed special := by
    funext c
    simp [drops, exposed, Bool.and_comm]
  simp [List.rdropWhile, ← List.map_reverse, List.dropWhile_map, hdrops, Text.stripBy,
    Function.comp_def]

theorem escapeWith_of_forall_notMem {text : List Char} (h : ∀ c ∈ text, c ∉ special) :
    escapeWith special text = text := by
  induction text with
  | nil => rfl
  | cons c text ih =>
      obtain ⟨hc, htext⟩ := List.forall_mem_cons.mp h
      rw [escapeWith, List.flatMap_cons, ← escapeWith, if_neg hc, ih htext]
      rfl

theorem length_scan_le (level : Level) (text : List Char) : ∀ m : Mode,
    (level.scan m text).2.length ≤ text.length := by
  induction text with
  | nil =>
      intro m
      cases m with
      | bare | quoted | escaped => exact le_rfl
  | cons c text ih =>
      have hstep (m : Mode) : (level.scan m text).2.length ≤ (c :: text).length :=
        Nat.le_succ_of_le (ih m)
      intro m
      cases m with
      | bare =>
          rw [scan]
          split
          · exact le_rfl
          · split
            · exact hstep .escaped
            · split
              · exact hstep .quoted
              · exact hstep .bare
      | escaped => exact hstep .bare
      | quoted =>
          rw [scan]
          split
          · exact hstep .bare
          · exact hstep .quoted

theorem length_read_le (level : Level) (text : List Char) :
    (level.read text).2.length ≤ text.length :=
  (level.length_scan_le _ .bare).trans (List.dropWhile_sublist _).length_le

end Level

/-! ## Options -/

/-- Reads options: a name up to `=` and a value each, with colons between
them. -/
def readOptions (text : List Char) : Option (List (String × String)) :=
  match _hsplit : Text.splitOnce '=' text with
  | none => none
  | some (name, written) =>
    match _hread : Level.options.read written with
    | (value, []) => some [(String.ofList name, String.ofList value)]
    | (value, _ :: rest) =>
      (readOptions rest).map ((String.ofList name, String.ofList value) :: ·)
termination_by text.length
decreasing_by
  have hlength := Level.options.length_read_le written
  rw [_hread, List.length_cons] at hlength
  rw [Text.splitOnce_eq_some _hsplit, List.length_append, List.length_cons]
  omega

/-- Reads a filter: its name up to `=`, and its options. -/
def readFilter (filter : String) : Option (String × List (String × String)) :=
  match Level.graph.read filter.toList with
  | (_, _ :: _) => none
  | (token, []) =>
    match Text.splitOnce '=' token with
    | none => some (String.ofList token, [])
    | some (name, text) => (readOptions text).map (String.ofList name, ·)

theorem readOptions_last {name token value : List Char} (hname : '=' ∉ name)
    (hread : Level.options.read token = (value, [])) :
    readOptions (name ++ '=' :: token) = some [(String.ofList name, String.ofList value)] := by
  rw [readOptions]
  split
  next hsplit => simp [Text.splitOnce_append hname] at hsplit
  next name' written hsplit =>
    rw [Text.splitOnce_append hname] at hsplit
    obtain ⟨rfl, rfl⟩ := Prod.mk.inj (Option.some.inj hsplit)
    split
    next value' hread' =>
      rw [hread] at hread'
      obtain ⟨rfl, -⟩ := Prod.mk.inj hread'
      rfl
    next hread' =>
      rw [hread] at hread'
      cases hread'

theorem readOptions_cons {name token value rest : List Char} (hname : '=' ∉ name)
    (hread : Level.options.read (token ++ ':' :: rest) = (value, ':' :: rest)) :
    readOptions (name ++ '=' :: (token ++ ':' :: rest)) =
      (readOptions rest).map ((String.ofList name, String.ofList value) :: ·) := by
  rw [readOptions]
  split
  next hsplit => simp [Text.splitOnce_append hname] at hsplit
  next name' written hsplit =>
    rw [Text.splitOnce_append hname] at hsplit
    obtain ⟨rfl, rfl⟩ := Prod.mk.inj (Option.some.inj hsplit)
    split
    next value' hread' =>
      rw [hread] at hread'
      cases hread'
    next hread' =>
      rw [hread] at hread'
      cases hread'
      rfl

/-! ## What the graph level leaves -/

/-- What the graph level leaves of a text. -/
def Level.Leaves (written token : List Char) : Prop :=
  ∃ cs, Level.graph.Scans written cs ∧ cs.map (·.1) = token

theorem Level.leaves_of_not_special {text : List Char} (h : ∀ c ∈ text, c ∉ graphSpecial) :
    Level.Leaves text text := by
  have hscans := scans_escapeWith protected_graph text
  rw [escapeWith_of_forall_notMem h] at hscans
  exact ⟨_, hscans, by simp [Function.comp_def]⟩

theorem Level.Leaves.append {text text' token token' : List Char} (h : Level.Leaves text token)
    (h' : Level.Leaves text' token') : Level.Leaves (text ++ text') (token ++ token') := by
  obtain ⟨cs, hscans, rfl⟩ := h
  obtain ⟨cs', hscans', rfl⟩ := h'
  exact ⟨cs ++ cs', hscans.append hscans', List.map_append⟩

theorem Level.leaves_intercalate {α : Type} {text token : α → List Char} {as : List α}
    (h : ∀ a ∈ as, Level.Leaves (text a) (token a)) :
    Level.Leaves ([':'].intercalate (as.map text)) ([':'].intercalate (as.map token)) := by
  induction as with
  | nil => exact ⟨[], Scans.nil, rfl⟩
  | cons a as ih =>
      have ha := h a List.mem_cons_self
      have has := ih fun b hb => h b (List.mem_cons_of_mem a hb)
      cases as with
      | nil => simpa using ha
      | cons b as =>
          rw [List.map_cons, List.map_cons, List.map_cons, List.map_cons,
            List.intercalate_cons_cons, List.intercalate_cons_cons]
          exact (ha.append (leaves_of_not_special (by simp [graphSpecial]))).append has

/-- A name and the sign behind it are made of letters and `=`. -/
theorem notMem_of_mem_name {name : String} (h : ∀ c ∈ name.toList, c.isAlpha = true) {c : Char}
    (hc : c ∈ name.toList ++ ['=']) : c ∉ Level.engineBlanks ∧ c ∉ graphSpecial := by
  have hletters : (∀ c ∈ Level.engineBlanks, c.isAlpha = false) ∧
      ∀ c ∈ graphSpecial, c.isAlpha = false := by
    simp [Level.engineBlanks, graphSpecial]
  rcases List.mem_append.mp hc with hletter | hequals
  · have halpha := h c hletter
    exact ⟨fun hblank => by simp [hletters.1 c hblank] at halpha,
      fun hspecial => by simp [hletters.2 c hspecial] at halpha⟩
  · rw [List.mem_singleton.mp hequals]
    simp [Level.engineBlanks, graphSpecial]

/-- A name is read as it stands. -/
theorem Level.leaves_name {name : String} (h : ∀ c ∈ name.toList, c.isAlpha = true) :
    Level.Leaves (name.toList ++ ['=']) (name.toList ++ ['=']) :=
  leaves_of_not_special fun _ hc => (notMem_of_mem_name h hc).2

/-- A text without blanks at its ends is one token. -/
theorem Level.read_of_leaves {written token : List Char} (h : Level.Leaves written token)
    (hfirst : ∀ c, written.head? = some c → c ∉ Level.graph.blanks)
    (hlast : ∀ c, token.getLast? = some c → c ∉ Level.graph.blanks) :
    Level.graph.read written = (token, []) := by
  obtain ⟨cs, hscans, rfl⟩ := h
  have hbegin : written.dropWhile Level.graph.blanks.contains = written := by
    cases written with
    | nil => rfl
    | cons c written => rw [List.dropWhile_cons_of_neg (by simpa using hfirst c rfl)]
  have hend : cs.rdropWhile Level.graph.drops = cs := by
    rw [List.rdropWhile_eq_self_iff]
    intro hne
    have hmap : (cs.map (·.1)).getLast? = some (cs.getLast hne).1 := by
      rw [List.getLast?_map, List.getLast?_eq_some_getLast hne]
      rfl
    simp [Level.drops, hlast _ hmap]
  have hscan := hscans []
  rw [List.append_nil] at hscan
  unfold Level.read
  rw [hbegin, hscan]
  show (List.map _ (List.rdropWhile _ (cs ++ [])), []) = _
  rw [List.append_nil, hend]

/-! ## Filters put together from options -/

/-- An option: its name, its value as it is written in a script, what the graph
level leaves of it, and what is read in the end. -/
structure Setting where
  name : String
  written : String
  token : String
  value : String

namespace Setting

/-- An option as it stands in a script. -/
def text (o : Setting) : String := o.name ++ "=" ++ o.written

/-- The two levels read an option as it says. -/
structure Holds (o : Setting) : Prop where
  name : ∀ c ∈ o.name.toList, c.isAlpha = true
  graph : Level.Leaves o.written.toList o.token.toList
  options : ∀ rest, Level.options.Ends rest →
    Level.options.read (o.token.toList ++ rest) = (o.value.toList, rest)

/-- What the graph level leaves of an option. -/
def left (o : Setting) : List Char := o.name.toList ++ '=' :: o.token.toList

variable {o : Setting}

/-- An option whose value is escaped for both levels. -/
def escaped (name value : String) : Setting where
  name := name
  written := escapeValue value
  token := String.ofList (escapeWith optionSpecial value.toList)
  value := String.ofList
    (Text.stripBy (Level.options.exposed optionSpecial) value.toList)

theorem holds_escaped {name : String} (hname : ∀ c ∈ name.toList, c.isAlpha = true)
    (value : String) : (escaped name value).Holds where
  name := hname
  graph := by
    simp only [escaped, escapeValue, String.toList_ofList]
    exact ⟨_, Level.scans_escapeWith Level.protected_graph _, by simp [Function.comp_def]⟩
  options rest hrest := by
    have hread := Level.read_escapeWith Level.protected_options hrest value.toList
    simpa [escaped] using hread

/-- An option whose value is written as it is. -/
def plain (name value : String) : Setting where
  name := name
  written := value
  token := value
  value := value

/-- A character that options leave alone. -/
def Quiet (c : Char) : Prop := c ∉ optionSpecial ∧ c ∉ Level.engineBlanks

theorem read_of_quiet {value rest : List Char} (h : ∀ c ∈ value, Quiet c)
    (hrest : Level.options.Ends rest) :
    Level.options.read (value ++ rest) = (value, rest) := by
  have hread := Level.read_escapeWith Level.protected_options hrest value
  have hstrip : Text.stripBy (Level.options.exposed optionSpecial) value = value := by
    have hblank (c : Char) (hc : c ∈ value) :
        Level.options.exposed optionSpecial c = false := by
      simp [Level.exposed, Level.options, (h c hc).2]
    rw [Text.stripBy_eq_self_iff]
    exact ⟨fun c hc => hblank c (List.mem_of_mem_head? hc),
      fun c hc => hblank c (List.mem_of_getLast? hc)⟩
  rwa [Level.escapeWith_of_forall_notMem fun c hc => (h c hc).1, hstrip] at hread

theorem holds_plain {name value : String} (hname : ∀ c ∈ name.toList, c.isAlpha = true)
    (h : ∀ c ∈ value.toList, c ∉ graphSpecial ∧ Quiet c) : (plain name value).Holds where
  name := hname
  graph := Level.leaves_of_not_special fun c hc => (h c hc).1
  options _ hrest := read_of_quiet (fun c hc => (h c hc).2) hrest

/-- An option whose value is quoted. -/
def quoted (name value : String) : Setting where
  name := name
  written := "'" ++ value ++ "'"
  token := value
  value := value

theorem holds_quoted {name value : String} (hname : ∀ c ∈ name.toList, c.isAlpha = true)
    (h : ∀ c ∈ value.toList, Quiet c) : (quoted name value).Holds where
  name := hname
  graph := by
    have hquote : '\'' ∉ value.toList := fun hmem =>
      (h _ hmem).1 Level.protected_options.quote
    have hbare : '\'' ∉ Level.graph.stops := by decide
    have hscans := Level.Scans.quoted hbare hquote
    exact ⟨_, by simpa [quoted] using hscans, by simp [quoted, Function.comp_def]⟩
  options _ hrest := read_of_quiet h hrest

theorem Holds.leaves (h : o.Holds) : Level.Leaves o.text.toList o.left := by
  have hleaves := (Level.leaves_name h.name).append h.graph
  simpa [text, left] using hleaves

/-- Options with colons between them are read one after the other. -/
theorem readOptions_intercalate {os : List Setting} (hne : os ≠ []) (h : ∀ o ∈ os, o.Holds) :
    readOptions ([':'].intercalate (os.map left)) =
      some (os.map fun o => (o.name, o.value)) := by
  induction os with
  | nil => exact absurd rfl hne
  | cons o os ih =>
      have ho := h o List.mem_cons_self
      have hequals : '=' ∉ o.name.toList := fun hmem =>
        absurd (ho.name _ hmem) (by decide)
      cases os with
      | nil =>
          have hread := ho.options [] (fun c hc => by cases hc)
          rw [List.append_nil] at hread
          simp [left, readOptions_last hequals hread]
      | cons o' os =>
          have hos := ih (List.cons_ne_nil _ _) fun b hb => h b (List.mem_cons_of_mem o hb)
          rw [List.map_cons, List.map_cons, List.intercalate_cons_cons, ← List.map_cons, left,
            List.append_assoc, List.singleton_append, List.append_assoc, List.cons_append,
            readOptions_cons hequals (ho.options _ _), hos]
          · simp
          · rintro c ⟨⟩
            exact List.mem_singleton_self _

end Setting

/-- The last option ends the text. -/
theorem Setting.getLast?_left {os : List Setting} {o : Setting} (h : os.getLast? = some o) :
    ([':'].intercalate (os.map left)).getLast? = o.left.getLast? := by
  induction os with
  | nil => cases h
  | cons o' os ih =>
      cases os with
      | nil =>
          cases h
          simp
      | cons o'' os =>
          have hlast : ([':'].intercalate ((o'' :: os).map left)).getLast? = o.left.getLast? :=
            ih (by simpa using h)
          have hsome : o.left.getLast?.isSome := by simp [left]
          rw [List.map_cons, List.map_cons, List.intercalate_cons_cons, ← List.map_cons,
            List.getLast?_append, hlast, Option.or_of_isSome hsome]

/-- **A filter.** The two levels read a filter that was put together from
options as its name and these options. -/
theorem readFilter_of_settings {name : String} {os : List Setting} {last : Setting}
    (hname : ∀ c ∈ name.toList, c.isAlpha = true) (h : ∀ o ∈ os, o.Holds)
    (hlast : os.getLast? = some last)
    (hblank : ∀ c ∈ last.token.toList, c ∉ Level.engineBlanks) :
    readFilter (name ++ "=" ++ ":".intercalate (os.map Setting.text)) =
      some (name, os.map fun o => (o.name, o.value)) := by
  have hne : os ≠ [] := by
    rintro rfl
    cases hlast
  have hequals : '=' ∉ name.toList := fun hmem => absurd (hname _ hmem) (by decide)
  have hwritten : (name ++ "=" ++ ":".intercalate (os.map Setting.text)).toList =
      name.toList ++ ['='] ++ [':'].intercalate (os.map fun o => o.text.toList) := by
    simp [String.toList_intercalate, Function.comp_def]
  have hleaves := (Level.leaves_name hname).append
    (Level.leaves_intercalate fun o ho => (h o ho).leaves)
  have hread : Level.graph.read (name ++ "=" ++ ":".intercalate (os.map Setting.text)).toList =
      (name.toList ++ ['='] ++ [':'].intercalate (os.map Setting.left), []) := by
    rw [hwritten]
    refine Level.read_of_leaves hleaves ?_ ?_
    · intro c hc
      refine (notMem_of_mem_name hname (List.mem_of_mem_head? ?_)).1
      rwa [List.head?_append_of_ne_nil _ (by simp)] at hc
    · intro c hc
      rw [List.getLast?_append, Setting.getLast?_left hlast, Option.or_of_isSome
        (by simp [Setting.left])] at hc
      have hmem := List.mem_of_getLast? hc
      rw [Setting.left, List.mem_append, List.mem_cons] at hmem
      have hequals : '=' ∉ Level.engineBlanks := by simp [Level.engineBlanks]
      rcases hmem with hletter | rfl | htoken
      · exact (notMem_of_mem_name (h last (List.mem_of_getLast? hlast)).name
          (List.mem_append_left _ hletter)).1
      · exact hequals
      · exact hblank c htoken
  unfold readFilter
  rw [hread]
  dsimp only
  rw [List.append_assoc, List.singleton_append, Text.splitOnce_append hequals]
  dsimp only
  rw [Setting.readOptions_intercalate hne h]
  simp

example : readFilter "overlay=x='a,b':y= 1\\\\:2 :z=" =
    some ("overlay", [("x", "a,b"), ("y", "1:2"), ("z", "")]) := by
  cbv

end VideoGreeting.FilterGraph
