import Mathlib
import VideoGreeting.FilterGraph.Escape
import VideoGreeting.Proofs.FilterGraph.Streams

/-!
# Reading a script back

A reader of the graph language, written down without a look at how scripts are
put together. A backslash makes the next character literal, single quotes make
everything up to the next one literal, and of the other characters `;`
separates statements, `,` separates filters, and brackets stand around the
labels at the two ends of a statement. The texts of filters and labels are kept
as they are written.

What is needed of the pieces of a script is that they are *plain*: a reader
that is in no quotes before a piece is in none after it, and finds no mark in
between. Main theorem: `read_script`, a graph with plain pieces reads back as
the list of its chains.
-/

namespace VideoGreeting.FilterGraph

/-! ## The reader -/

/-- How the next character is read. -/
inductive Mode where
  | bare
  | escaped
  | quoted
  deriving Repr, DecidableEq

/-- How the character after `c` is read. -/
def Mode.after (c : Char) : Mode → Mode
  | bare => if c = '\\' then escaped else if c = '\'' then quoted else bare
  | escaped => bare
  | quoted => if c = '\'' then bare else quoted

/-- A character of a script with what it is for. -/
inductive Token where
  | mark (c : Char)
  | text (c : Char)
  deriving Repr, DecidableEq

/-- The characters with a meaning in the graph language. -/
def marks : List Char := ['[', ']', ',', ';']

/-- The tokens of a script. Only a bare character is a mark. -/
def tokens (m : Mode) : List Char → List Token
  | [] => []
  | c :: rest =>
    (if m = .bare ∧ c ∈ marks then .mark c else .text c) :: tokens (m.after c) rest

/-- The character of a token that is no mark. -/
def Token.text? : Token → Option Char
  | mark _ => none
  | text c => some c

/-- Reads tokens among which no mark may be. -/
def readText (ts : List Token) : Option String := (ts.mapM Token.text?).map String.ofList

/-- Reads the labels at the front, and gives what follows them; `name?` is the
text of a label that is open. -/
def readLabels (name? : Option (List Char)) : List Token → Option (List Label × List Token)
  | [] =>
    match name? with
    | none => some ([], [])
    | some _ => none
  | t :: rest =>
    match name?, t with
    | none, .mark '[' => readLabels (some []) rest
    | none, _ => some ([], t :: rest)
    | some name, .mark ']' =>
      (readLabels none rest).map fun (labels, rest) => (⟨String.ofList name⟩ :: labels, rest)
    | some name, .text c => readLabels (some (name ++ [c])) rest
    | some _, .mark _ => none

/-- Reads a statement: labels, filters, labels. -/
def readStatement (ts : List Token) : Option Chain := do
  let (inputs, rest) ← readLabels none ts
  let (outputs, rest') ← readLabels none (rest.dropWhile (· != .mark '['))
  let filters ← ((rest.takeWhile (· != .mark '[')).splitOn (.mark ',')).mapM readText
  if rest' = [] then some { inputs, filters, outputs } else none

/-- Reads a script: one chain for each statement. -/
def readScript (script : String) : Option (List Chain) :=
  ((tokens .bare script.toList).splitOn (.mark ';')).mapM readStatement

/-! ## The tokens of pieces -/

/-- A text has these tokens wherever it stands bare in a script, and what
follows it is bare again. -/
def Reads (cs : List Char) (ts : List Token) : Prop :=
  ∀ rest, tokens .bare (cs ++ rest) = ts ++ tokens .bare rest

namespace Reads

variable {cs cs' : List Char} {ts ts' : List Token}

theorem tokens_eq (h : Reads cs ts) : tokens .bare cs = ts := by
  have hnil := h []
  simpa [tokens] using hnil

theorem nil : Reads [] [] := fun _ => rfl

theorem append (h : Reads cs ts) (h' : Reads cs' ts') :
    Reads (cs ++ cs') (ts ++ ts') := by
  intro rest
  rw [List.append_assoc, h, h', List.append_assoc]

theorem mark {c : Char} (hc : c ∈ marks) : Reads [c] [.mark c] := by
  intro rest
  have hafter : Mode.bare.after c = .bare := by
    rw [Mode.after, if_neg, if_neg]
    · rintro rfl
      exact absurd hc (by decide)
    · rintro rfl
      exact absurd hc (by decide)
  rw [List.singleton_append, tokens, if_pos ⟨rfl, hc⟩, hafter]
  rfl

variable {α : Type} {text : α → List Char} {toks : α → List Token}

theorem flatMap {as : List α} (h : ∀ a ∈ as, Reads (text a) (toks a)) :
    Reads (as.flatMap text) (as.flatMap toks) := by
  induction as with
  | nil => exact nil
  | cons a as ih =>
      rw [List.flatMap_cons, List.flatMap_cons]
      exact (h a List.mem_cons_self).append
        (ih fun b hb => h b (List.mem_cons_of_mem a hb))

/-- Pieces with a mark between them. -/
theorem intercalate {c : Char} (hc : c ∈ marks) {as : List α}
    (h : ∀ a ∈ as, Reads (text a) (toks a)) :
    Reads ([c].intercalate (as.map text)) ([Token.mark c].intercalate (as.map toks)) := by
  induction as with
  | nil => exact nil
  | cons a as ih =>
      have ha := h a List.mem_cons_self
      have has := ih fun b hb => h b (List.mem_cons_of_mem a hb)
      cases as with
      | nil => simpa using ha
      | cons b as =>
          rw [List.map_cons, List.map_cons, List.map_cons, List.map_cons,
            List.intercalate_cons_cons, List.intercalate_cons_cons]
          exact (ha.append (mark hc)).append has

end Reads

/-! ## Plain texts -/

/-- A text without marks, in which what is escaped or quoted ends with it. -/
def Plain (s : String) : Prop := Reads s.toList (s.toList.map .text)

namespace Plain

variable {s t : String}

theorem append (hs : Plain s) (ht : Plain t) : Plain (s ++ t) := by
  unfold Plain
  rw [String.toList_append, List.map_append]
  exact Reads.append hs ht

theorem intercalate {sep : String} (hsep : Plain sep) {pieces : List String}
    (h : ∀ p ∈ pieces, Plain p) : Plain (sep.intercalate pieces) := by
  induction pieces with
  | nil => exact Reads.nil
  | cons p pieces ih =>
      have hp := h p List.mem_cons_self
      have hpieces := ih fun q hq => h q (List.mem_cons_of_mem p hq)
      cases pieces with
      | nil => simpa using hp
      | cons q pieces =>
          rw [String.intercalate_cons_cons]
          exact (hp.append hsep).append hpieces

end Plain

/-- The characters that a plain text has to escape or to quote. -/
def special : List Char := ['\\', '\''] ++ marks

/-- A text without special characters is plain. -/
theorem plain_of_not_special {s : String} (h : ∀ c ∈ s.toList, c ∉ special) :
    Plain s := by
  unfold Plain
  generalize s.toList = cs at h
  induction cs with
  | nil => exact Reads.nil
  | cons c cs ih =>
      intro rest
      obtain ⟨hc, hcs⟩ := List.forall_mem_cons.mp h
      simp only [special, List.mem_append, List.mem_cons, List.not_mem_nil, or_false,
        not_or] at hc
      rw [List.cons_append, tokens, if_neg fun hmark => hc.2 hmark.2, Mode.after,
        if_neg hc.1.1, if_neg hc.1.2, ih hcs]
      rfl

/-- How the character after `cs` is read. -/
def Mode.afterAll (m : Mode) (cs : List Char) : Mode :=
  cs.foldl (fun (m : Mode) c => m.after c) m

theorem tokens_append (m : Mode) (cs rest : List Char) :
    tokens m (cs ++ rest) = tokens m cs ++ tokens (m.afterAll cs) rest := by
  induction cs generalizing m with
  | nil => rfl
  | cons c cs ih =>
      rw [List.cons_append, tokens, tokens, ih]
      rfl

/-- A text is plain if it is read without marks and ends bare. -/
theorem plain_of_tokens_eq {s : String}
    (htokens : tokens .bare s.toList = s.toList.map .text)
    (hbare : Mode.bare.afterAll s.toList = .bare) : Plain s := by
  intro rest
  rw [tokens_append, htokens, hbare]

/-- Quotes around a text without quotes make it plain. -/
theorem plain_quoted {s : String} (h : '\'' ∉ s.toList) : Plain ("'" ++ s ++ "'") := by
  have hinside : ∀ cs : List Char, '\'' ∉ cs → ∀ rest,
      tokens .quoted (cs ++ '\'' :: rest) =
        cs.map .text ++ .text '\'' :: tokens .bare rest := by
    intro cs
    induction cs with
    | nil =>
        intro _ rest
        rfl
    | cons c cs ih =>
        intro hcs rest
        rw [List.mem_cons, not_or] at hcs
        have hafter : Mode.quoted.after c = .quoted := by
          rw [Mode.after, if_neg (Ne.symm hcs.1)]
        have hquoted : ¬(Mode.quoted = .bare ∧ c ∈ marks) := fun hmark => by
          cases hmark.1
        rw [List.cons_append, tokens, if_neg hquoted, hafter, ih hcs.2]
        rfl
  intro rest
  have htext : ("'" ++ s ++ "'").toList = '\'' :: (s.toList ++ ['\'']) := by simp
  rw [htext, List.cons_append, List.append_assoc, List.singleton_append, tokens]
  show Token.text '\'' :: tokens .quoted _ = _
  rw [hinside _ h]
  simp

/-- An escaped value is plain, whatever the value. -/
theorem plain_escapeValue (value : String) : Plain (escapeValue value) := by
  unfold Plain escapeValue
  rw [String.toList_ofList]
  generalize escapeWith optionSpecial value.toList = cs
  induction cs with
  | nil => exact Reads.nil
  | cons c cs ih =>
      rw [escapeWith, List.flatMap_cons, ← escapeWith, List.map_append]
      refine Reads.append ?_ ih
      intro rest
      by_cases hc : c ∈ graphSpecial
      · -- the character after the backslash is not bare
        rw [if_pos hc]
        rfl
      · rw [if_neg hc]
        have hmark : c ∉ marks := fun hin => hc (by
          revert hin
          simp only [marks, graphSpecial, List.mem_cons, List.not_mem_nil, or_false]
          tauto)
        simp only [graphSpecial, List.mem_cons, not_or] at hc
        rw [List.singleton_append, tokens, if_neg fun h => hmark h.2, Mode.after,
          if_neg hc.1, if_neg hc.2.1]
        rfl

/-! ## Reading the tokens of a graph -/

/-- The tokens of a plain text. -/
def plainTokens (s : String) : List Token := s.toList.map .text

/-- The tokens of a label with a plain name. -/
def Label.tokens (l : Label) : List Token := .mark '[' :: plainTokens l.name ++ [.mark ']']

/-- The tokens of filters that are plain. -/
def filterTokens (filters : List String) : List Token :=
  [Token.mark ','].intercalate (filters.map plainTokens)

/-- The tokens of a chain whose texts are plain. -/
def Chain.tokens (c : Chain) : List Token :=
  c.inputs.flatMap Label.tokens ++ filterTokens c.filters ++ c.outputs.flatMap Label.tokens

theorem mark_not_mem_plainTokens (c : Char) (s : String) :
    Token.mark c ∉ plainTokens s := by
  simp [plainTokens]

theorem readText_plainTokens (s : String) : readText (plainTokens s) = some s := by
  have hmap : ∀ cs : List Char, (cs.map Token.text).mapM Token.text? = some cs := by
    intro cs
    induction cs with
    | nil => rfl
    | cons c cs ih => simp [List.mapM_cons, Token.text?, ih]
  rw [readText, plainTokens, hmap]
  simp

theorem readLabels_name (name cs : List Char) (rest : List Token) :
    readLabels (some name) (cs.map .text ++ .mark ']' :: rest) =
      (readLabels none rest).map fun (labels, rest) =>
        (⟨String.ofList (name ++ cs)⟩ :: labels, rest) := by
  induction cs generalizing name with
  | nil => simp [readLabels]
  | cons c cs ih =>
      rw [List.map_cons, List.cons_append, readLabels, ih, List.append_assoc]
      rfl

/-- Labels are read up to something that does not begin with a bracket. -/
theorem readLabels_labels (labels : List Label) {rest : List Token}
    (hrest : rest.head? ≠ some (.mark '[')) :
    readLabels none (labels.flatMap Label.tokens ++ rest) = some (labels, rest) := by
  induction labels with
  | nil =>
      cases rest with
      | nil => rfl
      | cons t rest =>
          rw [List.head?_cons] at hrest
          rw [List.flatMap_nil, List.nil_append, readLabels]
          intro ht
          exact hrest (congrArg some ht)
  | cons l labels ih =>
      rw [List.flatMap_cons, Label.tokens, List.cons_append, List.cons_append,
        List.cons_append, readLabels, plainTokens, List.append_assoc, List.append_assoc,
        List.singleton_append, readLabels_name, ih]
      simp

/-- A comma apart, there are no marks among the tokens of filters. -/
theorem mark_not_mem_filterTokens {c : Char} (hc : c ≠ ',') (filters : List String) :
    Token.mark c ∉ filterTokens filters := by
  unfold filterTokens
  induction filters with
  | nil => simp
  | cons f filters ih =>
      cases filters with
      | nil => simpa using mark_not_mem_plainTokens c f
      | cons f' filters =>
          rw [List.map_cons, List.map_cons, List.intercalate_cons_cons]
          simp only [List.mem_append, List.mem_singleton, Token.mark.injEq, not_or]
          exact ⟨⟨mark_not_mem_plainTokens c f, hc⟩, ih⟩

theorem mapM_readText (filters : List String) :
    filters.mapM (readText ∘ plainTokens) = some filters := by
  induction filters with
  | nil => rfl
  | cons f filters ih => simp [List.mapM_cons, readText_plainTokens, ih]

/-- Filters that are not empty texts begin with a character of the first. -/
theorem head?_filterTokens {filters : List String} (hne : filters ≠ [])
    (h : ∀ f ∈ filters, f ≠ "") : ∃ c, (filterTokens filters).head? = some (.text c) := by
  cases filters with
  | nil => exact absurd rfl hne
  | cons f filters =>
      obtain ⟨c, cs, hf⟩ : ∃ c cs, f.toList = c :: cs := by
        apply List.exists_cons_of_ne_nil
        rw [Ne, String.toList_eq_nil_iff]
        exact h f List.mem_cons_self
      refine ⟨c, ?_⟩
      cases filters with
      | nil => simp [filterTokens, plainTokens, hf]
      | cons f' filters =>
          rw [filterTokens, List.map_cons, List.map_cons, List.intercalate_cons_cons,
            plainTokens, hf]
          rfl

/-- A chain whose texts are plain and whose filters are not empty. -/
structure Chain.IsPlain (c : Chain) : Prop where
  filters_ne_nil : c.filters ≠ []
  ne_empty : ∀ f ∈ c.filters, f ≠ ""
  filters : ∀ f ∈ c.filters, Plain f
  labels : ∀ l ∈ c.inputs ++ c.outputs, Plain l.name

/-- **One statement.** The tokens of a chain read as the chain. -/
theorem readStatement_tokens {c : Chain} (hc : c.IsPlain) :
    readStatement c.tokens = some c := by
  obtain ⟨first, hfirst⟩ := head?_filterTokens hc.filters_ne_nil hc.ne_empty
  have hinputs : readLabels none c.tokens =
      some (c.inputs, filterTokens c.filters ++ c.outputs.flatMap Label.tokens) := by
    rw [Chain.tokens, List.append_assoc, readLabels_labels]
    rw [List.head?_append, hfirst]
    simp
  have hbody : ∀ t ∈ filterTokens c.filters, (t != Token.mark '[') = true := by
    intro t ht
    rw [bne_iff_ne]
    rintro rfl
    exact mark_not_mem_filterTokens (by decide) _ ht
  have houtputs : readLabels none (c.outputs.flatMap Label.tokens) = some (c.outputs, []) := by
    have hnil : ([] : List Token).head? ≠ some (.mark '[') := by simp
    have hlabels := readLabels_labels c.outputs hnil
    rwa [List.append_nil] at hlabels
  -- the filters end where the outputs begin, with a bracket, or with the statement
  have htake : (c.outputs.flatMap Label.tokens).takeWhile (· != .mark '[') = [] := by
    cases c.outputs <;> rfl
  have hdrop : (c.outputs.flatMap Label.tokens).dropWhile (· != .mark '[') =
      c.outputs.flatMap Label.tokens := by
    cases c.outputs <;> rfl
  have hsplit : (filterTokens c.filters).splitOn (.mark ',') = c.filters.map plainTokens := by
    apply List.splitOn_intercalate
    · simp [mark_not_mem_plainTokens]
    · simpa using hc.filters_ne_nil
  simp [readStatement, hinputs, List.dropWhile_append_of_pos hbody,
    List.takeWhile_append_of_pos hbody, htake, hdrop, houtputs, hsplit, mapM_readText]

/-! ## Reading a script -/

theorem Label.reads_text {l : Label} (h : Plain l.name) :
    Reads l.text.toList l.tokens := by
  rw [Label.text, String.toList_append, String.toList_append]
  exact ((Reads.mark (by decide)).append h).append (Reads.mark (by decide))

theorem Chain.reads_text {c : Chain} (hc : c.IsPlain) : Reads c.text.toList c.tokens := by
  obtain ⟨hinputs, houtputs⟩ := List.forall_mem_append.mp hc.labels
  rw [Chain.text, String.toList_append, String.toList_append, String.toList_join,
    String.toList_join, List.flatMap_map, List.flatMap_map, String.toList_intercalate]
  refine (Reads.append ?_ ?_).append ?_
  · exact Reads.flatMap fun l hl => Label.reads_text (hinputs l hl)
  · exact Reads.intercalate (by decide) hc.filters
  · exact Reads.flatMap fun l hl => Label.reads_text (houtputs l hl)

theorem mark_not_mem_chain_tokens (c : Chain) : Token.mark ';' ∉ c.tokens := by
  -- brackets are the only marks around labels
  have hlabels : ∀ labels : List Label, Token.mark ';' ∉ labels.flatMap Label.tokens := by
    intro labels hmem
    obtain ⟨l, -, hl⟩ := List.mem_flatMap.mp hmem
    simp [Label.tokens, mark_not_mem_plainTokens] at hl
  rw [Chain.tokens, List.mem_append, List.mem_append, not_or, not_or]
  exact ⟨⟨hlabels _, mark_not_mem_filterTokens (by decide) _⟩, hlabels _⟩

/-- The statements of a graph are the texts of its chains. -/
theorem Graph.statements_eq (g : Graph) : g.statements = g.chains.map Chain.text := by
  rw [statements, chains, List.map_flatMap]
  rfl

/-- **A script reads back.** A graph with a chain, all of whose chains are
plain, reads back from its script as the list of its chains. -/
theorem read_script {g : Graph} (hne : g.chains ≠ []) (hplain : ∀ c ∈ g.chains, c.IsPlain) :
    readScript g.script = some g.chains := by
  have htokens : tokens .bare g.script.toList =
      [Token.mark ';'].intercalate (g.chains.map Chain.tokens) := by
    rw [Graph.script, Graph.statements_eq, String.toList_intercalate, List.map_map]
    exact (Reads.intercalate (by decide) fun c hc => Chain.reads_text (hplain c hc)).tokens_eq
  have hread : ∀ chains : List Chain, (∀ c ∈ chains, c.IsPlain) →
      (chains.map Chain.tokens).mapM readStatement = some chains := by
    intro chains hchains
    induction chains with
    | nil => rfl
    | cons c chains ih =>
        have hc := readStatement_tokens (hchains c List.mem_cons_self)
        have hrest := ih fun c' hc' => hchains c' (List.mem_cons_of_mem c hc')
        simp [List.mapM_cons, hc, hrest]
  rw [readScript, htokens, List.splitOn_intercalate, hread _ hplain]
  · intro ts hts
    obtain ⟨c, -, rfl⟩ := List.mem_map.mp hts
    exact mark_not_mem_chain_tokens c
  · simpa using hne

example : readScript "[0:v]fps=5,x='1,2'[a];[a]text=\\[b\\],null" =
    some [{ inputs := [⟨"0:v"⟩], filters := ["fps=5", "x='1,2'"], outputs := [⟨"a"⟩] },
      { inputs := [⟨"a"⟩], filters := ["text=\\[b\\]", "null"] }] := by
  decide +kernel

end VideoGreeting.FilterGraph
