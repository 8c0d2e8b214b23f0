import VideoGreeting.Proofs.FilterGraph.Levels

/-!
# Values come through both levels

A level drops the blanks at the ends of a token unless they are escaped. For a level
all of whose blanks are escaped nothing is dropped, and an escaped value is one token
that reads as the value, whatever follows it (`read_escapeWith_of_covers`). Spaces,
tabs and line feeds are escaped at both levels, so where those are the blanks, a value
comes through both unchanged, and no two values are written the same. Main theorem:
`read_escapeValue`.
-/

namespace VideoGreeting.FilterGraph

namespace Level

variable {level : Level} {special : List Char}

/-- Every blank of a level is escaped. -/
def Covers (level : Level) (special : List Char) : Prop := ∀ c ∈ level.blanks, c ∈ special

theorem exposed_of_covers (h : level.Covers special) (c : Char) :
    level.exposed special c = false := by
  unfold exposed
  by_cases hc : c ∈ level.blanks
  · simp [h c hc]
  · simp [hc]

/-- **Where all blanks are escaped**, an escaped value reads as the value. -/
theorem read_escapeWith_of_covers (h : level.Protected special) (hcovers : level.Covers special)
    {rest : List Char} (hrest : level.Ends rest) (value : List Char) :
    level.read (escapeWith special value ++ rest) = (value, rest) := by
  have hstrip : Text.stripBy (level.exposed special) value = value := by
    rw [Text.stripBy_eq_self_iff]
    exact ⟨fun c _ => exposed_of_covers hcovers c, fun c _ => exposed_of_covers hcovers c⟩
  rw [read_escapeWith h hrest, hstrip]

theorem escapeWith_injective (h : level.Protected special) (hcovers : level.Covers special) :
    Function.Injective (escapeWith special) := by
  intro value value' heq
  have hread (value : List Char) : level.read (escapeWith special value ++ []) = (value, []) :=
    read_escapeWith_of_covers h hcovers (fun c hc => by cases hc) value
  have hsame := hread value
  rw [heq, hread value'] at hsame
  exact (Prod.mk.inj hsame).1.symm

/-- The level with spaces, tabs and line feeds for its blanks. -/
def spaced (level : Level) : Level := { level with blanks := [' ', '\t', '\n'] }

theorem Protected.spaced (h : level.Protected special)
    (hstops : ∀ c ∈ level.stops, c ∉ [' ', '\t', '\n']) : level.spaced.Protected special where
  backslash := h.backslash
  quote := h.quote
  stops := h.stops
  bare := ⟨h.bare.1, by simp [Level.spaced], hstops⟩

theorem protected_spaced_graph : graph.spaced.Protected graphSpecial :=
  protected_graph.spaced (by simp [graph])

theorem protected_spaced_options : options.spaced.Protected optionSpecial :=
  protected_options.spaced (by simp [options])

theorem covers_spaced_graph : graph.spaced.Covers graphSpecial := by
  simp [Covers, spaced, graphSpecial]

theorem covers_spaced_options : options.spaced.Covers optionSpecial := by
  simp [Covers, spaced, optionSpecial]

end Level

open Level (graph options)

/-- What the graph level makes of an escaped value. -/
theorem read_escapeValue_graph (value : String) {rest : List Char}
    (hrest : graph.spaced.Ends rest) :
    graph.spaced.read ((escapeValue value).toList ++ rest) =
      (escapeWith optionSpecial value.toList, rest) := by
  rw [escapeValue, String.toList_ofList]
  exact Level.read_escapeWith_of_covers Level.protected_spaced_graph Level.covers_spaced_graph
    hrest _

/-- What the options make of that. -/
theorem read_escapeValue_options (value : String) {rest : List Char}
    (hrest : options.spaced.Ends rest) :
    options.spaced.read (escapeWith optionSpecial value.toList ++ rest) =
      (value.toList, rest) :=
  Level.read_escapeWith_of_covers Level.protected_spaced_options Level.covers_spaced_options
    hrest _

theorem escapeValue_injective : Function.Injective escapeValue := by
  intro value value' h
  have hgraph := Level.escapeWith_injective Level.protected_spaced_graph Level.covers_spaced_graph
    (String.ofList_inj.mp h)
  exact String.toList_inj.mp (Level.escapeWith_injective Level.protected_spaced_options
    Level.covers_spaced_options hgraph)

/-- **A value comes through both levels.** With spaces, tabs and line feeds for blanks,
an escaped value before the end of the text or a stop of the graph level is read up to
there and not further. What is left, before the end or a colon, is read as the value,
and not further either. So different values are written differently. -/
theorem read_escapeValue :
    (∀ value : String, ∃ token,
      (∀ rest, graph.spaced.Ends rest →
        graph.spaced.read ((escapeValue value).toList ++ rest) = (token, rest)) ∧
      ∀ rest, options.spaced.Ends rest →
        options.spaced.read (token ++ rest) = (value.toList, rest)) ∧
    Function.Injective escapeValue :=
  ⟨fun value => ⟨escapeWith optionSpecial value.toList,
      fun _ hrest => read_escapeValue_graph value hrest,
      fun _ hrest => read_escapeValue_options value hrest⟩,
    escapeValue_injective⟩

/-- A value with everything in it that is escaped, before a label and another option. -/
theorem read_escapeValue_hostile :
    graph.spaced.Ends "[out]".toList ∧ options.spaced.Ends ":x=1".toList ∧
      ∃ token,
        graph.spaced.read ((escapeValue "\t it's [a,b];c:\\d\n").toList ++ "[out]".toList) =
          (token, "[out]".toList) ∧
        options.spaced.read (token ++ ":x=1".toList) =
          ("\t it's [a,b];c:\\d\n".toList, ":x=1".toList) := by
  have hlabel : graph.spaced.Ends "[out]".toList := by
    rintro c ⟨⟩
    decide
  have hoption : options.spaced.Ends ":x=1".toList := by
    rintro c ⟨⟩
    decide
  obtain ⟨token, hgraph, hoptions⟩ := read_escapeValue.1 "\t it's [a,b];c:\\d\n"
  exact ⟨hlabel, hoption, token, hgraph _ hlabel, hoptions _ hoption⟩

end VideoGreeting.FilterGraph
