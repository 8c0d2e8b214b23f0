import VideoGreeting.Proofs.Composition.Script
import VideoGreeting.Proofs.FilterGraph.Levels

/-!
# The caption as the engine reads it

The filter that draws a caption is read through both levels, back to the options
it was put together from. Spaces, tabs and line feeds at the ends of a caption
were escaped and stay. A carriage return is a blank to the engine as well, but
it is not escaped: at an end of the caption it is lost.

Main theorem: `text_read_from_drawing`, which holds of all captions, those that
are turned down included.
-/

namespace VideoGreeting.Composition

open FilterGraph

/-- Where a caption stands from left to right. -/
def sway (style : CaptionStyle) : String :=
  s!"(w-tw)/2+{style.swayAmplitude}*sin(2*PI*t/{secondsText style.swayPeriod})"

/-- The options of the filter that draws a caption. -/
def captionSettings (caption : String) (font : Path) (style : CaptionStyle) : List Setting :=
  [ .escaped "fontfile" font.text,
    .escaped "text" (CaptionOverlay.reversed caption),
    .plain "expansion" "none",
    .quoted "x" (sway style),
    .plain "y" (toString style.topOffset),
    .plain "fontcolor" style.fontColor,
    .plain "fontsize" (toString style.fontSize),
    .plain "shadowcolor" style.shadowColor,
    .plain "shadowx" (toString style.shadowOffset),
    .plain "shadowy" (toString style.shadowOffset) ]

theorem drawing_eq (caption : String) (font : Path) (style : CaptionStyle) :
    CaptionOverlay.drawing caption font style =
      "drawtext" ++ "=" ++
        ":".intercalate ((captionSettings caption font style).map Setting.text) := by
  rw [← String.toList_inj]
  simp [CaptionOverlay.drawing, captionSettings, Setting.text, Setting.escaped, Setting.plain,
    Setting.quoted, sway, String.intercalate_cons_cons]

/-- Numerals mean nothing to either level. -/
theorem quiet_of_isNumeral {c : Char} (h : Number.isNumeral c = true) :
    c ∉ graphSpecial ∧ Setting.Quiet c := by
  have hmarks : ∀ c ∈ graphSpecial ++ optionSpecial ++ Level.engineBlanks,
      Number.isNumeral c = false := by
    simp [graphSpecial, optionSpecial, Level.engineBlanks, Number.isNumeral]
  have hc : c ∉ graphSpecial ++ optionSpecial ++ Level.engineBlanks := fun hmem => by
    simp [hmarks c hmem] at h
  simpa [Setting.Quiet, not_or, and_assoc] using hc

/-- A text that options leave alone. -/
def IsQuiet (s : String) : Prop := ∀ c ∈ s.toList, Setting.Quiet c

theorem IsQuiet.append {s t : String} (hs : IsQuiet s) (ht : IsQuiet t) : IsQuiet (s ++ t) := by
  unfold IsQuiet
  rw [String.toList_append, List.forall_mem_append]
  exact ⟨hs, ht⟩

theorem isQuiet_nat (n : Nat) : IsQuiet (toString n) := fun _ hc =>
  (quiet_of_isNumeral (Number.isNumeral_of_mem_nat hc)).2

/-- What stands around a number of seconds decides. -/
theorem IsQuiet.around {front back : String} (hfront : IsQuiet front) (hback : IsQuiet back)
    (x : Float) : IsQuiet (front ++ secondsText x ++ back) := by
  have hseconds : IsQuiet (secondsText x) := fun _ hc =>
    (quiet_of_isNumeral (Number.isNumeral_of_mem_secondsText hc)).2
  exact (hfront.append hseconds).append hback

theorem isQuiet_sway (style : CaptionStyle) : IsQuiet (sway style) := by
  have hmiddle : IsQuiet "(w-tw)/2+" := by
    simp [IsQuiet, Setting.Quiet, optionSpecial, Level.engineBlanks]
  have hsine : IsQuiet "*sin(2*PI*t/" := by
    simp [IsQuiet, Setting.Quiet, optionSpecial, Level.engineBlanks]
  have hclose : IsQuiet ")" := by
    simp [IsQuiet, Setting.Quiet, optionSpecial, Level.engineBlanks]
  exact ((hmiddle.append (isQuiet_nat _)).append hsine).around hclose _

/-- Every option reads as it says if the colours are names or numerals. -/
theorem holds_captionSettings (caption : String) (font : Path) {style : CaptionStyle}
    (hfont : ∀ c ∈ style.fontColor.toList, Number.isNumeral c = true)
    (hshadow : ∀ c ∈ style.shadowColor.toList, Number.isNumeral c = true) :
    ∀ o ∈ captionSettings caption font style, o.Holds := by
  have hletters : ∀ name ∈ ["fontfile", "text", "expansion", "x", "y", "fontcolor", "fontsize",
      "shadowcolor", "shadowx", "shadowy"], ∀ c ∈ name.toList, c.isAlpha = true := by
    simp
  have hnumeral {s : String} (h : ∀ c ∈ s.toList, Number.isNumeral c = true) :
      ∀ c ∈ s.toList, c ∉ graphSpecial ∧ Setting.Quiet c :=
    fun c hc => quiet_of_isNumeral (h c hc)
  simp only [captionSettings, List.forall_mem_cons]
  refine ⟨?_, ?_, ?_, ?_, ?_, ?_, ?_, ?_, ?_, ?_, by simp⟩
  · exact Setting.holds_escaped (hletters _ (by simp)) _
  · exact Setting.holds_escaped (hletters _ (by simp)) _
  · exact Setting.holds_plain (hletters _ (by simp)) (hnumeral (by simp [Number.isNumeral]))
  · exact Setting.holds_quoted (hletters _ (by simp)) (isQuiet_sway style)
  · exact Setting.holds_plain (hletters _ (by simp))
      (hnumeral fun _ => Number.isNumeral_of_mem_nat)
  · exact Setting.holds_plain (hletters _ (by simp)) (hnumeral hfont)
  · exact Setting.holds_plain (hletters _ (by simp))
      (hnumeral fun _ => Number.isNumeral_of_mem_nat)
  · exact Setting.holds_plain (hletters _ (by simp)) (hnumeral hshadow)
  · exact Setting.holds_plain (hletters _ (by simp))
      (hnumeral fun _ => Number.isNumeral_of_mem_int)
  · exact Setting.holds_plain (hletters _ (by simp))
      (hnumeral fun _ => Number.isNumeral_of_mem_int)

/-- The two levels find the options of a caption and nothing else. -/
theorem readFilter_drawing (caption : String) (font : Path) {style : CaptionStyle}
    (hfont : ∀ c ∈ style.fontColor.toList, Number.isNumeral c = true)
    (hshadow : ∀ c ∈ style.shadowColor.toList, Number.isNumeral c = true) :
    readFilter (CaptionOverlay.drawing caption font style) =
      some ("drawtext", (captionSettings caption font style).map fun o => (o.name, o.value)) := by
  rw [drawing_eq]
  refine readFilter_of_settings (by simp) (holds_captionSettings caption font hfont hshadow) rfl ?_
  intro c hc
  exact (quiet_of_isNumeral (Number.isNumeral_of_mem_int hc)).2.2

/-! ## What is lost of a caption -/

/-- Of the blanks that the engine drops, carriage returns alone are not
escaped. -/
theorem exposed_options : Level.options.exposed optionSpecial = (· == '\r') := by
  funext c
  by_cases hspecial : c ∈ optionSpecial
  · have hc : c ≠ '\r' := by
      rintro rfl
      simp [optionSpecial] at hspecial
    simp [Level.exposed, hspecial, hc]
  · have hc : c ∈ Level.engineBlanks ↔ c = '\r' := by
      simp only [optionSpecial, List.mem_cons, not_or] at hspecial
      simp [Level.engineBlanks, hspecial]
    rw [Bool.eq_iff_iff]
    simp [Level.exposed, Level.options, hspecial, hc]

/-- A text without carriage returns at its ends. -/
def withoutReturns (s : String) : String := String.ofList (Text.stripBy (· == '\r') s.toList)

theorem withoutReturns_reversed (s : String) :
    withoutReturns (CaptionOverlay.reversed s) = CaptionOverlay.reversed (withoutReturns s) := by
  simp [withoutReturns, CaptionOverlay.reversed, Text.stripBy_reverse]

theorem reversed_reversed (s : String) :
    CaptionOverlay.reversed (CaptionOverlay.reversed s) = s := by
  simp [CaptionOverlay.reversed]

theorem withoutReturns_eq_self_iff (s : String) :
    withoutReturns s = s ↔ s.toList.head? ≠ some '\r' ∧ s.toList.getLast? ≠ some '\r' := by
  rw [← String.toList_inj, withoutReturns, String.toList_ofList, Text.stripBy_eq_self_iff]
  have hends (o : Option Char) : (∀ c, o = some c → (c == '\r') = false) ↔ o ≠ some '\r' := by
    cases o with
    | none => simp
    | some c => simp
  rw [hends, hends]

/-- **A caption and its text.** From the filter that draws a caption the engine
reads these ten options, and the text, from the last character to the first, is
the caption without carriage returns at its ends. So it is the caption itself
exactly if there are none. -/
theorem text_read_from_drawing (caption : String) (font : Path) :
    ∃ text,
      (CaptionOverlay.fragment caption font {}).chains.map (fun c => c.filters.map readFilter) =
        [[some ("drawtext",
          [("fontfile", withoutReturns font.text), ("text", text), ("expansion", "none"),
            ("x", "(w-tw)/2+30*sin(2*PI*t/5)"), ("y", "20"), ("fontcolor", "red"),
            ("fontsize", "70"), ("shadowcolor", "white"), ("shadowx", "3"), ("shadowy", "3")])]] ∧
      CaptionOverlay.reversed text = withoutReturns caption ∧
      (CaptionOverlay.reversed text = caption ↔
        caption.toList.head? ≠ some '\r' ∧ caption.toList.getLast? ≠ some '\r') := by
  have hread : readFilter (CaptionOverlay.drawing caption font {}) = _ :=
    readFilter_drawing caption font (by simp [Number.isNumeral]) (by simp [Number.isNumeral])
  have hsway : sway {} = "(w-tw)/2+30*sin(2*PI*t/5)" := by decide
  have htext : CaptionOverlay.reversed (withoutReturns (CaptionOverlay.reversed caption)) =
      withoutReturns caption := by
    rw [withoutReturns_reversed, reversed_reversed]
  refine ⟨withoutReturns (CaptionOverlay.reversed caption), ?_, htext, ?_⟩
  · rw [CaptionOverlay.fragment, List.map_singleton, List.map_singleton, hread]
    have hnumerals : (20 : Nat).repr = "20" ∧ (70 : Nat).repr = "70" ∧ (3 : Int).repr = "3" := by
      decide
    simp [captionSettings, Setting.escaped, Setting.plain, Setting.quoted, hsway,
      exposed_options, withoutReturns, hnumerals]
  · rw [htext, withoutReturns_eq_self_iff]

/-- A caption that ends in a carriage return is accepted, and the text that is
read is another one. -/
theorem not_text_of_caption :
    ¬ ∀ (caption : String) (font : Path), Caption.check caption = .ok () →
      ∃ options text,
        (CaptionOverlay.fragment caption font {}).chains.map (fun c => c.filters.map readFilter) =
          [[some ("drawtext", options)]] ∧
        options.map Prod.fst = ["fontfile", "text", "expansion", "x", "y", "fontcolor", "fontsize",
          "shadowcolor", "shadowx", "shadowy"] ∧
        options.lookup "text" = some text ∧
        CaptionOverlay.reversed text = caption := by
  intro h
  obtain ⟨options, text, hread, -, hlookup, htext⟩ :=
    h "שלום\r" ⟨"/assets/public/ktav.otf"⟩ (by decide)
  rw [CaptionOverlay.fragment, List.map_singleton, List.map_singleton,
    readFilter_drawing _ _ (by simp [Number.isNumeral]) (by simp [Number.isNumeral])] at hread
  simp only [List.cons.injEq, Option.some.injEq, Prod.mk.injEq, true_and, and_true] at hread
  rw [← hread] at hlookup
  have hvalue : text = (Setting.escaped "text" (CaptionOverlay.reversed "שלום\r")).value :=
    (Option.some.inj hlookup).symm
  rw [hvalue, Setting.escaped, exposed_options] at htext
  exact absurd htext (by decide)

end VideoGreeting.Composition
