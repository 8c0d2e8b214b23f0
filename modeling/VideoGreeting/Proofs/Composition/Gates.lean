import VideoGreeting.Proofs.Composition.Caption
import VideoGreeting.Proofs.Composition.Pads
import VideoGreeting.Proofs.Number.FloatOrder
import VideoGreeting.Proofs.Timeline.Rounded

/-!
# The gates of a reel

The expressions that show the clips of a reel one after the other are found in its graph:
the filter that lays a clip on the background is read through both levels, and its option
`enable` is the gate of the clip. With a gated style every clip has one gate, the
expression of its window.
-/

namespace VideoGreeting.Composition

open FilterGraph

/-- Whether a fragment moves the image of a clip. -/
def moves (clip : ℕ) (f : Fragment) : Bool :=
  match f.role with
  | .motion i _ => i == clip
  | _ => false

/-- The filters of the chains that write the background. -/
def ontoBackground (chains : List Chain) : List String :=
  (chains.filter fun c => c.outputs = [.background]).flatMap Chain.filters

/-- What the engine reads from the option `enable` of a filter. -/
def gate? (filter : String) : Option String :=
  (readFilter filter).bind fun (_, options) => options.lookup "enable"

/-- The gates of a clip, one for each filter that lays it on the background. -/
def gatesOf (g : Graph) (clip : ℕ) : List (Option String) :=
  ((g.fragments.filter (moves clip)).flatMap fun f => ontoBackground f.chains).map gate?

/-! ## The gate of an overlay -/

theorem isQuiet_expression (w : Window Float) : IsQuiet w.expression := by
  have hopen : IsQuiet "gte(t," := by
    simp [IsQuiet, Setting.Quiet, optionSpecial, Level.engineBlanks]
  have hmiddle : IsQuiet ")*lt(t," := by
    simp [IsQuiet, Setting.Quiet, optionSpecial, Level.engineBlanks]
  have hclose : IsQuiet ")" := by
    simp [IsQuiet, Setting.Quiet, optionSpecial, Level.engineBlanks]
  exact (hopen.around hmiddle _).around hclose _

/-- **The gate of an overlay** is the expression of its window, wherever the image is
laid. -/
theorem gate?_overlay (top : Label) {across down : Setting} (hacross : across.Holds)
    (hdown : down.Holds) (hx : across.name = "x") (hy : down.name = "y") (w : Window Float) :
    (Motion.overlay top across.written down.written (some w)).filters.map gate? =
      [some w.expression] := by
  have htext : s!"overlay=x={across.written}:y={down.written}{Motion.gateText (some w)}" =
      "overlay" ++ "=" ++
        ":".intercalate ([across, down, .quoted "enable" w.expression].map Setting.text) := by
    rw [← String.toList_inj]
    simp [Setting.text, Setting.quoted, hx, hy, Motion.gateText, Motion.protect,
      String.intercalate_cons_cons]
  have hholds : ∀ o ∈ [across, down, .quoted "enable" w.expression], o.Holds := by
    simp only [List.forall_mem_cons]
    exact ⟨hacross, hdown, Setting.holds_quoted (by simp) (isQuiet_expression w), by simp⟩
  have hletters : ∀ c ∈ "overlay".toList, c.isAlpha = true := by simp
  have hread := readFilter_of_settings hletters hholds rfl fun c hc => (isQuiet_expression w c hc).2
  rw [Motion.overlay, htext, List.map_singleton, gate?, hread]
  simp [hx, hy, Setting.quoted, List.lookup_cons]

/-! ## The gates of a clip -/

theorem isQuiet_centerX : IsQuiet Motion.centerX := by
  simp [IsQuiet, Motion.centerX, Setting.Quiet, optionSpecial, Level.engineBlanks]

theorem isQuiet_centerY : IsQuiet Motion.centerY := by
  simp [IsQuiet, Motion.centerY, Setting.Quiet, optionSpecial, Level.engineBlanks]

theorem ontoBackground_overlay (top : Label) (x y : String) (gate : Option (Window Float)) :
    ontoBackground [Motion.overlay top x y gate] = (Motion.overlay top x y gate).filters := by
  simp [ontoBackground, Motion.overlay]

/-- A stage that writes another label lays nothing on the background. -/
theorem ontoBackground_stage (source : Label) (filters : List String) {target : Label}
    (h : target ≠ .background) (chains : List Chain) :
    ontoBackground (Motion.stage source filters target :: chains) = ontoBackground chains := by
  simp [ontoBackground, Motion.stage, h]

/-- **The gate of a clip.** A gated style lays the image on the background once, during
the window of the clip. -/
theorem gates_motion {style : Style} (hstyle : style.isGated = true) (i : ℕ) (w : Window Float)
    (duration : Float) :
    (ontoBackground (Motion.chains style i w duration)).map gate? = [some w.expression] := by
  have hx {value : String} (h : IsQuiet value) : (Setting.quoted "x" value).Holds :=
    Setting.holds_quoted (by simp) h
  have hy {value : String} (h : IsQuiet value) : (Setting.quoted "y" value).Holds :=
    Setting.holds_quoted (by simp) h
  have hclose : IsQuiet ")" := by
    simp [IsQuiet, Setting.Quiet, optionSpecial, Level.engineBlanks]
  cases style with
  | slide =>
      have hsine : IsQuiet "+(W/4)*sin(PI*t/" := by
        simp [IsQuiet, Setting.Quiet, optionSpecial, Level.engineBlanks]
      have hbare : ∀ c ∈ Motion.centerY.toList, c ∉ graphSpecial := by
        simp [Motion.centerY, graphSpecial]
      have hsweep := (isQuiet_centerX.append hsine).around hclose duration
      have hmiddle : (Setting.plain "y" Motion.centerY).Holds :=
        Setting.holds_plain (by simp) fun c hc => ⟨hbare c hc, isQuiet_centerY c hc⟩
      exact gate?_overlay (Label.image i) (hx hsweep) hmiddle rfl rfl w
  | bounce =>
      have hsine : IsQuiet "+(W/4)*sin(2*PI*t/" := by
        simp [IsQuiet, Setting.Quiet, optionSpecial, Level.engineBlanks]
      have hsize : IsQuiet "+(H/4)*abs(sin(2*PI*t/" := by
        simp [IsQuiet, Setting.Quiet, optionSpecial, Level.engineBlanks]
      have hsweep := (isQuiet_centerX.append hsine).around hclose duration
      have hbounce := (isQuiet_centerY.append hsize).around (hclose.append hclose) duration
      exact gate?_overlay (Label.image i) (hx hsweep) (hy hbounce) rfl rfl w
  | zoom =>
      have hgate := gate?_overlay (Label.imageStage i "zoomed") (hx isQuiet_centerX)
        (hy isQuiet_centerY) rfl rfl w
      rw [Motion.chains, ontoBackground_stage _ _ (Label.imageStage_ne_background i _),
        ontoBackground_overlay]
      exact hgate
  | fade | rotate | unrecognized name => cases hstyle

/-! ## The gates of a reel -/

/-- One fragment moves the image of a clip. -/
theorem filter_moves {r : Resolved} {i : ℕ} (hi : i < r.clipCount) (s : Settings) :
    (fragments (scaleBackground s.canvas) (clipsOf r s)
      (CaptionOverlay.fragment r.caption r.font s.caption)).filter (moves i) =
      [(clipOf r s i).motion] := by
  have hclip (k : ℕ) : [(clipOf r s k).scale, (clipOf r s k).motion].filter (moves i) =
      if k = i then [(clipOf r s k).motion] else [] := by
    by_cases hk : k = i
    · simp [hk, clipOf, clip, scaleImage, Motion.fragment, moves]
    · simp [hk, clipOf, clip, scaleImage, Motion.fragment, moves]
  have hclips (n : ℕ) : ((List.range n).flatMap fun k =>
      if k = i then [(clipOf r s k).motion] else []) =
        if i < n then [(clipOf r s i).motion] else [] := by
    induction n with
    | zero => rfl
    | succ n ih =>
        rw [List.range_succ, List.flatMap_append, ih, List.flatMap_singleton]
        rcases lt_trichotomy i n with hlt | rfl | hgt
        · simp [hlt, hlt.ne', Nat.lt_succ_of_lt hlt]
        · simp
        · simp [hgt.ne, not_lt.mpr hgt.le, not_lt.mpr (Nat.succ_le_of_lt hgt)]
  have hbackground : moves i (scaleBackground s.canvas) = false := rfl
  have hcaption : moves i (CaptionOverlay.fragment r.caption r.font s.caption) = false := rfl
  rw [fragments, List.filter_append, List.filter_cons, hbackground, List.filter_singleton,
    hcaption, List.filter_flatMap, clipsOf, List.flatMap_map]
  simp only [hclip, hclips, if_pos hi]
  rfl

/-- **The gates of a reel.** With a gated style every clip has one gate, and it is the
expression of its window. -/
theorem gatesOf_graph {r : Resolved} {s : Settings} {g : Graph} (hstyle : r.style.isGated = true)
    (hgraph : graph r s = .ok g) {i : ℕ} (hi : i < r.clipCount) :
    gatesOf g i = [some (Timeline.window s.duration r.clipCount i).expression] := by
  obtain ⟨himages, hduration⟩ := of_graph_eq_ok hgraph
  rw [graph_eq_ok himages hduration] at hgraph
  cases hgraph
  rw [gatesOf, filter_moves hi, List.flatMap_singleton]
  exact gates_motion hstyle i _ _

/-- **Gates that take turns.** With a gated style and a length below `2 ^ 63` seconds the
engine reads one gate for each clip from the graph of a reel, the expression of its window.
The gates open one after the other, from zero up to what is read off the length: at any
time before that one clip is shown, and none at any other time. No gate is empty if there
are two thousandths of a second for each clip, and the reel is not so long that doubles are
too coarse for them.

Doubles are written like the numbers they stand for, and for windows that were reckoned
with exact numbers the same holds of any number of clips and any length. -/
theorem gates_take_turns :
    (∀ (r : Resolved) (s : Settings) (length : ℚ),
      r.images ≠ [] → r.clipCount < 2 ^ 53 → r.style.isGated = true →
      (Number.Value.ofFloat s.duration).rational? = some length → 0 < length → length < 2 ^ 63 →
      ∃ g gates bound,
        graph r s = .ok g ∧
        gates = (Timeline.windows s.duration r.clipCount).map
          (Window.expressionWith fun x => seconds (.ofFloat x)) ∧
        (List.range r.clipCount).map (gatesOf g) = gates.map ([some ·]) ∧
        Number.readDecimal? (seconds (.ofFloat s.duration)) = some (printed length) ∧
        TakeTurns bound (printed length) gates ∧
        (length ≤ 2 ^ 40 → 2 / 1000 ≤ length / r.clipCount →
          ∀ i < r.clipCount, bound i < bound (i + 1))) ∧
    (∀ (v : Number.Value) (q : ℚ), v.rational? = some q → seconds v = exactSeconds q) ∧
    ∀ (length : ℚ) (n : ℕ), n ≠ 0 → 0 < length → length < 2 ^ 63 →
      ∃ gates bound,
        gates = (Timeline.windows length n).map (Window.expressionWith exactSeconds) ∧
        Number.readDecimal? (exactSeconds length) = some (printed length) ∧
        TakeTurns bound (printed length) gates ∧
        (2 / 1000 ≤ length / n → ∀ i < n, bound i < bound (i + 1)) := by
  refine ⟨?_, fun v q h => seconds_eq_exactSeconds h, ?_⟩
  · intro r s length himages hcount hstyle hvalue hlength hlt
    have hstands := Number.stands_of_rational? hlength hvalue
    have hne : r.clipCount ≠ 0 := by simpa [Resolved.clipCount] using himages
    have hgraph := graph_eq_ok himages (Timeline.isPositive_of_stands hstands hlength)
    refine ⟨_, _, _, hgraph, rfl, ?_, ?_,
      Timeline.takeTurns_windows hstands hlength hlt hne hcount, fun hgreat hwide i hi =>
        Timeline.printed_roundedBound_lt hlength hgreat hwide hi⟩
    · rw [Timeline.windows, List.map_map, List.map_map]
      refine List.map_congr_left fun i hi => ?_
      rw [gatesOf_graph hstyle hgraph (List.mem_range.mp hi), Window.expression_eq]
      rfl
    · rw [seconds_eq_exactSeconds hvalue]
      exact readDecimal?_exactSeconds hlength.le hlt
  · intro length n hn hlength hlt
    exact ⟨_, _, rfl, readDecimal?_exactSeconds hlength.le hlt,
      takeTurns_exact hn hlength hlt, fun hwide i _ => printed_bound_lt hn hlength hwide i⟩

/-- Three images that sweep. -/
def threeSlides : Resolved where
  background := ⟨"beach.mp4"⟩
  song := ⟨"song.mp3"⟩
  font := ⟨"rubik.ttf"⟩
  auxiliaryImage := ⟨"blank.jpg"⟩
  style := .slide
  caption := "mazal tov"
  images :=
    [⟨⟨"uploads/1"⟩, "first.jpg"⟩, ⟨⟨"uploads/2"⟩, "second.jpg"⟩, ⟨⟨"uploads/3"⟩, "third.jpg"⟩]

theorem gates_take_turns_threeSlides :
    (∃ g bound,
      graph threeSlides { duration := 10.0 } = .ok g ∧
      (List.range 3).map (gatesOf g) =
        [[some "gte(t,0)*lt(t,3.333)"], [some "gte(t,3.333)*lt(t,6.667)"],
          [some "gte(t,6.667)*lt(t,10)"]] ∧
      TakeTurns bound 10
        ["gte(t,0)*lt(t,3.333)", "gte(t,3.333)*lt(t,6.667)", "gte(t,6.667)*lt(t,10)"] ∧
      ∀ i < 3, bound i < bound (i + 1)) ∧
    ∃ bound,
      TakeTurns bound (1 / 250) ["gte(t,0)*lt(t,0.002)", "gte(t,0.002)*lt(t,0.004)"] ∧
      ∀ i < 2, bound i < bound (i + 1) := by
  constructor
  · have hvalue : (Number.Value.ofFloat 10.0).rational? = some 10 := by decide +kernel
    obtain ⟨g, gates, bound, hgraph, hgates, hread, -, hturns, hwide⟩ :=
      gates_take_turns.1 threeSlides { duration := 10.0 } 10 (by decide) (by decide) rfl hvalue
        (by norm_num) (by norm_num)
    have htexts : gates = ["gte(t,0)*lt(t,3.333)", "gte(t,3.333)*lt(t,6.667)",
        "gte(t,6.667)*lt(t,10)"] := by
      rw [hgates]
      decide +kernel
    have hcount : threeSlides.clipCount = 3 := rfl
    have hprinted : printed 10 = 10 := printed_natCast 10
    rw [hcount] at hread hwide
    rw [htexts] at hread hturns
    rw [hprinted] at hturns
    exact ⟨g, bound, hgraph, hread, hturns, hwide (by norm_num) (by norm_num)⟩
  · obtain ⟨gates, bound, hgates, -, hturns, hwide⟩ :=
      gates_take_turns.2.2 (1 / 250) 2 (by decide) (by norm_num) (by norm_num)
    have htexts : gates = ["gte(t,0)*lt(t,0.002)", "gte(t,0.002)*lt(t,0.004)"] := by
      rw [hgates]
      decide +kernel
    have hprinted : printed (1 / 250) = 1 / 250 := by decide +kernel
    rw [htexts, hprinted] at hturns
    exact ⟨bound, hturns, hwide (by norm_num)⟩

end VideoGreeting.Composition
