import VideoGreeting.Proofs.Composition.Gates
import VideoGreeting.Proofs.Timeline.Vanishing

/-!
# What the motions divide by

The numerals behind the strokes of an expression are found by reading it from left to
right. For every style they are written out in `Motion.divisors`: the halves and quarters
of the positions, the minute of a turn, and, where the motion depends on the length of the
reel, that length or its third as printed.

Main theorem: `divisorsOf_graph`.
-/

namespace VideoGreeting.Composition

open FilterGraph Number

/-! ## Reading divisors -/

/-- The numerals behind the strokes of an expression. -/
def divisors : List Char → List (List Char)
  | [] => []
  | c :: cs => if c = '/' then cs.takeWhile isNumeral :: divisors cs else divisors cs

/-- Without a stroke nothing is divided. -/
theorem divisors_append_of_notMem {cs : List Char} (h : '/' ∉ cs) (cs' : List Char) :
    divisors (cs ++ cs') = divisors cs' := by
  induction cs with
  | nil => rfl
  | cons c cs ih =>
      rw [List.mem_cons, not_or] at h
      rw [List.cons_append, divisors, if_neg (Ne.symm h.1), ih h.2]

theorem divisors_of_notMem {cs : List Char} (h : '/' ∉ cs) : divisors cs = [] := by
  have hnone := divisors_append_of_notMem h []
  rwa [List.append_nil] at hnone

/-- No numeral goes on with this text. -/
def Stops (cs : List Char) : Prop := ∀ c ∈ cs.head?, isNumeral c = false

theorem takeWhile_of_stops {cs : List Char} (h : Stops cs) : cs.takeWhile isNumeral = [] := by
  cases cs with
  | nil => rfl
  | cons c cs => exact List.takeWhile_cons_of_neg (by simp [h c rfl])

theorem takeWhile_append_of_stops {cs cs' : List Char} (h : Stops cs') :
    (cs ++ cs').takeWhile isNumeral = cs.takeWhile isNumeral := by
  rw [List.takeWhile_append, takeWhile_of_stops h, List.append_nil]
  split
  next hall => exact ((List.takeWhile_prefix isNumeral).eq_of_length hall).symm
  next => rfl

/-- Expressions are read apart where the second does not go on with a numeral. -/
theorem divisors_append (cs : List Char) {cs' : List Char} (h : Stops cs') :
    divisors (cs ++ cs') = divisors cs ++ divisors cs' := by
  induction cs with
  | nil => rfl
  | cons c cs ih =>
      rw [List.cons_append, divisors, divisors, ih, takeWhile_append_of_stops h]
      split
      · rfl
      · rfl

/-- A numeral between a stroke and something else is a divisor. -/
theorem divisors_around (front : List Char) {numeral back : List Char}
    (hnumeral : ∀ c ∈ numeral, isNumeral c = true) (hback : Stops back) :
    divisors (front ++ '/' :: (numeral ++ back)) =
      divisors front ++ numeral :: divisors back := by
  have hstroke : Stops ('/' :: (numeral ++ back)) := by
    intro c hc
    obtain rfl := Option.some.inj hc
    rfl
  have hnone : '/' ∉ numeral := fun hmem => absurd (hnumeral _ hmem) (by decide)
  rw [divisors_append front hstroke, divisors, if_pos rfl, takeWhile_append_of_stops hback,
    List.takeWhile_eq_self_iff.mpr hnumeral, divisors_append_of_notMem hnone]

/-! ## The divisors of a motion -/

/-- The divisors in the filters of some chains. -/
def divisorsIn (chains : List Chain) : List (List Char) :=
  chains.flatMap fun c => c.filters.flatMap fun filter => divisors filter.toList

/-- The divisors of a motion, in the order in which they are written. -/
def motionDivisors (style : Style) (duration : Float) : List String :=
  match style with
  | .slide => ["2", "4", secondsText duration, "2"]
  | .bounce => ["2", "4", secondsText duration, "2", "4", secondsText duration]
  | .zoom => [secondsText (duration / 3.0), "2", "2"]
  | .rotate => ["60", "2", "2"]
  | .fade => ["2", "2"]
  | .unrecognized _ => []

theorem stops_cons {c : Char} (h : isNumeral c = false) (cs : List Char) : Stops (c :: cs) := by
  intro c' hc
  obtain rfl := Option.some.inj hc
  exact h

theorem divisors_centerX : divisors Motion.centerX.toList = ["2".toList] := by decide

theorem divisors_centerY : divisors Motion.centerY.toList = ["2".toList] := by decide

/-- Nothing is divided in a window. -/
theorem divisors_gateText (gate : Option (Window Float)) :
    divisors (Motion.gateText gate).toList = [] := by
  cases gate with
  | none => rfl
  | some w =>
      apply divisors_of_notMem
      have hseconds (x : Float) : '/' ∉ (secondsText x).toList := fun hmem =>
        absurd (isNumeral_of_mem_secondsText hmem) (by decide)
      simp [Motion.gateText, Motion.protect, Window.expression, hseconds]

theorem divisors_protect (expression : String) :
    divisors (Motion.protect expression).toList = divisors expression.toList := by
  have htext : (Motion.protect expression).toList = '\'' :: (expression.toList ++ ['\'']) := by
    simp [Motion.protect]
  rw [htext, divisors, if_neg (by decide), divisors_append _ (stops_cons (by decide) _)]
  simp [divisors]

/-- An overlay divides where its position does. -/
theorem divisorsIn_overlay (top : Label) (x y : String) (gate : Option (Window Float)) :
    divisorsIn [Motion.overlay top x y gate] = divisors x.toList ++ divisors y.toList := by
  have htext : (s!"overlay=x={x}:y={y}{Motion.gateText gate}").toList =
      "overlay=x=".toList ++ (x.toList ++ ':' :: ("y=".toList ++
        (y.toList ++ (Motion.gateText gate).toList))) := by
    simp
  have hgate : Stops (Motion.gateText gate).toList := by
    cases gate with
    | none => exact nofun
    | some w =>
        have hopen : (Motion.gateText (some w)).toList =
            ':' :: ("enable=".toList ++ (Motion.protect w.expression).toList) := by
          simp [Motion.gateText]
        rw [hopen]
        exact stops_cons (by decide) _
  rw [divisorsIn, List.flatMap_singleton, Motion.overlay, List.flatMap_singleton, htext,
    divisors_append_of_notMem (by decide), divisors_append _ (stops_cons (by decide) _),
    divisors, if_neg (by decide), divisors_append_of_notMem (by decide),
    divisors_append _ hgate, divisors_gateText, List.append_nil]

theorem divisorsIn_cons (c : Chain) (chains : List Chain) :
    divisorsIn (c :: chains) =
      (c.filters.flatMap fun filter => divisors filter.toList) ++ divisorsIn chains := rfl

/-- **The divisors of a motion.** Whatever the clip and its window are, a motion divides
by constants and, in the styles that depend on the length of the reel, by that length or
its third as printed. -/
theorem divisorsIn_chains (style : Style) (i : ℕ) (w : Window Float) (duration : Float) :
    divisorsIn (Motion.chains style i w duration) =
      (motionDivisors style duration).map String.toList := by
  have hseconds (x : Float) : ∀ c ∈ (secondsText x).toList, isNumeral c = true := fun _ hc =>
    isNumeral_of_mem_secondsText hc
  have hclose : Stops [')'] := stops_cons (by decide) _
  have hclose' : Stops [')', ')'] := stops_cons (by decide) _
  cases style with
  | slide =>
      have hsweep : (s!"{Motion.centerX}+(W/4)*sin(PI*t/{secondsText duration})").toList =
          (Motion.centerX ++ "+(W/4)*sin(PI*t").toList ++
            '/' :: ((secondsText duration).toList ++ [')']) := by
        simp
      have hfront : divisors (Motion.centerX ++ "+(W/4)*sin(PI*t").toList =
          ["2".toList, "4".toList] := by decide +kernel
      rw [Motion.chains, divisorsIn_overlay, divisors_protect, hsweep,
        divisors_around _ (hseconds duration) hclose, hfront, divisors_centerY]
      rfl
  | bounce =>
      have hsweep : (s!"{Motion.centerX}+(W/4)*sin(2*PI*t/{secondsText duration})").toList =
          (Motion.centerX ++ "+(W/4)*sin(2*PI*t").toList ++
            '/' :: ((secondsText duration).toList ++ [')']) := by
        simp
      have hbounce :
          (s!"{Motion.centerY}+(H/4)*abs(sin(2*PI*t/{secondsText duration}))").toList =
            (Motion.centerY ++ "+(H/4)*abs(sin(2*PI*t").toList ++
              '/' :: ((secondsText duration).toList ++ [')', ')']) := by
        simp
      have hfront : divisors (Motion.centerX ++ "+(W/4)*sin(2*PI*t").toList =
          ["2".toList, "4".toList] := by decide +kernel
      have hfront' : divisors (Motion.centerY ++ "+(H/4)*abs(sin(2*PI*t").toList =
          ["2".toList, "4".toList] := by decide +kernel
      rw [Motion.chains, divisorsIn_overlay, divisors_protect, divisors_protect, hsweep, hbounce,
        divisors_around _ (hseconds duration) hclose,
        divisors_around _ (hseconds duration) hclose', hfront, hfront']
      rfl
  | zoom =>
      have hramp (ramp : String) :
          (s!"scale='min(iw*1.5,iw*0.1+(iw*1.4*t/{ramp}))':-1:eval=frame").toList =
            "scale='min(iw*1.5,iw*0.1+(iw*1.4*t".toList ++
              '/' :: (ramp.toList ++ "))':-1:eval=frame".toList) := by
        simp
      have hfront : divisors "scale='min(iw*1.5,iw*0.1+(iw*1.4*t".toList = [] := by decide
      have hend : Stops "))':-1:eval=frame".toList := stops_cons (by decide) _
      have hback : divisors "))':-1:eval=frame".toList = [] := by decide
      rw [Motion.chains, divisorsIn_cons, divisorsIn_overlay, Motion.stage, List.flatMap_singleton,
        hramp, divisors_around _ (hseconds _) hend, hfront, hback, divisors_protect,
        divisors_protect, divisors_centerX, divisors_centerY]
      rfl
  | rotate =>
      have hturn : divisors "rotate='4*PI*t/60':c=none".toList = ["60".toList] := by decide
      rw [Motion.chains, divisorsIn_cons, divisorsIn_overlay, Motion.stage, List.flatMap_singleton,
        hturn, divisors_protect, divisors_protect, divisors_centerX, divisors_centerY]
      rfl
  | fade =>
      have hfade :
          (["format=rgba", "fade=in:st=0:d=1:alpha=1", "fade=out:st=4:d=3:alpha=0"].flatMap
            fun filter => divisors filter.toList) = [] := by decide
      have hloop : divisors "loop=loop=-1:size=70:start=0".toList = [] := by decide
      rw [Motion.chains, divisorsIn_cons, divisorsIn_cons, divisorsIn_overlay, Motion.stage,
        Motion.stage, hfade, List.flatMap_singleton, hloop, divisors_centerX, divisors_centerY]
      rfl
  | unrecognized name => rfl

/-! ## Divisors that are zero -/

/-- Every divisor is a number, and one of them is zero if the length of the reel, in a
sweep, or its third, in a zoom, is printed as zero. -/
theorem zero_mem_motionDivisors_iff {duration : Float} {length : ℚ} (style : Style)
    (hlength : 0 < length) (h : (Value.ofFloat duration).rational? = some length) :
    (∀ d ∈ motionDivisors style duration, (readSigned? d.toList).isSome = true) ∧
      (some 0 ∈ (motionDivisors style duration).map (fun d => readSigned? d.toList) ↔
        (style = .slide ∨ style = .bounce) ∧ length ≤ 1 / 2000 ∨
          style = .zoom ∧ length ≤ 3 / 2000) := by
  have hstands := stands_third (stands_of_rational? hlength h)
  have hperiod := readSigned?_secondsText h
  have hthird := readSigned?_secondsText hstands.rational?
  -- what is read of the two is zero under these conditions
  have hzero := readSigned?_secondsText_eq_zero_iff hlength.le h
  have hzero' := readSigned?_third_eq_zero_iff hlength h
  rw [hperiod, Option.some.injEq, eq_comm] at hzero
  rw [hthird, Option.some.injEq, eq_comm] at hzero'
  obtain ⟨htwo, hfour, hsixty⟩ : readSigned? ['2'] = some 2 ∧ readSigned? ['4'] = some 4 ∧
      readSigned? ['6', '0'] = some 60 := by decide +kernel
  constructor
  · cases style with
    | slide | bounce => simp [motionDivisors, htwo, hfour, hperiod]
    | zoom => simp [motionDivisors, htwo, hthird]
    | rotate => simp [motionDivisors, htwo, hsixty]
    | fade => simp [motionDivisors, htwo]
    | unrecognized name => simp [motionDivisors]
  · cases style with
    | slide | bounce => simp [motionDivisors, htwo, hfour, hperiod, hzero]
    | zoom => simp [motionDivisors, htwo, hthird, hzero']
    | rotate => simp [motionDivisors, htwo, hsixty]
    | fade => simp [motionDivisors, htwo]
    | unrecognized name => simp [motionDivisors]

/-! ## The divisors of a reel -/

/-- The divisors that a graph has for the motion of a clip. -/
def divisorsOf (g : Graph) (clip : ℕ) : List (List Char) :=
  (g.fragments.filter (moves clip)).flatMap fun f => divisorsIn f.chains

/-- **The divisors of a reel.** -/
theorem divisorsOf_graph {r : Resolved} {s : Settings} {g : Graph} (h : graph r s = .ok g)
    {i : ℕ} (hi : i < r.clipCount) :
    divisorsOf g i = (motionDivisors r.style s.duration).map String.toList := by
  obtain ⟨himages, hduration⟩ := of_graph_eq_ok h
  rw [graph_eq_ok himages hduration] at h
  cases h
  rw [divisorsOf, filter_moves hi, List.flatMap_singleton]
  exact divisorsIn_chains r.style i _ s.duration

end VideoGreeting.Composition
