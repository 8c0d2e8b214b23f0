import VideoGreeting.Proofs.Timeline.Seconds

/-!
# Gates take turns

The engine is shown the windows of a reel only as text. Here the expression of a window is
read back: as a product of comparisons of the time with decimals, each of which is one or
zero. `gateValue?_expressionWith` says what a window's expression amounts to at a time, and
`takeTurns_of_reads` what follows for windows that share their bounds: whatever their
bounds are read as, as long as these do not go down, the gates open one after the other.
-/

namespace VideoGreeting

open Number

/-! ## Expressions -/

/-- The expression of a window whose bounds are written by `text`. -/
def Window.expressionWith {α : Type} (text : α → List Char) (w : Window α) : String :=
  s!"gte(t,{String.ofList (text w.start)})*lt(t,{String.ofList (text w.stop)})"

theorem Window.expression_eq (w : Window Float) :
    w.expression = w.expressionWith fun x => seconds (.ofFloat x) := rfl

/-- The value at a time of a comparison: `gte(t,…)` or `lt(t,…)` with a decimal. -/
def comparison? (t : ℚ) (cs : List Char) : Option ℚ := do
  let (name, rest) ← Text.splitOnce '(' cs
  let (first, rest) ← Text.splitOnce ',' rest
  let (second, rest) ← Text.splitOnce ')' rest
  let bound ← readDecimal? second
  if first = ['t'] ∧ rest = [] then
    if name = "gte".toList then some (if bound ≤ t then 1 else 0)
    else if name = "lt".toList then some (if t < bound then 1 else 0)
    else none
  else none

/-- The value at a time of a gate, a product of comparisons. -/
def gateValue? (t : ℚ) (gate : String) : Option ℚ :=
  ((Text.splitBy (· == '*') gate.toList).mapM (comparison? t)).map List.prod

/-- Whether a gate is open at a time. -/
def isOpen (t : ℚ) (gate : String) : Bool := (gateValue? t gate).any (· ≠ 0)

/-! ## The expression of a window -/

theorem isDigit_of_digits? {cs : List Char} {n : ℕ} (h : digits? cs = some n) :
    ∀ c ∈ cs, isDigit c = true := by
  unfold digits? at h
  split at h
  next => cases h
  next hdigits =>
    rw [Bool.or_eq_true, not_or] at hdigits
    exact List.all_eq_true.mp (by simpa using hdigits.2)

/-- Decimals are made of digits and points. -/
theorem of_readDecimal?_eq_some {cs : List Char} {q : ℚ} (h : readDecimal? cs = some q) :
    ∀ c ∈ cs, isDigit c = true ∨ c = '.' := by
  unfold readDecimal? at h
  split at h
  next =>
    obtain ⟨n, hn, -⟩ := Option.map_eq_some_iff.mp h
    exact fun c hc => .inl (isDigit_of_digits? hn c hc)
  next whole part hsplit =>
    obtain ⟨n, hn, h⟩ := Option.bind_eq_some_iff.mp h
    obtain ⟨k, hk, -⟩ := Option.bind_eq_some_iff.mp h
    intro c hc
    rw [Text.splitOnce_eq_some hsplit, List.mem_append, List.mem_cons] at hc
    rcases hc with hc | rfl | hc
    · exact .inl (isDigit_of_digits? hn c hc)
    · exact .inr rfl
    · exact .inl (isDigit_of_digits? hk c hc)

section Comparison

variable {cs : List Char} {q : ℚ} {mark : Char}

theorem notMem_decimal (h : readDecimal? cs = some q) (hdigit : isDigit mark = false)
    (hpoint : mark ≠ '.') : mark ∉ cs := by
  intro hmem
  rcases of_readDecimal?_eq_some h mark hmem with hmark | hmark
  · rw [hdigit] at hmark
    cases hmark
  · exact hpoint hmark

/-- What a comparison says depends on its name alone. -/
theorem comparison?_eq {name : List Char} (hname : '(' ∉ name) (h : readDecimal? cs = some q)
    (t : ℚ) :
    comparison? t (name ++ '(' :: 't' :: ',' :: (cs ++ [')'])) =
      if name = "gte".toList then some (if q ≤ t then 1 else 0)
      else if name = "lt".toList then some (if t < q then 1 else 0)
      else none := by
  have hclose : ')' ∉ cs := notMem_decimal h (by decide) (by decide)
  have hfirst : Text.splitOnce ',' ('t' :: ',' :: (cs ++ [')'])) = some (['t'], cs ++ [')']) := by
    rw [← List.singleton_append, Text.splitOnce_append (by decide)]
  unfold comparison?
  simp only [Text.splitOnce_append hname, hfirst, Text.splitOnce_append hclose, h,
    Option.bind_eq_bind, Option.bind_some, and_self, if_true]

end Comparison

/-- **A gate and its window.** If its bounds are read as `a` and `b`, the expression of a
window is one from `a` up to, and without, `b`, and zero at any other time. -/
theorem gateValue?_expressionWith {α : Type} {text : α → List Char} {w : Window α} {a b : ℚ}
    (ha : readDecimal? (text w.start) = some a) (hb : readDecimal? (text w.stop) = some b)
    (t : ℚ) :
    gateValue? t (w.expressionWith text) = some (if a ≤ t ∧ t < b then 1 else 0) := by
  have htext : (w.expressionWith text).toList =
      ("gte".toList ++ '(' :: 't' :: ',' :: (text w.start ++ [')'])) ++
        '*' :: ("lt".toList ++ '(' :: 't' :: ',' :: (text w.stop ++ [')'])) := by
    simp [Window.expressionWith]
  have hstar {cs : List Char} {q : ℚ} (h : readDecimal? cs = some q) {name : List Char}
      (hname : '*' ∉ name) :
      ∀ c ∈ name ++ '(' :: 't' :: ',' :: (cs ++ [')']), (c == '*') = false := by
    intro c hc
    rw [beq_eq_false_iff_ne]
    rintro rfl
    have hdecimal : '*' ∉ cs := notMem_decimal h (by decide) (by decide)
    simp [hname, hdecimal] at hc
  have hgte : comparison? t ("gte".toList ++ '(' :: 't' :: ',' :: (text w.start ++ [')'])) =
      some (if a ≤ t then 1 else 0) := comparison?_eq (by decide) ha t
  have hlt : comparison? t ("lt".toList ++ '(' :: 't' :: ',' :: (text w.stop ++ [')'])) =
      some (if t < b then 1 else 0) := comparison?_eq (by decide) hb t
  rw [gateValue?, htext, Text.splitBy_append_cons (by rfl),
    Text.splitBy_of_forall (hstar ha (by decide)), Text.splitBy_of_forall (hstar hb (by decide)),
    List.singleton_append, List.mapM_cons, List.mapM_cons, List.mapM_nil, hgte, hlt]
  by_cases hat : a ≤ t
  · by_cases htb : t < b
    · simp [hat, htb]
    · simp [hat, htb]
  · simp [hat]

/-! ## Gates one after the other -/

/-- Gates that open one after the other: the gate `i` from the bound `i` up to, and
without, the bound `i + 1`, all of them from zero up to, and without, `stop`. -/
structure TakeTurns (bound : ℕ → ℚ) (stop : ℚ) (gates : List String) : Prop where
  first : bound 0 = 0
  ordered : ∀ i < gates.length, bound i ≤ bound (i + 1)
  last : bound gates.length = stop
  opens : ∀ i gate, gates[i]? = some gate → ∀ t,
    gateValue? t gate = some (if bound i ≤ t ∧ t < bound (i + 1) then 1 else 0)
  once : ∀ t, gates.countP (isOpen t) = if 0 ≤ t ∧ t < stop then 1 else 0

/-- **Windows that share their bounds.** If the bounds are read as numbers that begin with
zero and do not go down, the gates of the windows between them take turns. -/
theorem takeTurns_of_reads {α : Type} {text : α → List Char} {c : ℕ → α} {b : ℕ → ℚ} {n : ℕ}
    (hread : ∀ i ≤ n, readDecimal? (text (c i)) = some (b i)) (hfirst : b 0 = 0)
    (hmono : ∀ i < n, b i ≤ b (i + 1)) :
    TakeTurns b (b n) ((Timeline.chain c n).map (Window.expressionWith text)) := by
  have hlength : ((Timeline.chain c n).map (Window.expressionWith text)).length = n := by
    simp [Timeline.chain]
  have hvalue {i : ℕ} (hi : i < n) (t : ℚ) :
      gateValue? t (Window.expressionWith text ⟨c i, c (i + 1)⟩) =
        some (if b i ≤ t ∧ t < b (i + 1) then 1 else 0) :=
    gateValue?_expressionWith (hread i hi.le) (hread (i + 1) hi) t
  -- the bounds that are read, kept at the last one behind it
  let b' (i : ℕ) : ℚ := b (min i n)
  have hmono' : Monotone b' := by
    refine monotone_nat_of_le_succ fun i => ?_
    rcases lt_or_ge i n with hi | hi
    · simpa [b', min_eq_left hi.le, min_eq_left (Nat.succ_le_of_lt hi)] using hmono i hi
    · simp [b', min_eq_right hi, min_eq_right (Nat.le_succ_of_le hi)]
  constructor
  · exact hfirst
  · rwa [hlength]
  · rw [hlength]
  · intro i gate hgate t
    obtain ⟨w, hw, rfl⟩ := by simpa using hgate
    rw [Timeline.getElem?_chain, Option.ite_none_right_eq_some] at hw
    obtain ⟨hi, hw⟩ := hw
    rw [← Option.some.inj hw]
    exact hvalue hi t
  · intro t
    have hcount := Timeline.countP_chain hmono' n t
    simp only [b', min_self, Nat.zero_min, hfirst] at hcount
    rw [← hcount, List.countP_map, Timeline.chain, Timeline.chain, List.countP_map,
      List.countP_map]
    refine List.countP_congr fun i hi => ?_
    have hi := List.mem_range.mp hi
    simp [isOpen, hvalue hi, Window.contains, min_eq_left hi.le,
      min_eq_left (Nat.succ_le_of_lt hi)]

/-! ## Exact windows -/

section Exact

variable {length : ℚ} {n : ℕ}

/-- **Exact windows.** The gates of the windows of a length take turns, up to what is read
off the length. -/
theorem takeTurns_exact (hn : n ≠ 0) (hlength : 0 < length) (hlt : length < 2 ^ 63) :
    TakeTurns (fun i => printed (Timeline.bound length n i)) (printed length)
      ((Timeline.windows length n).map (Window.expressionWith exactSeconds)) := by
  have hmono := (Timeline.bound_strictMono hn hlength).monotone
  have hzero : Timeline.bound length n 0 = 0 := by simp [Timeline.bound_eq hn]
  have hlast : Timeline.bound length n n = length := if_pos rfl
  have hnonneg (i : ℕ) : 0 ≤ Timeline.bound length n i := hzero.symm.trans_le (hmono i.zero_le)
  have hread : ∀ i ≤ n, readDecimal? (exactSeconds (Timeline.bound length n i)) =
      some (printed (Timeline.bound length n i)) := fun i hi =>
    readDecimal?_exactSeconds (hnonneg i) (((hmono hi).trans_eq hlast).trans_lt hlt)
  have hfirst : printed (Timeline.bound length n 0) = 0 := by
    rw [hzero]
    exact printed_natCast 0
  have hturns := takeTurns_of_reads hread hfirst fun i _ =>
    printed_mono (hnonneg i) (hmono i.le_succ)
  rwa [hlast] at hturns

/-- Windows of two thousandths and more are not printed as empty. -/
theorem printed_bound_lt (hn : n ≠ 0) (hlength : 0 < length) (hwide : 2 / 1000 ≤ length / n)
    (i : ℕ) :
    printed (Timeline.bound length n i) < printed (Timeline.bound length n (i + 1)) := by
  have hcast : (0 : ℚ) < n := Nat.cast_pos.mpr (Nat.pos_of_ne_zero hn)
  have hgap : Timeline.bound length n (i + 1) = Timeline.bound length n i + length / n := by
    rw [Timeline.bound_eq hn, Timeline.bound_eq hn]
    push_cast
    ring
  refine printed_lt ?_ (by linarith)
  rw [Timeline.bound_eq hn]
  positivity

end Exact

end VideoGreeting
