import VideoGreeting.Proofs.Disk.Growth
import VideoGreeting.Proofs.Http.Serving
import VideoGreeting.Proofs.Production.Outcome
import VideoGreeting.Proofs.Production.Together
import VideoGreeting.Proofs.Service.Substance

/-!
# Addresses of finished reels

A finished reel comes with the path under which it is served. That path is put
together from the setting for it, while the router makes a mount of the same
setting, and the two treat slashes differently: the path keeps those at the start, and
without a name in the setting there is no mount at all.

`reel_of_make` says what a finished reel is called, `fromTop?_urlOf` which path its
address leads to, `route_of_core` and `route_of_name` where a request for that path goes.
Main theorem: `reel_served`.
-/

namespace VideoGreeting

open Text

/-! ## Names of reels -/

namespace Production

open Disk

variable {studio : Studio} {engine : Engine.Command → Engine.Run} {now : Int}
  {selection : Selection} {d d' : Disk} {reel : Reel} {command : Option Engine.Command}

/-- A finished reel is in a file that was reserved for it. -/
theorem reel_of_make
    (h : make studio engine now d selection = (.finished (.ok reel) command, d')) :
    ∃ attempt, reel = .of studio.settings (candidate studio.settings.resolvedOutputFolder
      (outputStem now) reelExtension attempt) := by
  have hends : Stage.finished (.ok reel) command =
      conclude studio.settings engine (jobOf studio now d selection) := by
    rw [← (make_endsWith studio engine now d selection).leads]
    exact (congrArg Prod.fst h).symm
  cases hjob : jobOf studio now d selection with
  | error failure =>
      rw [hjob] at hends
      cases hends
  | ok job =>
      have hreel : reel = .of studio.settings job.output := by
        rw [hjob, conclude] at hends
        split at hends
        next => cases hends
        next => exact Except.ok.inj (Production.Stage.finished.inj hends).1
        next => cases hends
      simp only [jobOf, bind_eq_ok] at hjob
      obtain ⟨r, -, hprepare⟩ := hjob
      obtain ⟨d₁, d₂, -, hreserve⟩ := of_prepare_eq_ok hprepare
      obtain ⟨⟨attempt, hattempt⟩, -⟩ := of_reserveFrom_eq_ok hreserve
      exact ⟨attempt, by rw [hreel, hattempt]⟩

/-- A run keeps a stage fit, and what it holds stands. -/
theorem stands_advance (engine : Engine.Command → Engine.Run) (now : Int)
    (houtside : Outside studio selection) (n : Nat) {stage : Stage}
    (hfits : Fits studio selection stage) (hstands : ∀ p ∈ stage.output?, Stands studio d p) :
    ∀ p ∈ (advance studio engine now n (stage, d)).1.output?,
      Stands studio (advance studio engine now n (stage, d)).2 p := by
  induction n generalizing stage d with
  | zero => exact hstands
  | succ n ih =>
      have hproceeds := proceeds_step engine now houtside hfits hstands
      exact ih (hproceeds.fits _ rfl) fun p hp => (hproceeds.output p hp).2

/-- A finished reel can be read. -/
theorem read_reel (houtside : Outside studio selection)
    (h : make studio engine now d selection = (.finished (.ok reel) command, d')) :
    ∃ content, d'.read reel.path = .ok content := by
  have hmake : advance studio engine now (stepBound selection) (.received selection, d) =
      (.finished (.ok reel) command, d') := h
  have hstands : Stands studio d' reel.path := by
    have hfits : Fits studio selection (.received selection) := rfl
    have hnone : ∀ p ∈ Stage.output? (.received selection), Stands studio d p := by
      intro p hp
      cases hp
    have hrun := stands_advance engine now houtside (stepBound selection) hfits hnone
    rw [hmake] at hrun
    exact hrun reel.path rfl
  obtain ⟨content, hcontent⟩ := Option.ne_none_iff_exists'.mp hstands.isFile
  exact ⟨content, read_of_reaches hstands.reaches hcontent⟩

/-- The characters of names of reels. -/
def isNameChar (c : Char) : Bool := Number.isNumeral c || c == '_'

theorem plain_of_isNameChar {c : Char} (h : isNameChar c = true) :
    isAscii c = true ∧ c ≠ '%' ∧ c ≠ '/' := by
  refine ⟨?_, ?_, ?_⟩
  · simp only [isNameChar, Number.isNumeral, Bool.or_eq_true, beq_iff_eq] at h
    rcases h with ((h | rfl) | rfl) | rfl
    · exact isAscii_of_isAlphanum h
    · rfl
    · rfl
    · rfl
  · rintro rfl
    exact absurd h (by decide)
  · rintro rfl
    exact absurd h (by decide)

/-- What the name of a reel begins and ends with, and what it is made of. -/
theorem toList_candidateName (now : Int) (attempt : Nat) :
    ∃ middle : List Char, middle.all isNameChar = true ∧
      (candidateName (outputStem now) reelExtension attempt).toList = 'o' :: middle ++ ['4'] := by
  have hnow : (toString now).toList.all isNameChar = true := by
    rw [List.all_eq_true]
    intro c hc
    rw [isNameChar, Number.isNumeral_of_mem_int hc, Bool.true_or]
  have hattempt : (toString attempt).toList.all isNameChar = true := by
    rw [List.all_eq_true]
    intro c hc
    rw [isNameChar, Number.isNumeral_of_mem_nat hc, Bool.true_or]
  have hstem : (outputStem now).toList = 'o' :: ("utput_".toList ++ (toString now).toList) := by
    simp [outputStem]
  unfold candidateName
  by_cases hfirst : attempt = 0
  · refine ⟨"utput_".toList ++ (toString now).toList ++ ".mp".toList, ?_, ?_⟩
    · rw [List.all_append, List.all_append, hnow]
      decide
    · rw [if_pos hfirst]
      simp [hstem, reelExtension]
  · refine ⟨"utput_".toList ++ (toString now).toList ++ "-".toList ++
      (toString attempt).toList ++ ".mp".toList, ?_, ?_⟩
    · rw [List.all_append, List.all_append, List.all_append, List.all_append, hnow, hattempt]
      decide
    · rw [if_neg hfirst]
      simp [hstem, reelExtension]

theorem getLast?_candidateName (now : Int) (attempt : Nat) :
    (candidateName (outputStem now) reelExtension attempt).toList.getLast? = some '4' := by
  obtain ⟨middle, -, hname⟩ := toList_candidateName now attempt
  rw [hname, List.getLast?_concat]

theorem isNameChar_of_mem {now : Int} {attempt : Nat} {c : Char}
    (hc : c ∈ (candidateName (outputStem now) reelExtension attempt).toList) :
    isNameChar c = true := by
  obtain ⟨middle, hmiddle, hname⟩ := toList_candidateName now attempt
  rw [hname, List.cons_append, List.mem_cons, List.mem_append, List.mem_singleton] at hc
  rcases hc with rfl | hc | rfl
  · rfl
  · exact List.all_eq_true.mp hmiddle c hc
  · rfl

theorem isPlainName_candidateName (now : Int) (attempt : Nat) :
    IsPlainName (candidateName (outputStem now) reelExtension attempt) := by
  obtain ⟨middle, -, hname⟩ := toList_candidateName now attempt
  have hne (s : String) (hs : s.toList.head? ≠ some 'o') :
      candidateName (outputStem now) reelExtension attempt ≠ s := by
    rintro rfl
    rw [hname] at hs
    exact hs rfl
  exact
    { chars := fun c hc => plain_of_isNameChar (isNameChar_of_mem hc)
      ne_nil := hne _ (by simp)
      ne_dot := hne _ (by simp)
      ne_up := hne _ (by simp) }

theorem Stage.of_reel?_eq_some {stage : Stage} (h : stage.reel? = some reel) :
    ∃ command, stage = .finished (.ok reel) command := by
  cases stage with
  | finished result command =>
      cases result with
      | error failure => cases h
      | ok made =>
          obtain rfl : made = reel := Option.some.inj h
          exact ⟨command, rfl⟩
  | received | opening | reserving | checking | rendering => cases h

/-- The run with the disk that it leaves, from the reel alone. -/
theorem make_of_reel? (h : (make studio engine now d selection).1.reel? = some reel) :
    ∃ command, make studio engine now d selection =
      (.finished (.ok reel) command, (make studio engine now d selection).2) := by
  obtain ⟨command, hstage⟩ := Stage.of_reel?_eq_some h
  exact ⟨command, Prod.ext hstage rfl⟩

/-- A finished reel is called by a plain name in the output folder. -/
theorem exists_name_of_make
    (h : make studio engine now d selection = (.finished (.ok reel) command, d')) :
    ∃ name, IsPlainName name ∧ name.toList.getLast? = some '4' ∧
      (∀ c ∈ name.toList, isNameChar c = true) ∧
      reel.path = studio.settings.resolvedOutputFolder.join ⟨name⟩ ∧
      reel.url = studio.settings.urlOf (studio.settings.resolvedOutputFolder.join ⟨name⟩) := by
  obtain ⟨attempt, rfl⟩ := reel_of_make h
  refine ⟨candidateName (outputStem now) reelExtension attempt,
    isPlainName_candidateName now attempt, getLast?_candidateName now attempt,
    fun c hc => isNameChar_of_mem hc, ?_, ?_⟩
  · rw [Reel.of, candidate]
  · rw [Reel.of, candidate]

end Production

/-! ## The setting for addresses -/

/-- Whether a character stands for itself wherever it is in an address. -/
def isUnreserved (c : Char) : Bool := c.isAlphanum || "-._~".toList.contains c

/-- The text of a setting without the slashes at its ends. -/
def coreOf (setting : String) : List Char := stripBy (· == '/') setting.toList

/-- A setting of slashes and of segments that stand for themselves. -/
structure IsAddress (setting : String) : Prop where
  chars : ∀ c ∈ setting.toList, c = '/' ∨ isUnreserved c = true
  segments : ∀ segment ∈ splitBy (· == '/') (coreOf setting),
    segment ≠ ['.'] ∧ segment ≠ ['.', '.']

theorem Production.isUnreserved_of_isNameChar {c : Char} (h : Production.isNameChar c = true) :
    isUnreserved c = true := by
  simp only [Production.isNameChar, Number.isNumeral, Bool.or_eq_true, beq_iff_eq] at h
  rcases h with ((h | rfl) | rfl) | rfl
  · rw [isUnreserved, h, Bool.true_or]
  · rfl
  · rfl
  · rfl

theorem ne_mark {c : Char} (h : c = '/' ∨ isUnreserved c = true) :
    c ≠ '?' ∧ c ≠ '#' ∧ c ≠ ':' := by
  rcases h with rfl | h
  · decide
  · refine ⟨?_, ?_, ?_⟩
    all_goals
      rintro rfl
      exact absurd h (by decide)

/-- The slashes at the start, then the core: what is left of a setting in an address. -/
theorem exists_slashes (setting : String) :
    ∃ slashes, stripEndBy (· == '/') setting.toList = slashes ++ coreOf setting ∧
      ∀ c ∈ slashes, c = '/' := by
  refine ⟨(stripEndBy (· == '/') setting.toList).takeWhile (· == '/'), ?_, ?_⟩
  · rw [coreOf, ← dropWhile_stripEndBy, List.takeWhile_append_dropWhile]
  · intro c hc
    simpa using List.mem_takeWhile_imp hc

theorem mem_of_mem_coreOf {setting : String} {c : Char} (h : c ∈ coreOf setting) :
    c ∈ setting.toList := by
  have hreverse := (List.dropWhile_sublist _).subset (List.mem_reverse.mp h)
  exact (List.dropWhile_sublist _).subset (List.mem_reverse.mp hreverse)

/-- The core begins with no slash. -/
theorem coreOf_ne_slash {setting : String} {c : Char} {rest : List Char}
    (h : coreOf setting = c :: rest) : c ≠ '/' := by
  rw [coreOf, ← dropWhile_stripEndBy] at h
  have hhead := List.head?_dropWhile_not (· == '/') (stripEndBy (· == '/') setting.toList)
  rw [h] at hhead
  simpa using hhead

theorem coreOf_eq_nil_iff (setting : String) :
    coreOf setting = [] ↔ ∀ c ∈ setting.toList, c = '/' := by
  rw [coreOf, stripBy_eq_nil_iff]
  simp only [beq_iff_eq]

/-- One slash at the start at most, unless the setting begins with two. -/
theorem slashes_cases {setting : String} {slashes : List Char} (hcore : coreOf setting ≠ [])
    (h : stripEndBy (· == '/') setting.toList = slashes ++ coreOf setting)
    (hslashes : ∀ c ∈ slashes, c = '/') :
    (¬['/', '/'] <+: setting.toList → slashes = [] ∨ slashes = ['/']) ∧
      (['/', '/'] <+: setting.toList → ['/', '/'] <+: slashes) := by
  have hprefix : slashes ++ coreOf setting <+: setting.toList := by
    rw [← h]
    exact List.rdropWhile_prefix _ _
  obtain ⟨c, rest, hc⟩ := List.exists_cons_of_ne_nil hcore
  have hne := coreOf_ne_slash hc
  rw [hc] at hprefix
  match slashes, hslashes with
  | [], _ =>
      refine ⟨fun _ => .inl rfl, fun htwo => ?_⟩
      obtain ⟨tail, htail⟩ := htwo
      rw [← htail] at hprefix
      exact absurd (List.cons_prefix_cons.mp hprefix).1 hne
  | [slash], hslashes =>
      obtain rfl := hslashes slash List.mem_cons_self
      refine ⟨fun _ => .inr rfl, fun htwo => ?_⟩
      obtain ⟨tail, htail⟩ := htwo
      rw [← htail] at hprefix
      have hsecond := (List.cons_prefix_cons.mp hprefix).2
      exact absurd (List.cons_prefix_cons.mp hsecond).1 hne
  | first :: second :: slashes, hslashes =>
      obtain rfl := hslashes first List.mem_cons_self
      obtain rfl := hslashes second (List.mem_cons_of_mem _ List.mem_cons_self)
      have htwo : ['/', '/'] <+: '/' :: '/' :: slashes := ⟨slashes, rfl⟩
      refine ⟨fun hnot => absurd ?_ hnot, fun _ => htwo⟩
      exact htwo.trans ((List.prefix_append _ _).trans hprefix)

/-- The address of a file with a plain name. -/
theorem urlOf_join (s : Settings) (folder : Path) {name : String} (hname : IsPlainName name) :
    s.urlOf (folder.join ⟨name⟩) =
      if stripEndBy (· == '/') s.servedUnder.toList = [] then name
      else String.ofList (stripEndBy (· == '/') s.servedUnder.toList ++ '/' :: name.toList) := by
  unfold Settings.urlOf
  dsimp only
  rw [Path.fileName?_join folder hname, Option.getD_some]
  by_cases hfront : stripEndBy (· == '/') s.servedUnder.toList = []
  · rw [if_pos hfront, hfront]
    rfl
  · rw [if_neg hfront, if_neg]
    · rw [← String.toList_inj]
      simp
    · rw [String.isEmpty_iff, ← String.toList_inj, String.toList_ofList]
      exact hfront

/-! ## Resolving an address -/

/-- The segments of a path once one dot is left out and two dots have taken away the
segment before; either of them at the end stands for a folder. -/
def withoutSteps (front : List (List Char)) : List (List Char) → List (List Char)
  | [] => front
  | segment :: rest =>
    let front :=
      if segment = ['.'] then front
      else if segment = ['.', '.'] then front.dropLast
      else front ++ [segment]
    if rest.isEmpty && (segment == ['.'] || segment == ['.', '.']) then front ++ [[]]
    else withoutSteps front rest

theorem withoutSteps_eq {segments : List (List Char)}
    (h : ∀ segment ∈ segments, segment ≠ ['.'] ∧ segment ≠ ['.', '.'])
    (front : List (List Char)) : withoutSteps front segments = front ++ segments := by
  induction segments generalizing front with
  | nil => rw [withoutSteps, List.append_nil]
  | cons segment rest ih =>
      obtain ⟨⟨hdot, hdots⟩, hrest⟩ := List.forall_mem_cons.mp h
      have hend : (segment == ['.'] || segment == ['.', '.']) = false := by
        rw [beq_false_of_ne hdot, beq_false_of_ne hdots]
        rfl
      rw [withoutSteps, if_neg hdot, if_neg hdots, hend, Bool.and_false,
        if_neg Bool.false_ne_true, ih hrest, List.append_assoc]
      rfl

/-- The path that an address without a protocol leads to from the top of a site. After
two slashes at its start it names another site. -/
def fromTop? (address : String) : Option String :=
  if ['/', '/'].isPrefixOf address.toList then none
  else
    let segments := splitBy (· == '/') (address.toList.dropWhile (· == '/'))
    some (String.ofList ('/' :: ['/'].intercalate (withoutSteps [] segments)))

theorem fromTop?_eq {slashes body : List Char} (hslashes : slashes = [] ∨ slashes = ['/'])
    (hbody : body.head? ≠ some '/')
    (hsteps : ∀ segment ∈ splitBy (· == '/') body, segment ≠ ['.'] ∧ segment ≠ ['.', '.']) :
    fromTop? (String.ofList (slashes ++ body)) = some (String.ofList ('/' :: body)) := by
  have hsite : ['/', '/'].isPrefixOf (slashes ++ body) = false := by
    cases body with
    | nil => rcases hslashes with rfl | rfl <;> rfl
    | cons c rest =>
        have hc : c ≠ '/' := fun h => hbody (by rw [h]; rfl)
        rcases hslashes with rfl | rfl <;> simp [List.isPrefixOf, hc.symm]
  have hdrop : (slashes ++ body).dropWhile (· == '/') = body := by
    have hstay : body.dropWhile (· == '/') = body := by
      cases body with
      | nil => rfl
      | cons c rest =>
          rw [List.dropWhile_cons_of_neg]
          intro h
          exact hbody (by rw [eq_of_beq h]; rfl)
    rcases hslashes with rfl | rfl
    · exact hstay
    · exact hstay
  unfold fromTop?
  rw [String.toList_ofList, hsite, if_neg Bool.false_ne_true, hdrop]
  dsimp only
  rw [withoutSteps_eq hsteps, List.nil_append, intercalate_splitBy]

section Urls

variable {s : Settings} {name : String} (folder : Path)

theorem urlOf_join_of_core (hname : IsPlainName name) (hcore : coreOf s.servedUnder ≠ [])
    {slashes : List Char}
    (hslashes : stripEndBy (· == '/') s.servedUnder.toList = slashes ++ coreOf s.servedUnder) :
    s.urlOf (folder.join ⟨name⟩) =
      String.ofList (slashes ++ (coreOf s.servedUnder ++ '/' :: name.toList)) := by
  rw [urlOf_join s folder hname, hslashes, if_neg, List.append_assoc]
  intro hnil
  exact hcore (List.append_eq_nil_iff.mp hnil).2

/-- With a segment and one slash before it at most, the path is the core and the name. -/
theorem fromTop?_urlOf (hsetting : IsAddress s.servedUnder) (hname : IsPlainName name)
    (hcore : coreOf s.servedUnder ≠ []) (hstart : ¬['/', '/'] <+: s.servedUnder.toList) :
    fromTop? (s.urlOf (folder.join ⟨name⟩)) =
      some (String.ofList ('/' :: (coreOf s.servedUnder ++ '/' :: name.toList))) := by
  obtain ⟨slashes, hfront, hslashes⟩ := exists_slashes s.servedUnder
  rw [urlOf_join_of_core folder hname hcore hfront]
  apply fromTop?_eq ((slashes_cases hcore hfront hslashes).1 hstart)
  · obtain ⟨c, rest, hc⟩ := List.exists_cons_of_ne_nil hcore
    rw [hc]
    intro hhead
    exact coreOf_ne_slash hc (Option.some.inj hhead)
  · rw [splitBy_append_cons (by rfl), hname.splitBy]
    intro segment hsegment
    rcases List.mem_append.mp hsegment with hsegment | hsegment
    · exact hsetting.segments segment hsegment
    · rw [List.mem_singleton.mp hsegment]
      exact hname.not_steps

theorem fromTop?_urlOf_of_slashes (hname : IsPlainName name)
    (hcore : coreOf s.servedUnder ≠ []) (hstart : ['/', '/'] <+: s.servedUnder.toList) :
    fromTop? (s.urlOf (folder.join ⟨name⟩)) = none := by
  obtain ⟨slashes, hfront, hslashes⟩ := exists_slashes s.servedUnder
  obtain ⟨more, rfl⟩ := (slashes_cases hcore hfront hslashes).2 hstart
  rw [urlOf_join_of_core folder hname hcore hfront]
  unfold fromTop?
  rw [String.toList_ofList, if_pos]
  simp [List.isPrefixOf]

/-- Without a segment the path is the name. -/
theorem fromTop?_urlOf_of_nil (hname : IsPlainName name) (hcore : coreOf s.servedUnder = []) :
    fromTop? (s.urlOf (folder.join ⟨name⟩)) = some (String.ofList ('/' :: name.toList)) := by
  have hstrip : stripEndBy (· == '/') s.servedUnder.toList = [] := by
    show s.servedUnder.toList.rdropWhile (· == '/') = []
    rw [List.rdropWhile_eq_nil_iff]
    intro c hc
    exact beq_iff_eq.mpr ((coreOf_eq_nil_iff _).mp hcore c hc)
  have hhead : name.toList.head? ≠ some '/' := by
    intro hhead
    exact hname.slash_notMem (List.mem_of_head? hhead)
  rw [urlOf_join s folder hname, if_pos hstrip]
  have h := fromTop?_eq (.inl rfl) hhead (by
    rw [hname.splitBy]
    intro segment hsegment
    rw [List.mem_singleton.mp hsegment]
    exact hname.not_steps)
  rw [List.nil_append, String.ofList_toList] at h
  exact h

end Urls

/-! ## Routes -/

namespace Service

open Http

section Routes

variable {s : Service} {path : String}

/-- Paths that end like the name of a reel are not those of the named routes. -/
theorem find?_named (h : path.toList.getLast? = some '4') :
    (Route.named s).find? (fun (name, _) => path == "/" ++ name) = none := by
  have hnames : ∀ entry ∈ Route.named s, ("/" ++ entry.1).toList.getLast? ≠ some '4' := by
    unfold Route.named
    by_cases hmetrics : s.settings.metricsEnabled = true
    · rw [if_pos hmetrics]
      decide
    · rw [if_neg hmetrics]
      decide
  rw [List.find?_eq_none]
  rintro ⟨name, route⟩ hentry heq
  exact hnames _ hentry (by rw [← eq_of_beq heq, h])

theorem isNamedFolder_eq_false (h : path.toList.getLast? = some '4') (m : Mount) :
    isNamedFolder s m path = false := by
  unfold isNamedFolder
  rw [List.any_eq_false]
  rintro ⟨name, route⟩ -
  have hne : path ≠ s!"/{name}/" := by
    rintro rfl
    have hend : (s!"/{name}/").toList = '/' :: name.toList ++ ['/'] := by simp
    rw [hend, List.getLast?_concat] at h
    cases h
  dsimp only
  rw [beq_false_of_ne hne]
  exact Bool.false_ne_true

theorem getLast?_append_name (front : List Char) {name : List Char}
    (hlast : name.getLast? = some '4') : (front ++ name).getLast? = some '4' := by
  obtain ⟨start, rfl⟩ := List.getLast?_eq_some_iff.mp hlast
  rw [← List.append_assoc, List.getLast?_concat]

/-- Below the mount, a request goes to the finished reels. -/
theorem route_of_core {name : String} (hname : IsPlainName name)
    (hlast : name.toList.getLast? = some '4')
    (hcore : coreOf s.studio.settings.servedUnder ≠ [])
    (hcolon : ':' ∉ coreOf s.studio.settings.servedUnder) :
    Route.of s (String.ofList
        ('/' :: (coreOf s.studio.settings.servedUnder ++ '/' :: name.toList))) =
      .reels (String.ofList ('/' :: name.toList)) := by
  have hend : (String.ofList ('/' :: (coreOf s.studio.settings.servedUnder ++
      '/' :: name.toList))).toList.getLast? = some '4' := by
    rw [String.toList_ofList, List.append_cons, ← List.cons_append]
    exact getLast?_append_name _ hlast
  have hmount : Mount.ofText? s.studio.settings.servedUnder =
      some ⟨splitBy (· == '/') (coreOf s.studio.settings.servedUnder)⟩ := by
    unfold Mount.ofText?
    split
    next hnil => exact absurd hnil hcore
    next => rfl
  have hsplit : Mount.split (String.ofList ('/' :: (coreOf s.studio.settings.servedUnder ++
      '/' :: name.toList))) =
        splitBy (· == '/') (coreOf s.studio.settings.servedUnder) ++ [name.toList] := by
    rw [Mount.split, String.toList_ofList, List.drop_one, List.tail_cons,
      splitBy_append_cons (by rfl), hname.splitBy]
  have hreel : reelPath? s (String.ofList ('/' :: (coreOf s.studio.settings.servedUnder ++
      '/' :: name.toList))) = some (String.ofList ('/' :: name.toList)) := by
    rw [reelPath?, hmount, Option.bind_eq_bind, Option.bind_some, isNamedFolder_eq_false hend,
      if_neg Bool.false_ne_true]
    refine Mount.below?_append (fun segment hsegment hmem => ?_) hname.slash_notMem hsplit
    exact hcolon (mem_of_mem_splitBy hsegment hmem)
  rw [Route.of, find?_named hend, hreel]

/-- Without a mount, it goes to the public pages. -/
theorem route_of_name {name : String} (hlast : name.toList.getLast? = some '4')
    (hcore : coreOf s.studio.settings.servedUnder = []) :
    Route.of s (String.ofList ('/' :: name.toList)) = .pages := by
  have hend : (String.ofList ('/' :: name.toList)).toList.getLast? = some '4' := by
    rw [String.toList_ofList]
    exact getLast?_append_name ['/'] hlast
  have hmount : Mount.ofText? s.studio.settings.servedUnder = none := by
    unfold Mount.ofText?
    split
    next => rfl
    next hne => exact absurd hcore hne
  have hreel : reelPath? s (String.ofList ('/' :: name.toList)) = none := by
    rw [reelPath?, hmount]
    rfl
  rw [Route.of, find?_named hend, hreel]

end Routes

/-! ## Answers -/

section Answers

variable {s : Service} {host : Host} {r : Request} {w : World} {p : Path} {content : Bytes}

/-- Where files are served, a request without headers is answered by the route. -/
theorem substance_respond_file (host : Host) (w : World) (hmethod : r.method = "GET")
    (hheaders : r.headers = []) (hfiles : (Route.of s r.path).methods = none) :
    (respond s host r w).1.map Response.substance =
      (answer s host (Route.of s r.path) { r with bodyLimit := some s.settings.maxBodySize }
        { (identified host.identifiers r w).2 with
          metrics := (identified host.identifiers r w).2.metrics.enter }).1.map
        Response.substance := by
  have hnone (name : String) : r.header? name = none := by
    rw [Request.header?, hheaders]
    rfl
  have hlength : declaredLength? r = none := by
    rw [declaredLength?, hnone]
    rfl
  rw [substance_respond s host w (by rw [hmethod]; decide)
    (fun methods h => by rw [hfiles] at h; cases h)]
  unfold handled counted limited
  dsimp only
  rw [hlength]
  dsimp only
  split
  next h => rw [h]
  next h => rw [h]

/-- **A finished reel is answered with its content.** -/
theorem substance_respond_reels {below : String} (host : Host) (hmethod : r.method = "GET")
    (hheaders : r.headers = []) (hroute : Route.of s r.path = .reels below)
    (hlocate : StaticFiles.locate? s.studio.settings.resolvedOutputFolder below = some p)
    (hread : w.disk.read p = .ok content) :
    (respond s host r w).1.map Response.substance = some (200, some content) := by
  let limited : Request := { r with bodyLimit := some s.settings.maxBodySize }
  have hserve : StaticFiles.serve s.studio.settings.resolvedOutputFolder w.disk
      (host.now / 1000) (limited.withPath below) = StaticFiles.typed p 200 (some content) :=
    StaticFiles.serve_of_read hmethod hheaders hlocate hread
  rw [substance_respond_file host w hmethod hheaders (by rw [hroute]; rfl), hroute]
  show some (StaticFiles.serve _ (identified host.identifiers r w).2.disk _
    (limited.withPath below)).substance = _
  rw [disk_identified, hserve]
  rfl

/-- What is not below the mount is answered from the public pages. -/
theorem substance_respond_pages (host : Host) (hmethod : r.method = "GET")
    (hheaders : r.headers = []) (hroute : Route.of s r.path = .pages)
    (hlocate : StaticFiles.locate? s.studio.assets.publicFolder r.path = some p) :
    (∀ page, w.disk.read p = .ok page →
      (respond s host r w).1.map Response.substance = some (200, some page)) ∧
    (w.disk.read p = .error .missing →
      (respond s host r w).1.map Response.substance = some (404, some [])) := by
  let limited : Request := { r with bodyLimit := some s.settings.maxBodySize }
  have hanswer : (respond s host r w).1.map Response.substance =
      some (StaticFiles.serve s.studio.assets.publicFolder w.disk (host.now / 1000)
        limited).substance := by
    rw [substance_respond_file host w hmethod hheaders (by rw [hroute]; rfl), hroute]
    show some (StaticFiles.serve _ (identified host.identifiers r w).2.disk _ limited).substance = _
    rw [disk_identified]
  rw [hanswer]
  constructor
  · intro page hread
    have hserve : StaticFiles.serve s.studio.assets.publicFolder w.disk (host.now / 1000)
        limited = StaticFiles.typed p 200 (some page) :=
      StaticFiles.serve_of_read hmethod hheaders hlocate hread
    rw [hserve]
    rfl
  · intro hread
    have hserve : StaticFiles.serve s.studio.assets.publicFolder w.disk (host.now / 1000)
        limited = StaticFiles.notFound :=
      StaticFiles.serve_of_missing hmethod hheaders hlocate hread
    rw [hserve]
    rfl

end Answers

/-! ## Served reels -/

/-- A target without marks is its path. -/
theorem path_reading {body : List Char} (h : ∀ c ∈ body, c = '/' ∨ isUnreserved c = true) :
    (reading (String.ofList ('/' :: body))).path = String.ofList ('/' :: body) := by
  have htarget : Target.ofText (String.ofList ('/' :: body)) =
      { path := String.ofList ('/' :: body) } := by
    apply path_ofText
    intro c hc
    obtain ⟨hquery, hnumber, -⟩ := ne_mark (h c hc)
    exact ⟨hquery, hnumber⟩
  rw [Request.path, reading, htarget]

section Named

variable {s : Service} {name : String}

/-- **Below the mount a name is answered with the reel of that name.** -/
theorem answered_below (host : Host) (w : World) (hname : IsPlainName name)
    (hlast : name.toList.getLast? = some '4')
    (hchars : ∀ c ∈ name.toList, isUnreserved c = true)
    (hsetting : IsAddress s.studio.settings.servedUnder)
    (hcore : coreOf s.studio.settings.servedUnder ≠ []) {content : Bytes}
    (hread : w.disk.read (s.studio.settings.resolvedOutputFolder.join ⟨name⟩) = .ok content) :
    (respond s host (reading (String.ofList
      ('/' :: (coreOf s.studio.settings.servedUnder ++ '/' :: name.toList)))) w).1.map
        Response.substance = some (200, some content) := by
  have hcoreChars (c : Char) (hc : c ∈ coreOf s.studio.settings.servedUnder) :
      c = '/' ∨ isUnreserved c = true := hsetting.chars c (mem_of_mem_coreOf hc)
  have hcolon : ':' ∉ coreOf s.studio.settings.servedUnder := fun hmem =>
    (ne_mark (hcoreChars _ hmem)).2.2 rfl
  have hpath : (reading (String.ofList ('/' :: (coreOf s.studio.settings.servedUnder ++
      '/' :: name.toList)))).path = String.ofList ('/' ::
        (coreOf s.studio.settings.servedUnder ++ '/' :: name.toList)) := by
    apply path_reading
    intro c hc
    rcases List.mem_append.mp hc with hc | hc
    · exact hcoreChars c hc
    · rcases List.mem_cons.mp hc with rfl | hc
      · exact .inl rfl
      · exact .inr (hchars c hc)
  have hroute := route_of_core hname hlast hcore hcolon
  rw [← hpath] at hroute
  exact substance_respond_reels host rfl rfl hroute (StaticFiles.locate?_name hname _) hread

/-- Without a mount it is answered from the public pages. -/
theorem answered_from_pages (host : Host) (w : World) (hname : IsPlainName name)
    (hlast : name.toList.getLast? = some '4')
    (hchars : ∀ c ∈ name.toList, isUnreserved c = true)
    (hcore : coreOf s.studio.settings.servedUnder = []) :
    (∀ page, w.disk.read (s.studio.assets.publicFolder.join ⟨name⟩) = .ok page →
      (respond s host (reading (String.ofList ('/' :: name.toList))) w).1.map
        Response.substance = some (200, some page)) ∧
    (w.disk.read (s.studio.assets.publicFolder.join ⟨name⟩) = .error .missing →
      (respond s host (reading (String.ofList ('/' :: name.toList))) w).1.map
        Response.substance = some (404, some [])) := by
  have hpath : (reading (String.ofList ('/' :: name.toList))).path =
      String.ofList ('/' :: name.toList) := path_reading fun c hc => .inr (hchars c hc)
  have hroute := route_of_name hlast hcore
  rw [← hpath] at hroute
  refine substance_respond_pages host rfl rfl hroute ?_
  rw [hpath]
  exact StaticFiles.locate?_name hname _

end Named

/-- **Addresses of finished reels.** The setting consists of slashes and segments that
stand for themselves. If it has a segment and at most one slash at its start, the address
of a finished reel leads to a path under which the reel is answered with its content, as
long as it can be read; and it can be when it is finished, unless an image was in the
output folder. A setting without a segment makes no mount: the address is the mere name,
under which the public pages are searched. After two slashes the address leads to
another site. -/
theorem reel_served (s : Service) (host : Host) (selection : Selection) (d d' : Disk)
    (reel : Reel) (command : Option Engine.Command)
    (hsetting : IsAddress s.studio.settings.servedUnder)
    (hmade : Production.make s.studio host.engine host.now d selection =
      (.finished (.ok reel) command, d')) :
    (Production.Outside s.studio selection → ∃ content, d'.read reel.path = .ok content) ∧
    ((∃ c ∈ s.studio.settings.servedUnder.toList, c ≠ '/') →
      (¬['/', '/'] <+: s.studio.settings.servedUnder.toList →
        ∃ path, fromTop? reel.url = some path ∧
          ∀ (host : Host) (w : World) (content : Bytes), w.disk.read reel.path = .ok content →
            (respond s host (reading path) w).1.map Response.substance =
              some (200, some content)) ∧
      (['/', '/'] <+: s.studio.settings.servedUnder.toList → fromTop? reel.url = none)) ∧
    ((∀ c ∈ s.studio.settings.servedUnder.toList, c = '/') →
      ∃ name path, reel.path = s.studio.settings.resolvedOutputFolder.join ⟨name⟩ ∧
        fromTop? reel.url = some path ∧
        ∀ (host : Host) (w : World),
          (∀ page, w.disk.read (s.studio.assets.publicFolder.join ⟨name⟩) = .ok page →
            (respond s host (reading path) w).1.map Response.substance =
              some (200, some page)) ∧
          (w.disk.read (s.studio.assets.publicFolder.join ⟨name⟩) = .error .missing →
            (respond s host (reading path) w).1.map Response.substance =
              some (404, some []))) := by
  obtain ⟨name, hname, hlast, hchars, hfile, hurl⟩ := Production.exists_name_of_make hmade
  have hplain (c : Char) (hc : c ∈ name.toList) : isUnreserved c = true :=
    Production.isUnreserved_of_isNameChar (hchars c hc)
  refine ⟨fun houtside => Production.read_reel houtside hmade, ?_⟩
  rw [hurl, hfile]
  constructor
  · rintro ⟨c, hc, hne⟩
    have hcore : coreOf s.studio.settings.servedUnder ≠ [] := by
      rw [Ne, coreOf_eq_nil_iff]
      intro hall
      exact hne (hall c hc)
    refine ⟨fun hstart => ⟨_, fromTop?_urlOf _ hsetting hname hcore hstart, ?_⟩,
      fromTop?_urlOf_of_slashes _ hname hcore⟩
    intro host w content hread
    exact answered_below host w hname hlast hplain hsetting hcore hread
  · intro hall
    have hcore : coreOf s.studio.settings.servedUnder = [] := (coreOf_eq_nil_iff _).mpr hall
    refine ⟨name, _, rfl, fromTop?_urlOf_of_nil _ hname hcore, fun host w => ?_⟩
    exact answered_from_pages host w hname hlast hplain hcore

theorem reel_served_oneUpload :
    IsAddress smallService.studio.settings.servedUnder ∧
      ∃ reel command d' path content,
        Production.make smallService.studio pickyHost.engine pickyHost.now
            Production.smallDisk Production.oneUpload = (.finished (.ok reel) command, d') ∧
        fromTop? reel.url = some path ∧ d'.read reel.path = .ok content ∧
        (respond smallService pickyHost (reading path) { disk := d' }).1.map
          Response.substance = some (200, some content) := by
  have hsetting : IsAddress smallService.studio.settings.servedUnder :=
    ⟨by simp [smallService, Production.smallStudio, isUnreserved], by decide⟩
  have hreel : (Production.make smallService.studio pickyHost.engine pickyHost.now
      Production.smallDisk Production.oneUpload).1.reel? =
        some ⟨"outputs/output_0.mp4", ⟨"./public/outputs/output_0.mp4"⟩⟩ := by
    decide +kernel
  obtain ⟨command, hmade⟩ := Production.make_of_reel? hreel
  obtain ⟨hread, hserved, -⟩ := reel_served smallService pickyHost Production.oneUpload
    Production.smallDisk _ _ command hsetting hmade
  obtain ⟨content, hcontent⟩ := hread Production.outside_oneUpload
  obtain ⟨path, hpath, hanswer⟩ := (hserved ⟨'o', by decide, by decide⟩).1 (by decide)
  exact ⟨hsetting, _, command, _, path, content, hmade, hpath, hcontent,
    hanswer pickyHost _ content hcontent⟩

/-- The service with an empty setting. -/
def bareService : Service where
  settings := smallService.settings
  studio := { Production.smallStudio with settings := { servedUnder := "" } }

/-- **Not every address is served**: with an empty setting there is no page under the
address of a finished reel. -/
theorem not_served_bare :
    ¬∀ (s : Service) (host : Host) (selection : Selection) (d d' : Disk) (reel : Reel)
        (command : Option Engine.Command) (content : Bytes),
      IsAddress s.studio.settings.servedUnder →
      Production.make s.studio host.engine host.now d selection =
        (.finished (.ok reel) command, d') →
      d'.read reel.path = .ok content →
      ∃ path, fromTop? reel.url = some path ∧
        (respond s host (reading path) { disk := d' }).1.map Response.substance =
          some (200, some content) := by
  intro h
  have hsetting : IsAddress bareService.studio.settings.servedUnder :=
    ⟨by simp [bareService], by decide⟩
  have hreel : (Production.make bareService.studio pickyHost.engine pickyHost.now
      Production.smallDisk Production.oneUpload).1.reel? =
        some ⟨"output_0.mp4", ⟨"./public/outputs/output_0.mp4"⟩⟩ := by
    decide +kernel
  obtain ⟨command, hmade⟩ := Production.make_of_reel? hreel
  have houtside : Production.Outside bareService.studio Production.oneUpload :=
    Production.outside_oneUpload
  obtain ⟨content, hcontent⟩ := Production.read_reel houtside hmade
  obtain ⟨path, hpath, hanswer⟩ := h bareService pickyHost _ _ _ _ command content hsetting
    hmade hcontent
  have hname : IsPlainName "output_0.mp4" :=
    ⟨by simp [isAscii], by decide, by decide, by decide⟩
  have htop : fromTop? "output_0.mp4" =
      some (String.ofList ('/' :: "output_0.mp4".toList)) := by
    decide +kernel
  have hmissing : (Production.make bareService.studio pickyHost.engine pickyHost.now
      Production.smallDisk Production.oneUpload).2.read
        (bareService.studio.assets.publicFolder.join ⟨"output_0.mp4"⟩) = .error .missing := by
    decide +kernel
  obtain rfl := Option.some.inj (htop.symm.trans hpath)
  have hpages := answered_from_pages (s := bareService) pickyHost
    { disk := (Production.make bareService.studio pickyHost.engine pickyHost.now
        Production.smallDisk Production.oneUpload).2 }
    hname (by decide) (by simp [isUnreserved]) (by decide)
  exact absurd (hanswer.symm.trans (hpages.2 hmissing)) (by simp)

end Service

end VideoGreeting
