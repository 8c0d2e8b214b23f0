import VideoGreeting.Proofs.Text.Pieces
import VideoGreeting.Text.Lines

/-!
# Lines

The lines of bytes hold no line feed, and neither do the texts that they write: UTF-8
writes a line feed as its own byte and in no other way. So texts that were read from
lines are found again as the lines of the text in which they are joined, save for
carriage returns before the line feeds. The last of them is found as it was.
-/

namespace VideoGreeting.Text

/-! ## Lines of bytes -/

theorem mem_of_mem_chomp {line : Bytes} {b : UInt8} (h : b ∈ chomp line) : b ∈ line := by
  unfold chomp at h
  split at h
  next rest hrest =>
    rw [← List.mem_reverse, hrest]
    exact List.mem_cons_of_mem _ (List.mem_reverse.mp h)
  next => exact h

theorem lineFeed_notMem_linesFrom {current bytes line : Bytes} (hcurrent : 0x0a ∉ current)
    (hline : line ∈ linesFrom current bytes) : 0x0a ∉ line := by
  fun_induction linesFrom current bytes with
  | case1 => cases hline
  | case2 current hne =>
      obtain rfl := List.mem_singleton.mp hline
      rwa [List.mem_reverse]
  | case3 current rest ih =>
      rcases List.mem_cons.mp hline with rfl | hrest
      · exact fun hmem => hcurrent (List.mem_reverse.mp (mem_of_mem_chomp hmem))
      · exact ih List.not_mem_nil hrest
  | case4 current b rest hb ih =>
      refine ih ?_ hline
      rw [List.mem_cons, not_or]
      exact ⟨Ne.symm hb, hcurrent⟩

/-- No line holds a line feed. -/
theorem lineFeed_notMem_lines {bytes line : Bytes} (h : line ∈ lines bytes) : 0x0a ∉ line :=
  lineFeed_notMem_linesFrom List.not_mem_nil h

/-- Bytes end their lines in what comes before a piece without line feeds. -/
theorem endedLines_append {front rest : Bytes} (hfront : ∀ b ∈ front.getLast?, b = 0x0a)
    (hrest : 0x0a ∉ rest) : endedLines (front ++ rest) = front := by
  have hpass : ∀ b ∈ rest.reverse, (b != 0x0a) = true := by
    intro b hb
    rw [bne_iff_ne]
    rintro rfl
    exact hrest (List.mem_reverse.mp hb)
  have hstop : front.reverse.dropWhile (· != 0x0a) = front.reverse := by
    rw [List.dropWhile_eq_self_iff]
    intro hpos
    have hhead := List.head?_eq_some_head (List.ne_nil_of_length_pos hpos)
    rw [List.head?_reverse] at hhead
    simpa [List.head_eq_getElem] using hfront _ hhead
  rw [endedLines, List.reverse_append, List.dropWhile_append_of_pos hpass, hstop,
    List.reverse_reverse]

/-! ## Characters of several bytes -/

/-- What is left behind a character is the end of the bytes. -/
theorem readTail_isSuffix (count : Nat) (low high : UInt8) (value : Nat) (bytes : Bytes) :
    (readTail count low high value bytes).2.1 <:+ bytes := by
  fun_induction readTail count low high value bytes with
  | case1 => exact List.suffix_rfl
  | case2 => exact List.suffix_rfl
  | case3 low high value count b rest _ c left hleft hread ih =>
      rw [hread] at ih
      exact ih.trans (List.suffix_cons b rest)
  | case4 => exact List.suffix_rfl

/-- Bytes that go on a character only add to its number. -/
theorem exists_le_of_readTail {count : Nat} {low high : UInt8} {value : Nat} {bytes : Bytes}
    {c : Char} (h : (readTail count low high value bytes).1 = some c) :
    ∃ n, c = Char.ofNat n ∧ value * 64 ^ count ≤ n := by
  fun_induction readTail count low high value bytes with
  | case1 low high value bytes =>
      exact ⟨value, (Option.some.inj h).symm, by simp⟩
  | case2 => cases h
  | case3 low high value count b rest _ c' left hleft hread ih =>
      rw [hread] at ih
      obtain ⟨n, hn, hle⟩ := ih h
      refine ⟨n, hn, le_trans ?_ hle⟩
      calc value * 64 ^ (count + 1) = value * 64 * 64 ^ count := by ring
        _ ≤ (value * 64 + (b.toNat - 0x80)) * 64 ^ count :=
          Nat.mul_le_mul_right _ (Nat.le_add_right _ _)
  | case4 => cases h

/-- A leading byte and the least byte that may follow it make a number beyond ASCII. -/
theorem le_of_leadOf? {b low high : UInt8} {count value : Nat}
    (h : leadOf? b = some (count, low, high, value)) :
    ∃ k, count = k + 1 ∧ 0x80 ≤ (value * 64 + (low.toNat - 0x80)) * 64 ^ k := by
  unfold leadOf? at h
  simp only [Bool.and_eq_true, decide_eq_true_eq, UInt8.le_iff_toNat_le, UInt8.reduceToNat] at h
  split_ifs at h with htwo _ _ hthree _ hfour _
  all_goals
    obtain ⟨rfl, rfl, -, rfl⟩ := h
    exact ⟨_, rfl, by simp only [UInt8.reduceToNat]; omega⟩

/-- A character of several bytes is no line feed. -/
theorem ne_lineFeed_of_readTail {b low high : UInt8} {count value : Nat} {bytes : Bytes} {c : Char}
    (hlead : leadOf? b = some (count, low, high, value))
    (h : (readTail count low high value bytes).1 = some c) : c ≠ '\n' := by
  obtain ⟨k, rfl, hlow⟩ := le_of_leadOf? hlead
  obtain ⟨n, rfl, hn⟩ : ∃ n, c = Char.ofNat n ∧ 0x80 ≤ n := by
    cases bytes with
    | nil => cases h
    | cons first rest =>
        rw [readTail] at h
        split at h
        next hfirst =>
          obtain ⟨n, hn, hle⟩ := exists_le_of_readTail h
          rw [Bool.and_eq_true, decide_eq_true_eq, UInt8.le_iff_toNat_le] at hfirst
          refine ⟨n, hn, hlow.trans (le_trans (Nat.mul_le_mul_right _ ?_) hle)⟩
          omega
        next => cases h
  intro hc
  have hnat := congrArg Char.toNat hc
  rw [Char.toNat_ofNat] at hnat
  split at hnat
  · have hten : n = 10 := hnat
    omega
  · cases hnat

/-- A line feed is read from its own byte only. -/
theorem lineFeed_mem_of_decode {bytes : Bytes} (h : some '\n' ∈ decode bytes) : 0x0a ∈ bytes := by
  fun_induction decode bytes with
  | case1 => cases h
  | case2 b rest hb ih =>
      rcases List.mem_cons.mp h with hchar | hrest
      · have hnat : (Char.ofNat b.toNat).toNat = 10 :=
          congrArg Char.toNat (Option.some.inj hchar).symm
        rw [Char.toNat_ofNat] at hnat
        split at hnat
        · have hten : b = 0x0a := UInt8.toNat_inj.mp hnat
          exact hten ▸ List.mem_cons_self
        · cases hnat
      · exact List.mem_cons_of_mem _ (ih hrest)
  | case3 b rest hb hlead ih =>
      rcases List.mem_cons.mp h with hchar | hrest
      · cases hchar
      · exact List.mem_cons_of_mem _ (ih hrest)
  | case4 b rest hb count low high value hlead c left hleft hread ih =>
      rcases List.mem_cons.mp h with hchar | hrest
      · have hchar' : (readTail count low high value rest).1 = some '\n' := by rw [hread, ← hchar]
        exact absurd rfl (ne_lineFeed_of_readTail hlead hchar')
      · have hsuffix := readTail_isSuffix count low high value rest
        rw [hread] at hsuffix
        exact List.mem_cons_of_mem _ (hsuffix.subset (ih hrest))

/-- What is read strictly are all the characters. -/
theorem decode_of_strict? {bytes : Bytes} {s : String} (h : strict? bytes = some s) :
    decode bytes = s.toList.map some := by
  obtain ⟨cs, hcs, rfl⟩ := Option.map_eq_some_iff.mp h
  rw [String.toList_ofList]
  clear h
  generalize decode bytes = read at hcs
  induction read generalizing cs with
  | nil =>
      cases hcs
      rfl
  | cons c read ih =>
      simp only [List.mapM_cons, Option.bind_eq_bind, Option.bind_eq_some_iff] at hcs
      obtain ⟨first, hfirst, rest, hrest, heq⟩ := hcs
      obtain rfl : first :: rest = cs := Option.some.inj heq
      rw [ih rest hrest, show c = some first from hfirst, List.map_cons]

/-- A text that bytes without a line feed write has none either. -/
theorem lineFeed_notMem_of_strict? {bytes : Bytes} {s : String} (hbytes : 0x0a ∉ bytes)
    (h : strict? bytes = some s) : '\n' ∉ s.toList := by
  intro hmem
  refine hbytes (lineFeed_mem_of_decode ?_)
  rw [decode_of_strict? h]
  exact List.mem_map_of_mem hmem

/-! ## Lines of texts -/

/-- Lines without line feeds are joined by them: the last one is the last line of the
whole, unless it is empty. -/
theorem getLast?_textLines_intercalate {lines : List (List Char)}
    (hlines : ∀ line ∈ lines, '\n' ∉ line) (hne : ∀ line ∈ lines, line ≠ []) :
    (textLines (['\n'].intercalate lines)).getLast? = lines.getLast? := by
  by_cases hempty : lines = []
  · subst hempty
    rfl
  · have hpieces : splitBy (· == '\n') (['\n'].intercalate lines) = lines := by
      rw [splitBy_eq_splitOnP]
      exact List.splitOn_intercalate '\n' hlines hempty
    have hlast := List.getLast?_eq_some_getLast hempty
    have hvisible : (lines.getLast hempty).isEmpty = false := by
      simpa using hne _ (List.getLast_mem hempty)
    simp [textLines, hpieces, hlast, hvisible, Option.filter]

end VideoGreeting.Text
