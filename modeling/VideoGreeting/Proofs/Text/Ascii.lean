import Mathlib
import VideoGreeting.Http.Percent

/-!
# Plain texts

A text of ASCII characters is written with one byte for each, and these bytes
read back as the text. So does the same text in the path of a request, if it has no
percent sign.
-/

namespace VideoGreeting.Text

/-! ## Bytes of a text -/

theorem toList_loop (bytes : ByteArray) (i : Nat) (front : List UInt8) :
    ByteArray.toList.loop bytes i front = front.reverse ++ bytes.data.toList.drop i := by
  fun_induction ByteArray.toList.loop bytes i front with
  | case1 i front hlt ih =>
      have hlength : i < bytes.data.toList.length := by simpa using hlt
      have hget : bytes.get! i = bytes.data.toList[i] := by
        have h : bytes.get! i = bytes.data[i]! := rfl
        rw [h, getElem!_pos bytes.data i hlt, Array.getElem_toList]
      rw [ih, List.drop_eq_getElem_cons hlength, hget, List.reverse_cons, List.append_assoc]
      rfl
  | case2 i front hge =>
      have hlength : bytes.data.toList.length ≤ i := by simpa using hge
      rw [List.drop_eq_nil_of_le hlength, List.append_nil]

/-- The bytes of a text are those of its characters. -/
theorem encode_eq (s : String) : encode s = s.toList.flatMap String.utf8EncodeChar := by
  obtain ⟨cs, rfl⟩ : ∃ cs, s = String.ofList cs := ⟨s.toList, String.ofList_toList.symm⟩
  rw [encode, ByteArray.toList, toList_loop, String.toUTF8_eq_toByteArray,
    String.toByteArray_ofList, String.toList_ofList]
  simp [List.utf8Encode]

/-- A text has at least as many bytes as characters. -/
theorem length_le_utf8ByteSize (s : String) : s.toList.length ≤ s.utf8ByteSize := by
  rw [← String.utf8Len_toList]
  induction s.toList with
  | nil => exact Nat.zero_le _
  | cons c cs ih =>
      rw [String.utf8Len_cons, List.length_cons]
      exact Nat.add_le_add ih c.utf8Size_pos

/-! ## ASCII -/

/-- Whether a character has one byte. -/
def isAscii (c : Char) : Bool := c.toNat < 0x80

/-- The byte of such a character. -/
def byteOf (c : Char) : UInt8 := UInt8.ofNat c.toNat

theorem isAscii_of_isAlphanum {c : Char} (h : c.isAlphanum = true) : isAscii c = true := by
  simp only [Char.isAlphanum, Char.isAlpha, Char.isUpper, Char.isLower, Char.isDigit,
    Bool.or_eq_true, Bool.and_eq_true, decide_eq_true_eq, UInt32.le_iff_toNat_le] at h
  have hlast : c.val.toNat ≤ 122 := by
    rcases h with (⟨-, h⟩ | ⟨-, h⟩) | ⟨-, h⟩
    all_goals exact h.trans (by decide)
  exact decide_eq_true (Nat.lt_of_le_of_lt hlast (by decide))

theorem toNat_lt {c : Char} (h : isAscii c = true) : c.toNat < 0x80 := by
  simpa [isAscii] using h

theorem toNat_byteOf {c : Char} (h : isAscii c = true) : (byteOf c).toNat = c.toNat := by
  have hlow := toNat_lt h
  rw [byteOf, UInt8.toNat_ofNat']
  omega

theorem utf8EncodeChar_of_ascii {c : Char} (h : isAscii c = true) :
    String.utf8EncodeChar c = [byteOf c] := by
  have hlow : c.val.toNat ≤ 127 := Nat.le_of_lt_succ (toNat_lt h)
  unfold String.utf8EncodeChar
  rw [if_pos hlow]
  rfl

theorem encode_of_ascii {s : String} (h : ∀ c ∈ s.toList, isAscii c = true) :
    encode s = s.toList.map byteOf := by
  rw [encode_eq, List.map_eq_flatMap]
  exact List.flatMap_congr fun c hc => utf8EncodeChar_of_ascii (h c hc)

/-- The bytes of ASCII characters read back as the characters. -/
theorem decode_map_byteOf {cs : List Char} (h : ∀ c ∈ cs, isAscii c = true) :
    decode (cs.map byteOf) = cs.map some := by
  induction cs with
  | nil => simp [decode]
  | cons c cs ih =>
      obtain ⟨hc, hcs⟩ := List.forall_mem_cons.mp h
      have hbyte := toNat_byteOf hc
      have hlow : byteOf c < 0x80 := by
        rw [UInt8.lt_iff_toNat_lt, hbyte]
        exact toNat_lt hc
      rw [List.map_cons, decode, if_pos hlow, hbyte, Char.ofNat_toNat, ih hcs, List.map_cons]

theorem strict?_map_byteOf {cs : List Char} (h : ∀ c ∈ cs, isAscii c = true) :
    strict? (cs.map byteOf) = some (String.ofList cs) := by
  have hread : (cs.map some).mapM id = some cs := by
    rw [List.mapM_map]
    exact List.mapM_pure.trans (congrArg some cs.map_id)
  rw [strict?, decode_map_byteOf h, hread, Option.map_some]

end VideoGreeting.Text

namespace VideoGreeting.Http.Percent

open Text

theorem decode_of_notMem {bytes : Bytes} (h : 0x25 ∉ bytes) : decode bytes = bytes := by
  induction bytes with
  | nil => rfl
  | cons b bytes ih =>
      rw [List.mem_cons, not_or] at h
      unfold decode
      split
      next heq =>
        cases heq
        exact absurd rfl h.1
      next heq =>
        cases heq
        rw [ih h.2]
      next heq => cases heq

/-- **A plain text stands for itself.** -/
theorem decodeText?_of_ascii {s : String} (h : ∀ c ∈ s.toList, isAscii c = true ∧ c ≠ '%') :
    decodeText? s = some s := by
  have hascii (c : Char) (hc : c ∈ s.toList) : isAscii c = true := (h c hc).1
  have hpercent : 0x25 ∉ s.toList.map byteOf := by
    intro hmem
    obtain ⟨c, hc, hbyte⟩ := List.mem_map.mp hmem
    have hnat := toNat_byteOf (hascii c hc)
    rw [hbyte] at hnat
    refine (h c hc).2 (Char.toNat_inj.mp hnat.symm)
  rw [decodeText?, encode_of_ascii hascii, decode_of_notMem hpercent, strict?_map_byteOf hascii,
    String.ofList_toList]

end VideoGreeting.Http.Percent
