import VideoGreeting.Proofs.Disk.Place
import VideoGreeting.Proofs.Text.Ascii
import VideoGreeting.Service.Form

/-!
# Names of uploads

An image is stored under an identifier and an extension. The identifier can be read
off the name, so names with different identifiers are different; and whatever the
client calls an image, what is left of it is a short extension of small letters and
digits. So the name is one piece, and the image lies in the folder itself
(`place_uploadPath`).
-/

namespace VideoGreeting.Service

/-! ## Extensions -/

/-- One to eight small letters or digits. -/
structure IsShortExtension (ext : String) : Prop where
  pos : 1 ≤ ext.length
  le : ext.length ≤ 8
  plain : ∀ c ∈ ext.toList, c.isLower = true ∨ c.isDigit = true

/-- A letter or a digit is a small letter or a digit when it is made small. -/
theorem lowerAscii_of_isAlphanum {c : Char} (h : c.isAlphanum = true) :
    (Number.lowerAscii c).isLower = true ∨ (Number.lowerAscii c).isDigit = true := by
  have hsmall : ∀ k < 26, (Char.ofNat (65 + k + 32)).isLower = true := by decide
  unfold Number.lowerAscii
  split
  next hcapital =>
    rw [Bool.and_eq_true, decide_eq_true_eq, decide_eq_true_eq] at hcapital
    have hlow : 65 ≤ c.toNat := hcapital.1
    have hhigh : c.toNat ≤ 90 := hcapital.2
    have hletter := hsmall (c.toNat - 65) (by omega)
    rw [Nat.add_sub_cancel' hlow] at hletter
    exact .inl hletter
  next hcapital =>
    rw [Char.isAlphanum, Bool.or_eq_true, Char.isAlpha, Bool.or_eq_true] at h
    rcases h with (hupper | hlower) | hdigit
    · rw [Char.isUpper, decide_eq_true_eq] at hupper
      rw [Bool.and_eq_true, decide_eq_true_eq, decide_eq_true_eq] at hcapital
      exact absurd hupper hcapital
    · exact .inl hlower
    · exact .inr hdigit

theorem IsShortExtension.slash_notMem {ext : String} (h : IsShortExtension ext) :
    '/' ∉ ext.toList := by
  intro hslash
  exact absurd (h.plain '/' hslash) (by decide)

/-- **Whatever the client calls an image**, its extension is short and plain. -/
theorem isShortExtension_extensionOf (clientName : String) :
    IsShortExtension (Intake.extensionOf clientName) := by
  unfold Intake.extensionOf
  split
  next ext hext =>
    obtain ⟨-, hkept⟩ := Option.filter_eq_some_iff.mp hext
    rw [Intake.keepsExtension, Bool.and_eq_true, Bool.and_eq_true, decide_eq_true_eq] at hkept
    obtain ⟨⟨hempty, hbytes⟩, halnum⟩ := hkept
    have hlength : (Http.lowerName ext).length = ext.toList.length := by
      rw [Http.lowerName, ← String.length_toList, String.toList_ofList, List.length_map]
    constructor
    · rw [hlength, Nat.one_le_iff_ne_zero, Ne, List.length_eq_zero_iff, String.toList_eq_nil_iff]
      rintro rfl
      cases hempty
    · rw [hlength]
      exact (Text.length_le_utf8ByteSize ext).trans hbytes
    · intro c hc
      rw [Http.lowerName, String.toList_ofList, List.mem_map] at hc
      obtain ⟨c, hc, rfl⟩ := hc
      exact lowerAscii_of_isAlphanum (List.all_eq_true.mp halnum c hc)
  next =>
    have hplain : "img".toList.all (fun c => c.isLower || c.isDigit) = true := by decide
    refine ⟨by decide, by decide, ?_⟩
    intro c hc
    exact Bool.or_eq_true_iff.mp (List.all_eq_true.mp hplain c hc)

/-! ## Places -/

variable (ids : Identifiers)

theorem toList_uploadName (number : Nat) (ext : String) :
    (s!"{ids.text number}.{ext}").toList = (ids.text number).toList ++ '.' :: ext.toList := by
  simp

/-- **An image is stored in the folder itself**, under its identifier and extension. -/
theorem place_uploadPath (folder : Path) (number : Nat) (clientName : String) :
    (Intake.uploadPath ids folder number clientName).place =
      folder.place ++ [s!"{ids.text number}.{Intake.extensionOf clientName}"] := by
  have hlist := toList_uploadName ids number (Intake.extensionOf clientName)
  have hshort := isShortExtension_extensionOf clientName
  -- the extension has a letter or a digit, so the name is no dots
  obtain ⟨c, hc⟩ := List.exists_mem_of_length_pos
    (Nat.lt_of_lt_of_eq hshort.pos String.length_toList.symm)
  have hne {s : String} (hs : c ∉ s.toList) :
      s!"{ids.text number}.{Intake.extensionOf clientName}" ≠ s := by
    rintro rfl
    rw [hlist] at hs
    exact hs (List.mem_append_right _ (List.mem_cons_of_mem _ hc))
  have hpoint : c ≠ '.' := by
    rintro rfl
    exact absurd (hshort.plain '.' hc) (by decide)
  refine Path.place_join (hne ?_) (hne ?_) (hne ?_) ?_
  · exact List.not_mem_nil
  · simp [hpoint]
  · simp [hpoint]
  · rw [hlist, List.mem_append, List.mem_cons, not_or, not_or]
    exact ⟨ids.notMem_text (by decide) (by decide) number, by decide, hshort.slash_notMem⟩

variable {ids : Identifiers}

/-- Names with different identifiers are different. -/
theorem number_eq_of_place_eq {folder : Path} {m n : Nat} {clientName clientName' : String}
    (h : (Intake.uploadPath ids folder m clientName).place =
      (Intake.uploadPath ids folder n clientName').place) : m = n := by
  rw [place_uploadPath, place_uploadPath] at h
  have hname := List.singleton_inj.mp (List.append_cancel_left h)
  -- the identifier is what stands before the first point
  have hpoint (k : Nat) : '.' ∉ (ids.text k).toList :=
    ids.notMem_text (by decide) (by decide) k
  have hsplit := congrArg (fun name => Text.splitOnce '.' name.toList) hname
  rw [toList_uploadName, toList_uploadName, Text.splitOnce_append (hpoint m),
    Text.splitOnce_append (hpoint n)] at hsplit
  exact ids.distinct m n (String.toList_inj.mp (Prod.mk.inj (Option.some.inj hsplit)).1)

end VideoGreeting.Service
