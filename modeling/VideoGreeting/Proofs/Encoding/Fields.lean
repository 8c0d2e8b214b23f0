import VideoGreeting.Encoding
import VideoGreeting.Proofs.Keys

/-!
# Encodings that are given in part

An encoding may be given by some of its fields. Each field that is left out has a
standard value, which the reader knows for itself; that these are the values of the
standard encoding holds field by field, so for every choice of fields.

What a record gives is a matter of its own fields under their names: their order and
fields of other names do not count (`lookup_of_gives`). Main theorem: `encoding_read`.
-/

namespace VideoGreeting

namespace Json

variable {α : Type} {read? : Json → Option α} {value : Json} {a : α}

/-- A field that may be left out is read as its value, if it is given. -/
theorem optional_ite (h : read? value = some a) (standard : α) (given : Prop) [Decidable given] :
    optional read? standard (if given then some value else none) =
      some (if given then a else standard) := by
  by_cases hgiven : given
  · rw [if_pos hgiven, if_pos hgiven, optional, h]
  · rw [if_neg hgiven, if_neg hgiven, optional]

theorem nat?_natCast {bound n : Nat} (h : n ≤ bound) : nat? bound (int n) = some n := by
  have hrange : (0 : Int) ≤ n ∧ (n : Int) ≤ bound := ⟨Int.natCast_nonneg n, by exact_mod_cast h⟩
  rw [nat?, if_pos hrange, Int.toNat_natCast]

end Json

namespace Encoding

variable {e : Encoding} {names : List String} {given : List (String × Json)}

/-! ## Some of the fields -/

/-- The numbers of an encoding fit the words that hold them. -/
structure Fits (e : Encoding) : Prop where
  audioChannels : e.audioChannels ≤ Number.maxWord8
  framesPerSecond : e.framesPerSecond ≤ Number.maxWord32

/-- The fields of an encoding under their names. -/
def fields (e : Encoding) : List (String × Json) := fieldNames.zip e.fieldValues

/-- The named fields of `e` are given and none of its other fields, in any order and among
fields that no encoding has. -/
def Gives (given : List (String × Json)) (e : Encoding) (names : List String) : Prop :=
  (given.filter (fieldNames.contains ·.1)).Perm (e.fields.filter (names.contains ·.1))

/-- The standard encoding, with the named fields of `e` in the place of its own. -/
def inFields (e : Encoding) (names : List String) : Encoding :=
  let standard : Encoding := {}
  { codec := if "codec" ∈ names then e.codec else standard.codec
    preset := if "preset" ∈ names then e.preset else standard.preset
    pixelFormat := if "pix_fmt" ∈ names then e.pixelFormat else standard.pixelFormat
    videoBitrate := if "video_bitrate" ∈ names then e.videoBitrate else standard.videoBitrate
    maxRate := if "max_rate" ∈ names then e.maxRate else standard.maxRate
    bufferSize := if "bufsize" ∈ names then e.bufferSize else standard.bufferSize
    audioCodec := if "audio_codec" ∈ names then e.audioCodec else standard.audioCodec
    audioBitrate := if "audio_bitrate" ∈ names then e.audioBitrate else standard.audioBitrate
    audioChannels := if "audio_channels" ∈ names then e.audioChannels else standard.audioChannels
    framesPerSecond := if "fps" ∈ names then e.framesPerSecond else standard.framesPerSecond
    shortest := if "shortest" ∈ names then e.shortest else standard.shortest
    extraArguments := if "extra_args" ∈ names then e.extraArguments else standard.extraArguments }

theorem map_fst_fields (e : Encoding) : e.fields.map (·.1) = fieldNames := rfl

theorem nodup_fieldNames : fieldNames.Nodup := by decide

/-- What is found under the name of a field. -/
theorem lookup_of_gives (h : Gives given e names) {name : String} (hname : name ∈ fieldNames) :
    given.lookup name = if name ∈ names then e.fields.lookup name else none := by
  have hkeys : ((e.fields.filter (names.contains ·.1)).map (·.1)).Nodup := by
    refine List.Nodup.sublist (List.filter_sublist.map _) ?_
    rw [map_fst_fields]
    exact nodup_fieldNames
  have hlookup := lookup_of_perm h hkeys name
  rw [lookup_filter, lookup_filter] at hlookup
  simpa [hname] using hlookup

/-- The named fields, as a record of all fields. -/
theorem map_lookup_fields (e : Encoding) (names : List String) :
    (fieldNames.map fun name => if name ∈ names then e.fields.lookup name else none) =
      [ if "codec" ∈ names then some (.string e.codec) else none,
        if "preset" ∈ names then some (.string e.preset) else none,
        if "pix_fmt" ∈ names then some (.string e.pixelFormat) else none,
        if "video_bitrate" ∈ names then some (.string e.videoBitrate) else none,
        if "max_rate" ∈ names then some (.string e.maxRate) else none,
        if "bufsize" ∈ names then some (.string e.bufferSize) else none,
        if "audio_codec" ∈ names then some (.string e.audioCodec) else none,
        if "audio_bitrate" ∈ names then some (.string e.audioBitrate) else none,
        if "audio_channels" ∈ names then some (.int e.audioChannels) else none,
        if "fps" ∈ names then some (.int e.framesPerSecond) else none,
        if "shortest" ∈ names then some (.bool e.shortest) else none,
        if "extra_args" ∈ names then some (.strings e.extraArguments) else none ] := rfl

/-- **Each field is read for itself.** -/
theorem ofJson?_of_gives (hfits : e.Fits) (h : Gives given e names) :
    ofJson? (.object given) = some (e.inFields names) := by
  have hrecord : (Json.object given).record? fieldNames =
      some (fieldNames.map fun name =>
        if name ∈ names then e.fields.lookup name else none) :=
    congrArg some (List.map_congr_left fun name hname => lookup_of_gives h hname)
  have htext (standard text : String) (given : Prop) [Decidable given] :=
    Json.optional_ite (show Json.string? (.string text) = some text from rfl) standard given
  have hflag (standard flag : Bool) (given : Prop) [Decidable given] :=
    Json.optional_ite (show Json.bool? (.bool flag) = some flag from rfl) standard given
  have hlist (standard items : List String) (given : Prop) [Decidable given] :=
    Json.optional_ite (Json.list?_strings items) standard given
  have hchannels (given : Prop) [Decidable given] :=
    Json.optional_ite (Json.nat?_natCast hfits.audioChannels) standardAudioChannels given
  have hframes (given : Prop) [Decidable given] :=
    Json.optional_ite (Json.nat?_natCast hfits.framesPerSecond) standardFramesPerSecond given
  unfold ofJson?
  rw [hrecord, map_lookup_fields]
  dsimp only [Option.bind_eq_bind, Option.bind_some, Option.pure_def]
  -- in the order of the fields
  rw [htext, htext, htext, htext, htext, htext, htext, htext, hchannels, hframes, hflag, hlist]
  rfl

theorem inFields_fieldNames (e : Encoding) : e.inFields fieldNames = e := rfl

theorem inFields_nil (e : Encoding) : e.inFields [] = {} := rfl

/-- **An encoding that is given in part is the standard one with these parts.** So all its
fields give it back, and none of them gives the standard encoding. -/
theorem encoding_read (e : Encoding) (hfits : e.Fits) :
    (∀ names given, Gives given e names → ofJson? (.object given) = some (e.inFields names)) ∧
      ofJson? e.toJson = some e ∧ ofJson? (.object []) = some {} := by
  refine ⟨fun names given => ofJson?_of_gives hfits, ?_, ?_⟩
  · have hall : Gives e.fields e fieldNames := .refl _
    exact (ofJson?_of_gives hfits hall).trans (congrArg some (inFields_fieldNames e))
  · have hnone : Gives [] e [] := by simp [Gives]
    exact (ofJson?_of_gives hfits hnone).trans (congrArg some (inFields_nil e))

/-- An encoding with as many channels and frames as there can be. -/
def fullest : Encoding where
  maxRate := "2M"
  audioChannels := 255
  framesPerSecond := 4294967295
  shortest := false
  extraArguments := ["-movflags", "+faststart"]

/-- Two fields that are standard otherwise, one that is standard anyway, and a comment. -/
theorem encoding_read_fullest :
    fullest.Fits ∧
      Gives [("extra_args", .strings ["-movflags", "+faststart"]), ("comment", .null),
        ("audio_channels", .int 255), ("codec", .string "libx264")] fullest
        ["codec", "audio_channels", "extra_args"] ∧
      ofJson? (.object [("extra_args", .strings ["-movflags", "+faststart"]), ("comment", .null),
        ("audio_channels", .int 255), ("codec", .string "libx264")]) =
        some { audioChannels := 255, extraArguments := ["-movflags", "+faststart"] } ∧
      ofJson? fullest.toJson = some fullest := by
  have hfits : fullest.Fits := ⟨by decide, by decide⟩
  have hgives : Gives [("extra_args", .strings ["-movflags", "+faststart"]), ("comment", .null),
      ("audio_channels", .int 255), ("codec", .string "libx264")] fullest
      ["codec", "audio_channels", "extra_args"] :=
    (List.reverse_perm [("codec", Json.string "libx264"), ("audio_channels", .int 255),
      ("extra_args", .strings ["-movflags", "+faststart"])])
  obtain ⟨hpart, hall, -⟩ := encoding_read fullest hfits
  exact ⟨hfits, hgives, hpart _ _ hgives, hall⟩

end Encoding

end VideoGreeting
