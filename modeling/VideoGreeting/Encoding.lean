import VideoGreeting.Json

/-!
# Encoding of a finished reel

The parameters of the video and audio streams. Reels are short, of low bitrate and mono, so that
they are made fast and travel well over a phone connection.
-/

namespace VideoGreeting

namespace Encoding

/-! ## Standard values -/

def standardCodec : String := "libx264"

def standardPreset : String := "ultrafast"

/-- Players of all kinds need this one. -/
def standardPixelFormat : String := "yuv420p"

/-- Of the target and of the peak. -/
def standardVideoBitrate : String := "500k"

def standardBufferSize : String := "1000k"

def standardAudioCodec : String := "aac"

def standardAudioBitrate : String := "64k"

def standardAudioChannels : Nat := 1

def standardFramesPerSecond : Nat := 15

end Encoding

/-- How a reel is encoded. -/
structure Encoding where
  codec : String := Encoding.standardCodec
  preset : String := Encoding.standardPreset
  pixelFormat : String := Encoding.standardPixelFormat
  videoBitrate : String := Encoding.standardVideoBitrate
  maxRate : String := Encoding.standardVideoBitrate
  bufferSize : String := Encoding.standardBufferSize
  audioCodec : String := Encoding.standardAudioCodec
  audioBitrate : String := Encoding.standardAudioBitrate
  /-- At most 255. -/
  audioChannels : Nat := Encoding.standardAudioChannels
  /-- Frames per second, within 32 bits. -/
  framesPerSecond : Nat := Encoding.standardFramesPerSecond
  /-- Whether the reel ends with the shortest of its streams. -/
  shortest : Bool := true
  /-- More engine options, placed last. -/
  extraArguments : List String := []
  deriving Repr, DecidableEq, Inhabited

namespace Encoding

/-- The engine options for an encoding. -/
def arguments (e : Encoding) : List String :=
  (if e.shortest then ["-shortest"] else []) ++
  [ "-c:v", e.codec,
    "-c:a", e.audioCodec,
    "-pix_fmt", e.pixelFormat,
    "-b:v", e.videoBitrate,
    "-maxrate", e.maxRate,
    "-bufsize", e.bufferSize,
    "-b:a", e.audioBitrate,
    "-ac", toString e.audioChannels,
    "-r", toString e.framesPerSecond,
    "-preset", e.preset ] ++
  e.extraArguments

/-! ## Exchange -/

/-- The names of the fields in their order. -/
def fieldNames : List String :=
  ["codec", "preset", "pix_fmt", "video_bitrate", "max_rate", "bufsize", "audio_codec",
    "audio_bitrate", "audio_channels", "fps", "shortest", "extra_args"]

/-- The values of the fields in the order of their names. -/
def fieldValues (e : Encoding) : List Json :=
  [.string e.codec, .string e.preset, .string e.pixelFormat, .string e.videoBitrate,
    .string e.maxRate, .string e.bufferSize, .string e.audioCodec, .string e.audioBitrate,
    .int e.audioChannels, .int e.framesPerSecond, .bool e.shortest, .strings e.extraArguments]

/-- All fields of an encoding. -/
def toJson (e : Encoding) : Json := .object (fieldNames.zip e.fieldValues)

/-- Reads an encoding; a field that is left out has a standard value of its own. -/
def ofJson? (j : Json) : Option Encoding := do
  let text := Json.optional Json.string?
  match ← j.record? fieldNames with
  | [codec, preset, pixelFormat, videoBitrate, maxRate, bufferSize, audioCodec, audioBitrate,
      audioChannels, framesPerSecond, shortest, extraArguments] =>
    return {
      codec := ← text standardCodec codec
      preset := ← text standardPreset preset
      pixelFormat := ← text standardPixelFormat pixelFormat
      videoBitrate := ← text standardVideoBitrate videoBitrate
      maxRate := ← text standardVideoBitrate maxRate
      bufferSize := ← text standardBufferSize bufferSize
      audioCodec := ← text standardAudioCodec audioCodec
      audioBitrate := ← text standardAudioBitrate audioBitrate
      audioChannels := ←
        Json.optional (Json.nat? Number.maxWord8) standardAudioChannels audioChannels
      framesPerSecond := ←
        Json.optional (Json.nat? Number.maxWord32) standardFramesPerSecond framesPerSecond
      shortest := ← Json.optional Json.bool? true shortest
      extraArguments := ← Json.optional (Json.list? Json.string?) [] extraArguments }
  | _ => none

end Encoding

end VideoGreeting
