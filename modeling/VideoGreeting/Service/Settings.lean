import VideoGreeting.Environment
import VideoGreeting.Path

/-!
# Settings of the service
-/

namespace VideoGreeting.Service

/-- How the service listens and what it allows. -/
structure Settings where
  host : String := "0.0.0.0"
  /-- At most 65535. -/
  serverPort : Nat := 3000
  /-- The sites whose pages may use the service; a star stands for all. -/
  origins : List String := ["*"]
  /-- The greatest number of bytes in the body of a request. -/
  maxBodySize : Nat := 25 * 1024 * 1024
  environment : String := "development"
  /-- Where uploaded images are stored before the engine reads them. -/
  uploadFolder : Path
  /-- Whether the counters can be read. -/
  metricsEnabled : Bool := true
  deriving Repr, DecidableEq

namespace Settings

/-- The folder for temporary files. -/
def temporaryFolder (env : Environment) : Path := ⟨(env.get? "TMPDIR").getD "/tmp"⟩

/-- The settings when an environment asks for nothing else. -/
def standard (env : Environment) : Settings :=
  { uploadFolder := (temporaryFolder env).join ⟨"reel-uploads"⟩ }

/-- The origins in a list with commas between them. -/
def originsOf (value : String) : List String :=
  (Text.splitBy (· == ',') value.toList).map fun cs => Text.trim (String.ofList cs)

/-- The settings that an environment asks for. -/
def ofEnvironment (env : Environment) : Settings :=
  let standard := standard env
  { host := (env.get? "API_HOST").getD standard.host
    serverPort := (env.nat? Number.maxWord16 "API_PORT").getD standard.serverPort
    origins := ((env.get? "CORS_ORIGINS").map originsOf).getD standard.origins
    maxBodySize := (env.nat? Number.maxWord64 "MAX_BODY_SIZE").getD standard.maxBodySize
    environment := (env.get? "ENVIRONMENT").getD standard.environment
    uploadFolder := ((env.get? "UPLOAD_DIR").map Path.mk).getD standard.uploadFolder
    metricsEnabled :=
      ((env.get? "METRICS_ENABLED").map fun v => v == "true" || v == "1").getD
        standard.metricsEnabled }

/-- Whether the service runs in production, where it does not tell what goes wrong inside. -/
def isProduction (s : Settings) : Bool :=
  s.environment.toList.map Number.lowerAscii == "production".toList

end Settings

end VideoGreeting.Service
