import VideoGreeting.Engine.Progress
import VideoGreeting.Text.Lines

/-!
# The engine's log

The log is read line by line. Assignments are progress; of all other lines that are not blank the
last ones are kept, to tell what went wrong.
-/

namespace VideoGreeting.Engine

open Text (Bytes)

/-- What was read of a log. -/
structure Log where
  progress : Progress := {}
  /-- The reports in the order in which they came. -/
  reports : List Progress := []
  /-- The last lines that are no progress. -/
  tail : List String := []
  deriving Repr, Inhabited

namespace Log

/-- How many lines are kept. -/
def maxTail : Nat := 40

/-- The last `maxTail` lines. -/
def keep (lines : List String) : List String := lines.drop (lines.length - maxTail)

/-- Reads a line. -/
def readLine (log : Log) (line : String) : Log :=
  match Progress.assignment? line with
  | some (key, value) =>
    let progress := log.progress.assign key value
    { log with
      progress
      reports := if Progress.endsReport key then log.reports ++ [progress] else log.reports }
  | none =>
    if line.toList.all Text.isBlank then log
    else { log with tail := keep (log.tail ++ [line]) }

/-- Reads lines in their order. -/
def ofLines (lines : List String) : Log := lines.foldl readLine {}

/-! ## Lines -/

/-- The lines of a log up to the first that is no text. -/
def readableLines (bytes : Bytes) : List String :=
  ((Text.lines bytes).map Text.strict?).takeWhile Option.isSome |>.filterMap id

/-- Reads a log. -/
def ofBytes (bytes : Bytes) : Log := ofLines (readableLines bytes)

/-! ## Diagnostics -/

/-- The kept lines as one text. -/
def tailText (log : Log) : String := "\n".intercalate log.tail

/-- The kept lines as one text, if there is any. -/
def diagnostics? (log : Log) : Option String :=
  if log.tailText.isEmpty then none else some log.tailText

/-- The last line of what was kept, or a general remark. -/
def lastLine (log : Log) : String :=
  ((Text.textLines log.tailText.toList).getLast?.map String.ofList).getD
    "FFmpeg exited with non-zero status"

end Log

end VideoGreeting.Engine
