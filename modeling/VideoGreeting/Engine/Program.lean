import VideoGreeting.Engine.Command
import VideoGreeting.Engine.Log
import VideoGreeting.Failure

/-!
# Running the engine

The engine as it is seen from outside: whether it can be found and started, what it logs, what it
writes, and how it ends.
-/

namespace VideoGreeting.Engine

open Text (Bytes)

/-- What a run amounts to: what it wrote to the output of its command, and its result. A run without
a result goes on forever. -/
structure Run where
  written : Option Bytes := none
  result : Option (Except Failure Unit)

/-- How a process ends for one who waits until its time is up, if it has a limit. -/
inductive Ending where
  | exited (code : Int)
  /-- It is killed by a signal. -/
  | killed
  /-- Waiting for its end fails. -/
  | lost (fault : Fault)
  /-- It does not end by itself, or not before its time is up. -/
  | never
  deriving Repr, DecidableEq

/-- The engine program of a system. -/
inductive Program where
  /-- It cannot be found. -/
  | absent
  /-- It is found but cannot be started. -/
  | unstartable (fault : Fault)
  /-- It logs something until it ends or is stopped, and writes `output` to the output of its
  command if it exits with status 0. -/
  | present (log output : Bytes) (ending : Ending)
  deriving Repr, DecidableEq

namespace Program

/-- Whether the program can be found. -/
def isFound : Program → Bool
  | absent => false
  | _ => true

/-- The result of a process that has ended. -/
def resultOf (log : Log) : Ending → Except Failure Unit
  | .exited code =>
    if code = 0 then .ok ()
    else .error (.engineFailed log.lastLine log.diagnostics? (some code))
  | .lost fault => .error (.disk fault)
  | _ => .error (.engineFailed log.lastLine log.diagnostics? none)

/-- What is read of the log; `timeout` is after how many seconds a process that does not end is
stopped. Of one that goes on, a line is not read before it has ended. -/
def heard (timeout : Option Nat) : Program → Bytes
  | present log _ .never => if timeout.isSome then log else Text.endedLines log
  | present log _ _ => log
  | _ => []

/-- The reports of a run. -/
def reports (timeout : Option Nat) (p : Program) : List Progress :=
  (Log.ofBytes (p.heard timeout)).reports

/-- Runs the program. -/
def run (timeout : Option Nat) : Program → Run
  | absent => { result := some (.error .engineMissing) }
  | unstartable fault => { result := some (.error (.disk fault)) }
  | present log output ending =>
    match ending with
    | .never => { result := timeout.map fun seconds => .error (.timedOut seconds) }
    | _ =>
      { written := if ending = .exited 0 then some output else none
        result := some (resultOf (Log.ofBytes log) ending) }

end Program

end VideoGreeting.Engine
