import LogSieve.Command.Run
import Std.Time.DateTime
import Std.Time.Zoned

/-! The program: it looks up what a run can see, and hands on what comes out. -/

namespace LogSieve.Program

def readFailure : IO.Error → Profile.ReadFailure
  | .noFileOrDirectory .. => .notThere
  | .inappropriateType .. => .isDirectory
  | error => .other (toString error)

/-- The text of a file; bytes that are no text are a failure of their own. -/
def readProfile (path : String) : IO (Except Profile.ReadFailure String) := do
  try
    let bytes ← IO.FS.readBinFile path
    return match String.fromUTF8? bytes with
      | some text => .ok text
      | none => .error .notText
  catch error => return .error (readFailure error)

/-- The wall clock; coordinated time where the machine knows no zone. -/
def wallClock : IO Std.Time.PlainDateTime := do
  try Std.Time.PlainDateTime.now
  catch _ => return .ofWallTime (.ofTimestamp (← Std.Time.Timestamp.now) .zero)

def now : IO Moment := do
  let time ← wallClock
  return {
    year := time.year
    month := time.month.toNat
    day := time.day.toNat
    hour := time.hour.val.toNat
    minute := time.minute.val.toNat
    second := time.second.val.toNat }

def consulted : List String := ["LOG_QUERY_CONFIG", "NO_COLOR", "CLICOLOR", "CLICOLOR_FORCE"]

def profilePath? (environment : Option String) (words : List String) : Option String :=
  match Command.read environment words with
  | .ok invocation => invocation.common.profile
  | .error _ => none

def surroundings (words : List String) : IO Command.Surroundings := do
  let values ← consulted.mapM fun name => do return (name, ← IO.getEnv name)
  let environment (name : String) : Option String := (values.lookup name).join
  let file ← match profilePath? (environment "LOG_QUERY_CONFIG") words with
    | some path => readProfile path
    | none => pure (.error .notThere)
  return { environment, file := fun _ => file, now := ← now, terminal := ← (← IO.getStdout).isTty }

end LogSieve.Program

def main (words : List String) : IO UInt32 := do
  let result := LogSieve.Command.run (← LogSieve.Program.surroundings words) words
  IO.print result.output
  IO.eprint result.errors
  return result.exit.toUInt32
