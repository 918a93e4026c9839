import AttrExpr.Command.Run
import Std.Time.DateTime.Timestamp

/-! The program: it hands its arguments, the environment and the record file to the library and
writes what comes back. -/
set_option autoImplicit false

namespace AttrExpr

/-- The variables that the settings are read from. -/
def settingNames : List String := ["AEL_DATE_FORMAT", "AEL_INSTANT_FORMAT", "AEL_DEFAULT_OFFSET"]

def readVariables : IO (List (String × String)) := do
  let values ← settingNames.mapM fun name => do pure (name, ← IO.getEnv name)
  pure (values.filterMap fun (name, value) => value.map fun text => (name, text))

/-- The reason for which a file could not be read. -/
def readFailure : IO.Error → String
  | .noFileOrDirectory .. => "No such file or directory (os error 2)"
  | error => toString error

def readRecord (path : String) : IO (Except String String) := do
  try pure (.ok (← IO.FS.readFile path))
  catch error => pure (.error (readFailure error))

/-- The file that a command line asks for, read once. -/
def readRecordFor (args : List String) : IO (Except String String) :=
  match Invocation.ofArguments args with
  | .ok ⟨_, command⟩ =>
    match command.recordPath? with
    | some path => readRecord path
    | none => pure (.ok "")
  | .error _ => pure (.ok "")

def readClock : IO Instant := do
  let now ← Std.Time.Timestamp.now
  match Instant.ofNanoseconds? now.toNanosecondsSinceUnixEpoch.val with
  | some instant => pure instant
  | none => throw (.userError "the clock is out of range")

end AttrExpr

open AttrExpr in
def main (args : List String) : IO UInt32 := do
  let settings ← readVariables
  let record ← readRecordFor args
  let clock ← readClock
  let outcome := Command.outcome
    ⟨fun name => settings.lookup name, fun _ => record, clock, Regex.PatternError.message⟩ args
  (← IO.getStdout).putStr outcome.output
  (← IO.getStderr).putStr outcome.errors
  pure outcome.exitCode.toUInt32
