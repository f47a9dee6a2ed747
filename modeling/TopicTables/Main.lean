import Std.Time.DateTime.Timestamp
import TopicTables.CommandLine
import TopicTables.Log.Console

/-! The program: checks the settings file that its argument names and logs what it finds
on the error stream. -/
namespace TopicTables

/-- How the program is called. -/
def usage : String := "usage: topic-tables [-h] settings_file"

/-- The log options of the environment. -/
def environmentOptions : IO LogOptions := do
  let setting (name : String) : IO (Option Text) :=
    return (← IO.getEnv name).map fun s => ofChars s.toList
  return .ofEnvironment ⟨← setting "LOG_LEVEL", ← setting "LOGGER_NAME",
    ← setting "LOG_COLOUR_ENABLED"⟩

/-- A text as the system takes it: surrogates stand as their escapes. -/
def outward (t : Text) : String := String.ofList (toChars escapeCodePoint t)

/-- Prints a text as a line of the error stream. -/
def complain (t : Text) : IO Unit := do (← IO.getStderr).putStrLn (outward t)

/-- Logs events that happen now. -/
def logNow (o : LogOptions) (least : Nat) (events : List LogEvent) : IO Unit := do
  let now := (← Std.Time.Timestamp.now).toMillisecondsSinceUnixEpoch.val
  match o.lines least (now.fdiv 1000) (now.fmod 1000).toNat events with
  | .ok lines => lines.forM complain
  | .error fault => complain fault.message

/-- Checks the file at a path, and answers the exit code. -/
def checkFile (o : LogOptions) (least : Nat) (path : Text) : IO UInt32 := do
  let file := Path.ofText path
  let some t := String.fromUTF8? (← IO.FS.readBinFile (outward file.text))
    | complain "the file is not UTF-8".toList
      return 1
  let report := checkLoaded path (loadText file t.toList)
  logNow o least report.log
  match report.outcome with
  | .ok code => return code.toUInt32
  | .error fault =>
    complain fault.message
    return 1

/-- Does what the arguments ask for, and answers the exit code. -/
def run (arguments : List String) : IO UInt32 := do
  let options ← environmentOptions
  match options.threshold, Invocation.parse (arguments.map fun a => ofChars a.toList) with
  | .error message, _ =>
    complain message
    return 1
  | _, .help =>
    IO.println usage
    return 0
  | _, .misuse =>
    complain usage.toList
    return 2
  | .ok least, .check path => checkFile options least path

end TopicTables

/-- The program: its arguments in, its exit code out. -/
def main (arguments : List String) : IO UInt32 := TopicTables.run arguments
