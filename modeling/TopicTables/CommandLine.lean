import TopicTables.File.Settings
import TopicTables.Discovery.Log
import TopicTables.Text.Digit

/-! The command line: checks a settings file before it is used.

The one argument is the path of the file. Every table of the file is resolved; the exit
code is 0 if all of them are accepted and 1 if there are violations, and every finding
is logged. -/
namespace TopicTables

/-- What the arguments ask for. -/
inductive Invocation where
  /-- Check the file at the path, as it was written. -/
  | check (path : Text)
  | help
  /-- The arguments cannot be understood. -/
  | misuse
  deriving DecidableEq, Repr

namespace Invocation

/-- What one argument is. -/
inductive Argument where
  | positional
  | help
  /-- The help option with a value, which it does not take. -/
  | malformedHelp
  | unknown
  deriving DecidableEq, Repr

/-- A minus sign and a decimal number, in digits of any script. A line feed may end it. -/
def isNegativeNumber (argument : Text) : Bool :=
  match if argument.getLast? = some '\n' then argument.dropLast else argument with
  | '-' :: t => match t.dropWhile isAnyDigit with
    | [] => t ≠ []
    | '.' :: places => places ≠ [] && places.all isAnyDigit
    | _ => false
  | _ => false

/-- Letters behind a dash ask for help if all of them do. -/
def ofCluster (letters : Text) : Argument :=
  if letters.all (· = 'h') then .help else .malformedHelp

/-- The kind of an argument that starts with two dashes. Its name may be cut short. -/
def classifyLong (name : Text) : Argument :=
  let word := name.takeWhile (· ≠ '=')
  if word.isPrefixOf "help".toList then
    if name.contains '=' then .malformedHelp else .help
  else if name.contains ' ' then .positional
  else .unknown

/-- The kind of an argument in front of a double dash. -/
def classify (argument : Text) : Argument :=
  match argument with
  | '-' :: '-' :: name => classifyLong name
  | ['-', 'h', '='] => .malformedHelp
  | '-' :: 'h' :: '=' :: letters => ofCluster letters
  | '-' :: 'h' :: letters => ofCluster letters
  | '-' :: _ :: _ =>
    if isNegativeNumber argument || argument.contains ' ' then .positional else .unknown
  | _ => .positional

/-- Reads arguments from left to right. Help counts as soon as it is reached, and
everything behind a double dash is positional. -/
def parseFrom (positionals : List Text) (unknown : Bool) : List Text → Invocation
  | [] => match positionals, unknown with
    | [path], false => .check path
    | _, _ => .misuse
  | argument :: rest =>
    if argument = ['-', '-'] then
      match positionals ++ rest, unknown with
      | [path], false => .check path
      | _, _ => .misuse
    else match classify argument with
      | .positional => parseFrom (positionals ++ [argument]) unknown rest
      | .help => .help
      | .malformedHelp => .misuse
      | .unknown => parseFrom positionals true rest

/-- What a list of arguments asks for. -/
def parse (arguments : List Text) : Invocation := parseFrom [] false arguments

end Invocation

/-- Why a check ends without a verdict. -/
inductive CheckFault where
  | load (fault : LoadFault)
  | halt (halt : Halt)
  deriving DecidableEq, Repr

def CheckFault.message : CheckFault → Text
  | .load fault => fault.message
  | .halt h => h.message

/-- A check: its verdict as an exit code, and everything that was logged. -/
abbrev Report := Logged CheckFault Nat

/-- Checks a bag that was loaded from the file at a path. -/
def checkBag (path : Text) (bag : Bag) : Report := do
  match ← (discoverLogged bag).attempt with
  | .ok configs =>
    if configs.isEmpty then .emit [.noTables path]
    .emit (configs.map fun c => .summary c.topic c.summary)
    return 0
  | .error (.rejected violations) =>
    .emit (violations.map .violation)
    return 1
  | .error (.aborted halt) => .quiet (.error (.halt halt))

/-- Checks what was loaded from the file at a path. -/
def checkLoaded (path : Text) : Except LoadFault TextBag → Report
  | .ok bag => checkBag path bag.toBag
  | .error fault => .quiet (.error (.load fault))

/-- Checks the settings file at a path of a tree. -/
def check (tree : FileTree) (path : Text) : Report :=
  checkLoaded path (load tree (Path.ofText path))

end TopicTables
