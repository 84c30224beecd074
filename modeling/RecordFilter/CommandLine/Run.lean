/-
# What the program does

The program reads settings, prepares the filter, reads the records and writes those that the filter
keeps, in this order; the first thing that goes wrong ends it.  `report` says so for any way of
reading files (`Sources`), so it can be tried without a file system, and says too what the program
tells its log on the way (`Event`).

How the program ends for the user follows from that (`Outcome`).  Its error output is the log and a
line about what went wrong.  Some of the words there are not its own: those of the system, of the
readers of arguments and of JSON, and of the log (`Wording`).
-/

import RecordFilter.CommandLine.Arguments
import RecordFilter.Engine.Basic
import RecordFilter.Json.Value

namespace RecordFilter
namespace CommandLine

/-- What can go wrong. -/
inductive Failure where
  /-- The arguments make no sense. -/
  | badArguments
  /-- The file with the settings cannot be read. -/
  | unreadableSettings (file : String)
  /-- The file with the settings does not hold settings. -/
  | badSettings (file : String) (error : SettingsError)
  /-- The settings as changed by the arguments make no sense. -/
  | settings (error : SettingsError)
  /-- The expression has a mistake. -/
  | syntaxError (error : SyntaxError)
  /-- The records cannot be read. -/
  | unreadableInput (file : Option String)
  /-- The records are not JSON. -/
  | badInput (defect : Json.Defect)
  /-- The records are no list. -/
  | noList

namespace Failure

/-- The code with which the program ends. -/
def exitCode : Failure → UInt32
  | badArguments | syntaxError _ => 2
  | _ => 1

/-- What the program says, without the reasons behind it. -/
def message : Failure → String
  | badArguments => "bad arguments"
  | unreadableSettings file => "reading config " ++ file
  | badSettings file _ => "parsing config " ++ file
  | settings e => e.message
  | syntaxError e => "syntax error: " ++ e.message
  | unreadableInput (some file) => "reading " ++ file
  | unreadableInput none => "reading stdin"
  | badInput _ => "parsing input JSON"
  | noList => "input must be a JSON array of records"

/-- The line about a failure that has no other reasons. -/
def line (f : Failure) : String := "histfilter: " ++ f.message ++ "\n"

end Failure

/-- What the program tells its log. -/
inductive Event where
  /-- The settings are known. -/
  | settings (settings : Settings)
  /-- The expression has a mistake. -/
  | rejected (expression : String) (error : SyntaxError)
  /-- The expression is prepared, and what was noted on the way. -/
  | prepared (expression : String)
  /-- The records are read. -/
  | loaded (total : Nat)
  /-- The records are filtered, and what was noted on the way. -/
  | filtered (total kept : Nat)
  /-- The output is written. -/
  | done (kept : Nat)
  /-- Something other than the expression is wrong. -/
  | failed (failure : Failure)

/-- Whether an event is an error.  The log tells the other ones only if it is asked to. -/
def Event.isError : Event → Bool
  | failed _ => true
  | _ => false

/-- What is said in words that are not the program's own.  Each is said at most once in a run, so
that words which depend on the time or on a place in a text have this form too. -/
structure Wording where
  /-- What is said about arguments that make no sense. -/
  badArguments : List String → String
  /-- Why a file cannot be read, or the standard input. -/
  unreadable : Option String → String
  /-- What is wrong with a text that is not the JSON asked for, and where. -/
  defect : Json.Defect → String
  /-- What the log writes. -/
  log : Event → String

/-- Whether the log tells errors only, as it does where the environment says nothing else. -/
def Wording.IsQuiet (w : Wording) : Prop := ∀ e, e.isError = false → w.log e = ""

namespace Failure

/-- The reasons for a failure, each with its own reason behind it. -/
def reasons (w : Wording) : Failure → List String
  | unreadableSettings file => [w.unreadable (some file)]
  | badSettings _ (.json d) => [(SettingsError.json d).message ++ ": " ++ w.defect d, w.defect d]
  | badSettings _ e => [e.message]
  | unreadableInput file => [w.unreadable file]
  | badInput d => [w.defect d]
  | badArguments | settings _ | syntaxError _ | noList => []

/-- The line about a failure, with its reasons. -/
def fullLine (w : Wording) (f : Failure) : String :=
  "histfilter: " ++ ": ".intercalate (f.message :: f.reasons w) ++ "\n"

end Failure

/-- Ways to read what the program works on; `none` is what cannot be read. -/
structure Sources (m : Type → Type) where
  /-- Reads a file by its name. -/
  file : String → m (Option String)
  /-- Reads the standard input. -/
  standardInput : m (Option String)

/-- The settings that the arguments ask for, from the text of the file with the settings. -/
def settingsFor (arguments : Arguments) (text : Option (Option String)) :
    Except Failure Settings := do
  let base ←
    match arguments.settings, text with
    | some file, some (some text) =>
      match Settings.ofJson text with
      | .ok s => .ok s
      | .error e => .error (.badSettings file e)
    | some file, _ => .error (.unreadableSettings file)
    | none, _ => .ok Settings.default
  let changed :=
    match arguments.maxDepth with
    | some n => { base with maxDepth := n }
    | none => base
  match changed.validated with
  | .ok s => .ok s
  | .error e => .error (.settings e)

/-- The filter of the expression under given settings. -/
def filterFor (arguments : Arguments) (settings : Settings) : Except SyntaxError Filter :=
  (Engine.compile (.ofSettings settings) arguments.expression).1.map Built.value

/-- The records of a text. -/
def recordsOf (file : Option String) (text : Option String) : Except Failure (List Value) :=
  match text.map Value.ofJson with
  | none => .error (.unreadableInput file)
  | some (.error d) => .error (.badInput d)
  | some (.ok (.list records)) => .ok records
  | some (.ok _) => .error .noList

/-- The output: the records that the filter keeps, as JSON in one line or many. -/
def outputOf (pretty : Bool) (kept : List Value) : String :=
  let v := Value.list kept
  (if pretty then v.toIndentedJson else v.toJson) ++ "\n"

/-- What a run comes to. -/
structure Report where
  /-- What the log is told, in order. -/
  events : List Event
  /-- The output, or what went wrong. -/
  result : Except Failure String

/-- Runs the program on its arguments, with what it tells its log. -/
def report [Monad m] (sources : Sources m) (arguments : Arguments) : m Report := do
  let settingsText ← arguments.settings.mapM sources.file
  match settingsFor arguments settingsText with
  | .error e => return ⟨[.failed e], .error e⟩
  | .ok settings =>
    match filterFor arguments settings with
    | .error e =>
      return ⟨[.settings settings, .rejected arguments.expression e], .error (.syntaxError e)⟩
    | .ok f =>
      let text ←
        match arguments.input with
        | some file => sources.file file
        | none => sources.standardInput
      let begun : List Event := [.settings settings, .prepared arguments.expression]
      match recordsOf arguments.input text with
      | .error e => return ⟨begun ++ [.failed e], .error e⟩
      | .ok records =>
        let kept := f.apply records
        return ⟨begun ++ [.loaded records.length, .filtered records.length kept.length,
          .done kept.length], .ok (outputOf arguments.pretty kept)⟩

/-- Runs the program on its arguments. -/
def run [Monad m] (sources : Sources m) (arguments : Arguments) : m (Except Failure String) := do
  return (← report sources arguments).result

/-- How the program ends. -/
structure Outcome where
  /-- The code with which it ends. -/
  exitCode : UInt32
  /-- What it writes to its output. -/
  output : String
  /-- What it writes to its error output. -/
  errorOutput : String
deriving DecidableEq, Repr

/-- How the program ends with what a run came to. -/
def Outcome.ofReport (w : Wording) (r : Report) : Outcome :=
  let logged := String.join (r.events.map w.log)
  match r.result with
  | .ok output => ⟨0, output, logged⟩
  | .error f => ⟨f.exitCode, "", logged ++ f.fullLine w⟩

/-- The program, from the arguments as they are given. -/
def execute [Monad m] (sources : Sources m) (w : Wording) (arguments : List String)
    (environment : String → Option String) : m Outcome := do
  match Arguments.ofList? arguments environment with
  | some a => return .ofReport w (← report sources a)
  | none => return ⟨Failure.badArguments.exitCode, "", w.badArguments arguments⟩

end CommandLine
end RecordFilter
