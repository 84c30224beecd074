/-
# The program

Reads the arguments, runs the program on real files, and reports how it went.  What others would
say is said in a few words of its own here, and nothing is logged.
-/

import RecordFilter.CommandLine.Run

namespace RecordFilter
namespace CommandLine

/-- What an action gives, or nothing if it fails. -/
def attempt (action : IO String) : IO (Option String) := do
  match ← action.toBaseIO with
  | .ok text => return some text
  | .error _ => return none

/-- Everything on the standard input. -/
def readStandardInput : IO String := do
  let bytes ← (← IO.getStdin).readBinToEnd
  match String.fromUTF8? bytes with
  | some text => return text
  | none => throw (IO.userError "stream did not contain valid UTF-8")

/-- The files and the standard input of the program. -/
def realSources : Sources IO where
  file name := attempt (IO.FS.readFile name)
  standardInput := attempt readStandardInput

/-- Words for what others say. -/
def plainWording : Wording where
  badArguments _ := Failure.badArguments.line
  unreadable _ := "cannot be read"
  defect
    | .ended => "the text ends too early"
    | .malformed => "the text is not JSON"
    | .mismatched => "the text is JSON of another type"
  log _ := ""

end CommandLine
end RecordFilter

open RecordFilter CommandLine in
/-- Filters JSON records with an expression. -/
def main (arguments : List String) : IO UInt32 := do
  let settingsFile ← IO.getEnv "HISTFILTER_CONFIG"
  let maxDepth ← IO.getEnv "HISTFILTER_MAX_DEPTH"
  let environment (name : String) : Option String :=
    if name = "HISTFILTER_CONFIG" then settingsFile else maxDepth
  let outcome ← execute realSources plainWording arguments environment
  IO.print outcome.output
  IO.eprint outcome.errorOutput
  return outcome.exitCode
