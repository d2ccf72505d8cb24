import EventSourcing.Demo
import EventSourcing.Json.Printer
import EventSourcing.Trace.Form

/-!
# The command line

Gives the demonstration in the environment of the process and writes its log, one line for each
entry.
-/

namespace EventSourcing.CommandLine

def valueText : Trace.Value → String
  | .flag value => if value then "true" else "false"
  | .number value => toString value
  | .text value => value

def prettyLine? : Trace.Entry → Option String
  | .event level target fields message =>
    some <| level.name ++ " " ++ target ++ ": " ++
      ", ".intercalate (message :: fields.map fun f => f.1 ++ ": " ++ valueText f.2)
  | _ => none

def line? : Logging.Format → Trace.Entry → Option String
  | .json, entry => entry.logLine?.map Json.compact
  | .pretty, entry => prettyLine? entry

/-- The instant that the clock of the demonstration shows; no line of its log has the time. -/
def epoch : Instant := .epoch

end EventSourcing.CommandLine

open EventSourcing CommandLine in
/-- Reads the variables, gives the demonstration and writes what it leaves behind. -/
def main : IO UInt32 := do
  let format ← IO.getEnv Logging.formatVariable
  let filter ← IO.getEnv Logging.filterVariable
  let account ← IO.getEnv Demo.accountVariable
  let look (name : String) : Option String :=
    if name = Logging.formatVariable then format
    else if name = Logging.filterVariable then filter
    else if name = Demo.accountVariable then account
    else none
  let seed ← IO.rand 0 0x3FFFFFFFFFFFFFFF
  let report := Demo.report look epoch { nth := fun n => Uuid.ofSerial (seed + n) }
  for line in report.log.filterMap (line? report.format) do
    IO.println line
  IO.eprint report.lastWords
  return report.exitCode.toUInt32
