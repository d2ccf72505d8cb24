import EventSourcing.Logging.Filter
import EventSourcing.Text.Quoted

/-!
# Logging

Which events of a trace are written, and in which format. Both are set by variables of the
environment; a blank variable counts as absent.
-/

namespace EventSourcing.Logging

inductive Format where
  | json | pretty
  deriving DecidableEq

inductive Fault where
  | unknownFormat (text : String)
  | invalidFilter (reason : String)
  | alreadyInitialized (reason : String)
  deriving DecidableEq

def Fault.message : Fault → String
  | .unknownFormat text => s!"unknown log format: {text} (expected json or pretty)"
  | .invalidFilter reason => s!"invalid log filter: {reason}"
  | .alreadyInitialized reason => s!"tracing already initialized: {reason}"

/-- The name of the cause with what belongs to it in brackets. -/
def Fault.inspect : Fault → String
  | .unknownFormat text => s!"UnknownFormat({Text.quoted text})"
  | .invalidFilter reason => s!"InvalidFilter({Text.quoted reason})"
  | .alreadyInitialized reason => s!"AlreadyInitialized({Text.quoted reason})"

def Format.name : Format → String
  | .json => "json"
  | .pretty => "pretty"

/-- Reads the name of a format, in any case and between blanks. -/
def Format.parse (text : String) : Except Fault Format :=
  match Text.lowerAscii (Text.trim text) with
  | "json" => .ok .json
  | "pretty" => .ok .pretty
  | other => .error (.unknownFormat other)

structure Config where
  format : Format := .json
  filter : String := "info"
  deriving DecidableEq

def formatVariable : String := "EVENTLINE_LOG_FORMAT"

def filterVariable : String := "RUST_LOG"

/-- The value of a variable, if it is set and not blank. -/
def nonBlank (look : String → Option String) (name : String) : Option String :=
  (look name).filter fun value => !Text.isBlankText value

def Config.ofVariables (look : String → Option String) : Except Fault Config := do
  let format ←
    match nonBlank look formatVariable with
    | some text => Format.parse text
    | none => .ok .json
  return { format, filter := (nonBlank look filterVariable).getD "info" }

/-- Sets up logging, which can be done once: gives the filter, or what is wrong. -/
def install (config : Config) (installed : Bool) : Except Fault Filter :=
  match Filter.parse config.filter with
  | .error fault => .error (.invalidFilter fault.message)
  | .ok filter =>
    if installed then
      .error (.alreadyInitialized "a global default trace dispatcher has already been set")
    else .ok filter

/-- The entry of the trace for logging that was set up. -/
def initialized (config : Config) : Trace.Entry :=
  .event .debug "eventline_runtime::telemetry"
    [("format", config.format.name), ("filter", config.filter)] "tracing initialized"

end EventSourcing.Logging
