import EventSourcing.Json.Basic
import EventSourcing.Trace

/-!
# Traces as JSON

An entry is shown with all that it carries, but not the end of a span; a line of a log shows events
only, with the message among the fields.
-/

namespace EventSourcing.Trace

def Value.json : Value → Json
  | .flag value => .bool value
  | .number value => .int value
  | .text value => .text value

/-- Fields, each under its name. -/
def fieldsJson (fields : Fields) : List (String × Json) :=
  fields.map fun f => (f.1, f.2.json)

/-- An entry, unless it is the end of a span. -/
def Entry.json? : Entry → Option Json
  | .event level _ fields message =>
    some <| Json.object [("level", .text level.name), ("message", .text message),
      ("fields", Json.object (fieldsJson fields))]
  | .opened span =>
    some <| Json.object [("span", .text span.name), ("level", .text span.level.name),
      ("fields", Json.object (fieldsJson span.fields))]
  | .record name fields =>
    some <| Json.object [("record", .text name), ("fields", Json.object (fieldsJson fields))]
  | .closed _ => none

/-- The line of the log for an entry, if it is an event. -/
def Entry.logLine? : Entry → Option Json
  | .event level target fields message =>
    some <| Json.object [("level", .text level.name), ("target", .text target),
      ("fields", Json.object (fieldsJson fields ++ [("message", .text message)]))]
  | _ => none

end EventSourcing.Trace
