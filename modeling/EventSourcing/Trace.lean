import EventSourcing.Word

/-!
# The trace of a run

What a run reports of itself: events, spans that are opened and closed, and values recorded on an
open span after it was opened. Reporting changes nothing else.
-/

namespace EventSourcing.Trace

/-- How much an entry matters, from the least to the most. -/
inductive Level where
  | trace | debug | info | warn | error
  deriving DecidableEq, Repr

namespace Level

def name : Level → String
  | .trace => "TRACE"
  | .debug => "DEBUG"
  | .info => "INFO"
  | .warn => "WARN"
  | .error => "ERROR"

/-- The place of a level, counted from the one that matters most. -/
def verbosity : Level → Nat
  | .error => 1
  | .warn => 2
  | .info => 3
  | .debug => 4
  | .trace => 5

end Level

inductive Value where
  | flag (value : Bool)
  | number (value : Int)
  | text (value : String)
  deriving DecidableEq

instance : Coe Bool Value := ⟨.flag⟩
instance : Coe Int64 Value := ⟨fun n => .number n.toInt⟩
instance : Coe Nat Value := ⟨fun n => .number n⟩
instance : Coe String Value := ⟨.text⟩

abbrev Fields := List (String × Value)

/-- A piece of work, in a part of the program that is named by its target. -/
structure Span where
  level : Level
  target : String
  name : String
  fields : Fields
  /-- The names of the values that are recorded while the work goes on. -/
  recordedLater : List String := []
  deriving DecidableEq

def Span.fieldNames (span : Span) : List String := span.fields.map Prod.fst ++ span.recordedLater

inductive Entry where
  /-- Something happened, in a part of the program that is named by its target. -/
  | event (level : Level) (target : String) (fields : Fields) (message : String)
  /-- A span was opened: what is reported up to its end happened inside of it. -/
  | opened (span : Span)
  | record (span : String) (fields : Fields)
  | closed (span : String)
  deriving DecidableEq

end EventSourcing.Trace
