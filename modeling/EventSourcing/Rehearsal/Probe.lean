import EventSourcing.Account.Summary

/-!
# Probe views

A probe keeps summaries by transforms that show which of them ran: one that creates takes the name
of the event for the holder, one that updates counts. Either may be told to refuse.
-/

namespace EventSourcing

structure ProbeStep where
  creates : Bool
  id : Option Int64
  refusal : Option String

namespace ProbeStep

/-- A value, unless the step refuses. -/
def unlessRefused {α : Type} (step : ProbeStep) (value : α) : Except DomainError α :=
  match step.refusal with
  | some reason => .error (.ruleViolation reason)
  | none => .ok value

def created (step : ProbeStep) (name : String) : AccountSummary :=
  { id := step.id, holder := name }

def updated (step : ProbeStep) (summary : AccountSummary) : AccountSummary :=
  { summary with
    id := step.id <|> summary.id
    transactionCount := summary.transactionCount + 1 }

end ProbeStep

/-- The same probe with a step for a variant of the events. -/
def View.probing {m : Type → Type} {E V : Type} (view : View m E AccountSummary)
    (variant : Variant E V) (step : ProbeStep) : View m E AccountSummary :=
  if step.creates then
    view.onCreate variant fun event _ => step.unlessRefused (step.created event.name)
  else
    view.onUpdate variant fun summary _ _ => step.unlessRefused (step.updated summary)

end EventSourcing
