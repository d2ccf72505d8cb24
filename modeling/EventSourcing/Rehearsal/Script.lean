import EventSourcing.Saga

/-!
# Scripted sagas

A scripted saga decides by a list of decisions that was written beforehand, one for each command
that it is asked about.
-/

namespace EventSourcing

/-- The decisions that are left, in order. -/
abbrev Script (S E : Type) : Type := List (Except DomainError (Outcome S E))

/-- Takes the next decision; a script that has come to its end refuses. -/
def Script.next {S E : Type} : Script S E → Except DomainError (Outcome S E) × Script S E
  | [] => (.error (.ruleViolation "script exhausted"), [])
  | decision :: script => (decision, script)

def Saga.scripted {σ : Type} {m : Type → Type} [Host σ m] {C E S : Type} (name : String)
    (script : Cell σ (Script S E)) (snapshots : SnapshotStore m S) (events : EventQueue m E)
    (subscriptions : List String) : Saga m C E S where
  name := name
  decide _ _ := script.visit Script.next
  snapshots := snapshots
  events := events
  subscriptions := subscriptions

end EventSourcing
