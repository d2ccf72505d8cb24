import EventSourcing.Dispatcher

/-!
# Subscribers for rehearsals

A recorder takes everything down and never fails; a refuser takes nothing and always fails.
-/

namespace EventSourcing.Subscriber

/-- The subscriber that adds every envelope to a list in the state. -/
def recorder {σ : Type} {m : Type → Type} [Host σ m] {P : Type} (name : String)
    (received : Cell σ (List (Envelope P))) : Subscriber m P where
  name := name
  handle envelope := Host.sure (received.update fun list => list ++ [envelope])

def refuser {m : Type → Type} [Monad m] {P : Type} (reason : String) : Subscriber m P where
  name := "failing"
  handle _ := throw (.ruleViolation reason)

end EventSourcing.Subscriber
