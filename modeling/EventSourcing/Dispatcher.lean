import EventSourcing.Envelope
import EventSourcing.Host

/-!
# Fan-out

A dispatcher hands an envelope to every subscriber, whichever of them fail, and fails with what they
report: with the failure itself if there is one, with all of them in the order of the subscribers if
there are more.
-/

namespace EventSourcing

structure Subscriber (m : Type → Type) (P : Type) where
  name : String
  handle : Envelope P → Fallible m Unit

inductive Traffic where
  | commands | events
  deriving DecidableEq

def Traffic.noun : Traffic → String
  | .commands => "command"
  | .events => "event"

def Traffic.target (traffic : Traffic) : String :=
  "eventline_runtime::" ++ traffic.noun ++ "_dispatcher"

structure Dispatcher (m : Type → Type) (P : Type) where
  traffic : Traffic
  subscribers : List (Subscriber m P)

namespace Dispatcher

variable {σ : Type} {m : Type → Type} [Host σ m] {P : Type} [PayloadKind P]

def size (dispatcher : Dispatcher m P) : Nat := dispatcher.subscribers.length

/-- The failures among some results, in order. -/
def failuresOf : List (Except DomainError Unit) → List DomainError
  | [] => []
  | .ok () :: results => failuresOf results
  | .error failure :: results => failure :: failuresOf results

def settled (results : List (Except DomainError Unit)) : Except DomainError Unit :=
  match DomainError.ofFailures? (failuresOf results) with
  | some failure => .error failure
  | none => .ok ()

/-- The entry of the trace for a dispatcher without subscribers. -/
def nobody (traffic : Traffic) (envelope : Envelope P) : Trace.Entry :=
  .event .info traffic.target
    [(traffic.noun ++ "_type", envelope.payloadType), ("entity_id", envelope.entity.id)]
    ("no " ++ traffic.noun ++ " subscribers registered")

def span (dispatcher : Dispatcher m P) (envelope : Envelope P) : Trace.Span where
  level := .debug
  target := dispatcher.traffic.target
  name := dispatcher.traffic.noun ++ "_dispatcher.dispatch"
  fields := [(dispatcher.traffic.noun ++ "_type", envelope.payloadType),
    ("entity_id", envelope.entity.id), ("sequence_no", envelope.sequenceNo),
    ("is_replay", envelope.isReplay), ("subscribers", dispatcher.size)]

def failed (traffic : Traffic) (name : String) (failure : DomainError) : Trace.Entry :=
  .event .debug traffic.target [("subscriber", name), ("error", failure.message)]
    (traffic.noun ++ " subscriber failed")

/-- Hands an envelope to one subscriber and tells of its failure. -/
def deliver (traffic : Traffic) (envelope : Envelope P) (subscriber : Subscriber m P) :
    m (Except DomainError Unit) := do
  let result ← Host.attempt (subscriber.handle envelope)
  match result with
  | .ok () => pure (.ok ())
  | .error failure =>
    Host.emit (failed traffic subscriber.name failure)
    pure (.error failure)

/-- Hands an envelope to every subscriber, side by side. -/
def dispatch (dispatcher : Dispatcher m P) (envelope : Envelope P) : Fallible m Unit :=
  if dispatcher.subscribers.isEmpty then
    Host.note (nobody dispatcher.traffic envelope)
  else do
    let results ← Host.during (dispatcher.span envelope) (Host.sure (Host.together
      (dispatcher.subscribers.map (deliver dispatcher.traffic envelope))))
    Host.settle (settled results)

end Dispatcher

structure EventQueue (m : Type → Type) (E : Type) where
  dispatcher : Dispatcher m E

namespace EventQueue

variable {σ : Type} {m : Type → Type} [Host σ m] {E : Type} [PayloadKind E]

def ofSubscribers (subscribers : List (Subscriber m E)) : EventQueue m E := ⟨⟨.events, subscribers⟩⟩

/-- The entry of the trace for an event that is let in. -/
def queued (event : Envelope E) : Trace.Entry :=
  .event .debug "eventline_runtime::event_queue"
    [("event_type", event.payloadType), ("entity_id", event.entity.id),
      ("sequence_no", event.sequenceNo), ("is_replay", event.isReplay)]
    "event queued"

/-- Hands an event to every subscriber, if it is well formed. -/
def publish (queue : EventQueue m E) (event : Envelope E) : Fallible m Unit := do
  Host.settle event.validate
  Host.note (queued event)
  queue.dispatcher.dispatch event

/-- Publishes events one after the other, up to the first that fails. -/
def publishAll (queue : EventQueue m E) : List (Envelope E) → Fallible m Unit
  | [] => pure ()
  | event :: events => do
    queue.publish event
    queue.publishAll events

end EventQueue

end EventSourcing
