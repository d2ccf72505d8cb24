import EventSourcing.Host
import EventSourcing.Json.Form

/-!
# Metadata

What a command or an event carries beside its payload: who it is, when it occurred, its place in the
history of its entity, whether it comes from a replay, and free properties.
-/

namespace EventSourcing

structure Metadata where
  eventId : Uuid
  occurredOn : Instant
  sequenceNo : Int64
  isReplay : Bool
  properties : Properties
  deriving DecidableEq

namespace Metadata

def causationId : String := "causation_id"

def new (eventId : Uuid) (occurredOn : Instant) : Metadata :=
  ⟨eventId, occurredOn, 0, false, ∅⟩

/-- The metadata of something that follows from this: all is kept but the id, and the cause is
named among the properties. -/
def derive (metadata : Metadata) (eventId : Uuid) : Metadata :=
  { metadata with
    eventId
    properties := metadata.properties.insert causationId metadata.eventId.text }

def property? (metadata : Metadata) (key : String) : Option String := metadata.properties[key]?

def fresh {σ : Type} {m : Type → Type} [Host σ m] (occurredOn : Instant) : m Metadata := do
  let id ← Host.freshId
  return new id occurredOn

def deriveFresh {σ : Type} {m : Type → Type} [Host σ m] (metadata : Metadata) : m Metadata := do
  let id ← Host.freshId
  return metadata.derive id

def fields : Fields (Uuid × Instant × Int64 × Bool × Properties) :=
  (Fields.one Uuid "event_id").andThen <| (Fields.one Instant "occurred_on").andThen <|
    (Fields.one Int64 "sequence_no").andThen <| (Fields.one Bool "is_replay").andThen <|
    Fields.one Properties "properties"

instance : JsonForm Metadata where
  toJson metadata := .record [
    ("event_id", toJson metadata.eventId),
    ("is_replay", toJson metadata.isReplay),
    ("occurred_on", toJson metadata.occurredOn),
    ("properties", toJson metadata.properties),
    ("sequence_no", toJson metadata.sequenceNo)]
  ofJson json := do
    let (eventId, occurredOn, sequenceNo, isReplay, properties) ← fields.read "Metadata" json
    return ⟨eventId, occurredOn, sequenceNo, isReplay, properties⟩

end Metadata

end EventSourcing
