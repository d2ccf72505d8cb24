import EventSourcing.Entity
import EventSourcing.Metadata
import EventSourcing.Payload
import EventSourcing.Text.Blank

/-!
# Envelopes

Commands and events travel in envelopes: a name, metadata, the entity and a payload.
-/

namespace EventSourcing

/-- A command or an event with all that travels with it. -/
structure Envelope (P : Type) where
  name : String
  metadata : Metadata
  entity : EntityReference
  payload : P
  deriving DecidableEq

namespace Envelope

variable {P : Type}

/-- A new envelope, named for the type of its payload. -/
def new [PayloadKind P] (entity : EntityReference) (payload : P) (metadata : Metadata) :
    Envelope P :=
  ⟨typeName payload, metadata, entity, payload⟩

def payloadType [PayloadKind P] (envelope : Envelope P) : String := typeName envelope.payload

/-- The payload, if it is of a given variant. -/
def payloadAs {V : Type} (envelope : Envelope P) (variant : Variant P V) : Option V :=
  variant.peek envelope.payload

def sequenceNo (envelope : Envelope P) : Int64 := envelope.metadata.sequenceNo

def isReplay (envelope : Envelope P) : Bool := envelope.metadata.isReplay

def withProperty (envelope : Envelope P) (key value : String) : Envelope P :=
  { envelope with
    metadata.properties := envelope.metadata.properties.insert key value }

/-- The same envelope, as it comes from a replay. -/
def intoReplay (envelope : Envelope P) : Envelope P :=
  { envelope with metadata.isReplay := true }

def atSequenceNo (envelope : Envelope P) (sequenceNo : Int64) : Envelope P :=
  { envelope with metadata.sequenceNo := sequenceNo }

/-- An envelope needs a name that is not blank and the reference of an entity. -/
def validate [PayloadKind P] (envelope : Envelope P) : Except DomainError Unit :=
  if Text.isBlankText envelope.name then
    .error (.validation s!"{envelope.payloadType} envelope has an empty name")
  else envelope.entity.validate

def deriveEvent {E : Type} [PayloadKind E] (command : Envelope P) (payload : E)
    (eventId : Uuid) : Envelope E :=
  ⟨typeName payload, command.metadata.derive eventId, command.entity, payload⟩

/-- Events that follow from a command, each with a new id. -/
def deriveEvents {σ : Type} {m : Type → Type} [Host σ m] {E : Type} [PayloadKind E]
    (command : Envelope P) (payloads : List E) : m (List (Envelope E)) :=
  payloads.mapM fun payload => do
    let id ← Host.freshId
    return command.deriveEvent payload id

def fresh {σ : Type} {m : Type → Type} [Host σ m] [PayloadKind P] (entity : EntityReference)
    (payload : P) (now : Instant) : m (Envelope P) := do
  let metadata ← Metadata.fresh now
  return new entity payload metadata

def fields (P : Type) [JsonForm P] : Fields (String × Metadata × EntityReference × P) :=
  (Fields.one String "name").andThen <| (Fields.one Metadata "metadata").andThen <|
    (Fields.one EntityReference "entity").andThen <| Fields.one P "payload"

instance [JsonForm P] : JsonForm (Envelope P) where
  toJson envelope := .record [
    ("entity", toJson envelope.entity),
    ("metadata", toJson envelope.metadata),
    ("name", toJson envelope.name),
    ("payload", toJson envelope.payload)]
  ofJson json := do
    let (name, metadata, entity, payload) ← (fields P).read "Envelope" json
    return ⟨name, metadata, entity, payload⟩

end Envelope

end EventSourcing
