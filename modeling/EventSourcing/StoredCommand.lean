import EventSourcing.Envelope

/-!
# Stored commands

What a log keeps of a command: its payload as JSON under the name of its type, and when it was
recorded.
-/

namespace EventSourcing

structure StoredCommand where
  entityId : Int64
  sequenceNo : Int64
  commandName : String
  commandType : String
  payload : Json
  metadata : Metadata
  recordedAt : Instant
  deriving DecidableEq

namespace StoredCommand

/-- The record of a command whose payload was written as JSON. -/
def holding {C : Type} [PayloadKind C] (command : Envelope C) (payload : Json)
    (recordedAt : Instant) : StoredCommand where
  entityId := command.entity.id
  sequenceNo := command.metadata.sequenceNo
  commandName := command.name
  commandType := command.payloadType
  payload := payload
  metadata := command.metadata
  recordedAt := recordedAt

/-- The record of a command, if its payload can be written. -/
def ofCommand {C : Type} [PayloadKind C] (command : Envelope C) (recordedAt : Instant) :
    Except DomainError StoredCommand :=
  (payloadJson command.payload).map fun payload => holding command payload recordedAt

/-- A record of a command differs from others by what the payload was written as. -/
theorem exists_payload_of_ofCommand {C : Type} [PayloadKind C] {command : Envelope C}
    {recordedAt : Instant} {record : StoredCommand} (h : ofCommand command recordedAt = .ok record) :
    ∃ payload, payloadJson command.payload = .ok payload ∧
      holding command payload recordedAt = record := by
  unfold ofCommand at h
  cases hp : payloadJson command.payload with
  | error failure => simp [hp, Except.map] at h
  | ok payload =>
    rw [hp] at h
    exact ⟨payload, rfl, Except.ok.inj h⟩

def fields : Fields (Int64 × Int64 × String × String × Json × Metadata × Instant) :=
  (Fields.one Int64 "entity_id").andThen <| (Fields.one Int64 "sequence_no").andThen <|
    (Fields.one String "command_name").andThen <| (Fields.one String "command_type").andThen <|
    (Fields.one Json "payload").andThen <| (Fields.one Metadata "metadata").andThen <|
    Fields.one Instant "recorded_at"

instance : JsonForm StoredCommand where
  toJson record := .record [
    ("command_name", toJson record.commandName),
    ("command_type", toJson record.commandType),
    ("entity_id", toJson record.entityId),
    ("metadata", toJson record.metadata),
    ("payload", record.payload),
    ("recorded_at", toJson record.recordedAt),
    ("sequence_no", toJson record.sequenceNo)]
  ofJson json := do
    let (entityId, sequenceNo, commandName, commandType, payload, metadata, recordedAt) ←
      fields.read "StoredCommand" json
    return ⟨entityId, sequenceNo, commandName, commandType, payload, metadata, recordedAt⟩

end StoredCommand

end EventSourcing
