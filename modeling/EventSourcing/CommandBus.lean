import EventSourcing.Decoders
import EventSourcing.Dispatcher
import EventSourcing.LockTable
import EventSourcing.Store.Interface

/-!
# The command bus

A live command gets the next sequence number of its entity, goes to the subscribers, and is appended
to the history of the entity if none of them fails and its payload can be written. A replay takes the
commands of a history to the subscribers again, in order and marked as such; they are numbered and
recorded already.

Work on one entity is done one at a time.
-/

namespace EventSourcing

/-- The way of the commands to their subscribers and into the store. -/
structure CommandBus (m : Type → Type) (C : Type) where
  store : CommandStore m
  dispatcher : Dispatcher m C
  decoders : Decoders C
  now : Instant
  gate : Gate m

inductive HistoryFault where
  | foreign (entity found : Int64)
  | notRising (entity last found : Int64)
  deriving DecidableEq

def HistoryFault.message : HistoryFault → String
  | .foreign entity found =>
    s!"history for entity {Word.text entity} contains a command for entity {Word.text found}"
  | .notRising entity last found =>
    s!"non-monotonic history for entity {Word.text entity} " ++
      s!"(last={Word.text last}, found={Word.text found})"

/-- Checks that all records are of one entity and that their numbers rise from above `last`. -/
def checkHistory (entity : Int64) (last : Int64) : List StoredCommand → Except HistoryFault Unit
  | [] => .ok ()
  | record :: records =>
    if record.entityId ≠ entity then .error (.foreign entity record.entityId)
    else if record.sequenceNo.toInt ≤ last.toInt then
      .error (.notRising entity last record.sequenceNo)
    else checkHistory entity record.sequenceNo records

namespace CommandBus

variable {σ : Type} {m : Type → Type} [Host σ m] {C : Type} [PayloadKind C]

def target : String := "eventline_runtime::command_bus"

/-- The span in which a command is published; its number is recorded when it is known. -/
def publishSpan (command : Envelope C) : Trace.Span where
  level := .info
  target := target
  name := "command_bus.publish"
  fields := [("command_type", command.payloadType), ("entity_id", command.entity.id),
    ("is_replay", command.isReplay)]
  recordedLater := ["sequence_no"]

/-- The span in which a history is replayed; the number of its commands is recorded at the end. -/
def replaySpan (entity : Int64) : Trace.Span where
  level := .info
  target := target
  name := "command_bus.replay"
  fields := [("entity_id", entity)]
  recordedLater := ["replayed"]

/-- Gives a live command the next number of its entity; others keep theirs. -/
def numbered (bus : CommandBus m C) (command : Envelope C) : Fallible m (Envelope C) :=
  if command.isReplay then pure command
  else do
    let next ← bus.store.nextSequenceNo command.entity.id
    pure (command.atSequenceNo next)

/-- Hands a command to the subscribers and tells of a rejection. -/
def submit (bus : CommandBus m C) (command : Envelope C) : Fallible m Unit := do
  let result ← Host.sure (Host.attempt (bus.dispatcher.dispatch command))
  match result with
  | .ok () => pure ()
  | .error failure =>
    Host.note <| .event .warn target [("error", failure.message)] "command rejected"
    throw failure

/-- Records a live command; others are recorded already. -/
def record (bus : CommandBus m C) (command : Envelope C) : Fallible m Unit :=
  if command.isReplay then pure ()
  else do
    let stored ← Host.settle (StoredCommand.ofCommand command bus.now)
    bus.store.append stored

/-- Publishes a command while nothing else is done on its entity. -/
def publishAlone (bus : CommandBus m C) (command : Envelope C) : Fallible m (Envelope C) := do
  let command ← bus.numbered command
  Host.note <| .record "command_bus.publish" [("sequence_no", command.sequenceNo)]
  bus.submit command
  bus.record command
  Host.note <| .event .info target
    [("command_type", command.payloadType), ("entity_id", command.entity.id),
      ("sequence_no", command.sequenceNo), ("is_replay", command.isReplay)]
    "command published"
  pure command

/-- Publishes a command and gives it as it was handed to the subscribers. -/
def publish (bus : CommandBus m C) (command : Envelope C) : Fallible m (Envelope C) := do
  Host.settle command.validate
  Host.during (publishSpan command)
    (ExceptT.mk (bus.gate.hold command.entity.id (bus.publishAlone command).run))

/-- Hands the commands of a history to the subscribers, up to the first failure. -/
def redeliver (bus : CommandBus m C) : List StoredCommand → Fallible m Unit
  | [] => pure ()
  | stored :: history => do
    let command ← Host.settle (bus.decoders.decodeStored stored)
    Host.note <| .event .debug target
      [("sequence_no", stored.sequenceNo), ("command_type", stored.commandType)]
      "replaying command"
    let result ← Host.sure (Host.attempt (bus.dispatcher.dispatch command))
    match result with
    | .ok () => bus.redeliver history
    | .error failure =>
      Host.note <| .event .warn target
        [("sequence_no", stored.sequenceNo), ("error", failure.message)]
        "replay aborted"
      throw failure

/-- Replays the history of an entity while nothing else is done on it. -/
def replayAlone (bus : CommandBus m C) (entity : Int64) : Fallible m Nat := do
  let history ← bus.store.load entity
  if history.isEmpty then
    Host.note <| .event .debug target [] "no history to replay"
    pure 0
  else
    match checkHistory entity 0 history with
    | .error fault => throw (.store fault.message)
    | .ok () =>
      bus.redeliver history
      Host.note <| .record "command_bus.replay" [("replayed", history.length)]
      Host.note <| .event .info target [("replayed", history.length)] "entity replayed"
      pure history.length

/-- Replays the history of an entity and gives the number of its commands. -/
def replay (bus : CommandBus m C) (entity : Int64) : Fallible m Nat := do
  Host.settle (EntityReference.existing entity).validate
  Host.during (replaySpan entity)
    (ExceptT.mk (bus.gate.hold entity (bus.replayAlone entity).run))

/-! ## Commands for an entity -/

def command (bus : CommandBus m C) (entity : EntityReference) (payload : C) : m (Envelope C) :=
  Envelope.fresh entity payload bus.now

def create (bus : CommandBus m C) (entity : Int64) (payload : C) : Fallible m (Envelope C) := do
  let command ← Host.sure (bus.command (.fresh entity) payload)
  bus.publish command

def execute (bus : CommandBus m C) (entity : Int64) (payload : C) : Fallible m (Envelope C) := do
  let command ← Host.sure (bus.command (.existing entity) payload)
  bus.publish command

end CommandBus

end EventSourcing
