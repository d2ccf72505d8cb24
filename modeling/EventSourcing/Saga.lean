import EventSourcing.Dispatcher
import EventSourcing.Store.Interface

/-!
# Sagas

A saga decides commands on the snapshot of their entity. A command that it accepts gives a new
snapshot, which is stored, and events, which are published. If an event does not get through, the
snapshot that was there before is put back.

A command of a replay that the snapshot reflects already is passed over.
-/

namespace EventSourcing

structure Outcome (S E : Type) where
  snapshot : S
  events : List E := []
  deriving DecidableEq

/-- A saga: what it is called, how it decides, where its snapshots are, where its events go, and the
names of the types of commands that it handles. -/
structure Saga (m : Type → Type) (C E S : Type) where
  name : String
  decide : Option S → Envelope C → m (Except DomainError (Outcome S E))
  snapshots : SnapshotStore m S
  events : EventQueue m E
  subscriptions : List String := []

namespace Saga

variable {σ : Type} {m : Type → Type} [Host σ m] {C E S : Type} [PayloadKind C] [PayloadKind E]
  [Snapshot S]

/-- A saga whose decisions follow from the snapshot and the command alone. -/
def ofRule (name : String)
    (rule : Option S → Envelope C → Except DomainError (Outcome S E))
    (snapshots : SnapshotStore m S) (events : EventQueue m E) : Saga m C E S where
  name := name
  decide current command := pure (rule current command)
  snapshots := snapshots
  events := events

/-- The same saga, which handles one type of command more. -/
def subscribe {V : Type} (saga : Saga m C E S) (variant : Variant C V) : Saga m C E S :=
  { saga with subscriptions := variant.typeName :: saga.subscriptions }

def handles (saga : Saga m C E S) (commandType : String) : Bool :=
  saga.subscriptions.contains commandType

/-- The snapshot reflects a command already: it is one of a replay and not later than the
snapshot. -/
def reflects (current : Option S) (command : Envelope C) : Bool :=
  command.isReplay &&
    current.any fun s => command.sequenceNo.toInt ≤ (Snapshot.version s).toInt

def target : String := "eventline_runtime::saga"

def idText : Option Int64 → String
  | some id => s!"Some({Word.text id})"
  | none => "None"

/-- Puts back what was there before a snapshot was stored. That this may fail as well is only
reported: the command has failed for another reason. -/
def restore (saga : Saga m C E S) (previous : Option S) (persisted : S) : m Unit := do
  let result ← Host.attempt <|
    match previous with
    | some previous => do let _ ← saga.snapshots.persist previous
    | none => saga.snapshots.delete persisted
  match result with
  | .ok () => pure ()
  | .error failure =>
    Host.emit <| .event .warn target
      [("saga", saga.name), ("entity_id", idText (Snapshot.id? persisted)),
        ("error", failure.message)]
      "failed to restore snapshot; replay onto emptied stores to recover"

/-- Stores the snapshot of an accepted command and publishes its events. -/
def apply (saga : Saga m C E S) (current : Option S) (command : Envelope C)
    (outcome : Outcome S E) : Fallible m Unit := do
  let persisted ← saga.snapshots.persist
    (Snapshot.stamped command.entity.id command.sequenceNo outcome.snapshot)
  let events ← Host.sure (command.deriveEvents outcome.events)
  let published ← Host.sure (Host.attempt (saga.events.publishAll events))
  match published with
  | .error failure =>
    Host.sure (saga.restore current persisted)
    throw failure
  | .ok () =>
    Host.note <| .event .debug target
      [("saga", saga.name), ("command_type", command.payloadType),
        ("entity_id", command.entity.id), ("sequence_no", command.sequenceNo),
        ("events", outcome.events.length)]
      "command applied"

def handle (saga : Saga m C E S) (command : Envelope C) : Fallible m Unit :=
  if saga.handles command.payloadType then do
    let current ← saga.snapshots.find command.entity.id
    if reflects current command then
      Host.note <| .event .debug target
        [("saga", saga.name), ("entity_id", command.entity.id),
          ("sequence_no", command.sequenceNo)]
        "command already reflected in snapshot; skipping"
    else
      let decision ← Host.sure (saga.decide current command)
      match decision with
      | .error refusal =>
        Host.note <| .event .info target
          [("saga", saga.name), ("command_type", command.payloadType),
            ("entity_id", command.entity.id), ("error", refusal.message)]
          "command refused"
        throw refusal
      | .ok outcome => saga.apply current command outcome
  else pure ()

def subscriber (saga : Saga m C E S) : Subscriber m C := ⟨saga.name, saga.handle⟩

end Saga

end EventSourcing
