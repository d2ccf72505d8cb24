import EventSourcing.Store.Interface
import Std.Data.ExtTreeMap

/-!
# The command log

One stream of records for each entity. The records of a stream are numbered from 1 without a gap:
a record is refused unless its number is one more than that of the last record.
-/

namespace EventSourcing

/-- A log of commands, by entity. -/
structure CommandLog where
  streams : Std.ExtTreeMap Int64 (List StoredCommand) := ∅

inductive AppendFault where
  /-- A record with this number or a later one is there already. -/
  | duplicate (sequenceNo entity : Int64)
  | gap (entity : Int64) (expected : Int) (found : Int64)
  deriving DecidableEq

def AppendFault.message : AppendFault → String
  | .duplicate sequenceNo entity =>
    s!"duplicate sequence number {Word.text sequenceNo} for entity {Word.text entity}"
  | .gap entity expected found =>
    s!"sequence gap for entity {Word.text entity}: expected {expected}, got {Word.text found}"

/-- The words for a history that has used up all sequence numbers. -/
def exhaustedText (entity : Int64) : String :=
  s!"no sequence number is left for entity {Word.text entity}"

namespace CommandLog

/-- The stream of an entity; it is empty if nothing was recorded. -/
def load (log : CommandLog) (entity : Int64) : List StoredCommand :=
  (log.streams[entity]?).getD []

/-- The number of the last record of a stream, 0 if there is none. -/
def lastOf (stream : List StoredCommand) : Int64 :=
  match stream.getLast? with
  | some record => record.sequenceNo
  | none => 0

def last (log : CommandLog) (entity : Int64) : Int64 := lastOf (log.load entity)

/-- The number of the next record of an entity, while there are numbers left. -/
def nextSequenceNo? (log : CommandLog) (entity : Int64) : Option Int64 :=
  Word.succ? (log.last entity)

/-- Adds a record at the end of the stream of its entity. -/
def append (log : CommandLog) (record : StoredCommand) : Except AppendFault CommandLog :=
  if record.sequenceNo.toInt ≤ (log.last record.entityId).toInt then
    .error (.duplicate record.sequenceNo record.entityId)
  else if record.sequenceNo.toInt = (log.last record.entityId).toInt + 1 then
    .ok { log with
      streams := log.streams.insert record.entityId (log.load record.entityId ++ [record]) }
  else
    .error (.gap record.entityId ((log.last record.entityId).toInt + 1) record.sequenceNo)

/-- A record is added exactly if its number follows that of the last record. -/
theorem append_isOk_iff {log : CommandLog} {record : StoredCommand} :
    (log.append record).isOk ↔
      record.sequenceNo.toInt = (log.last record.entityId).toInt + 1 := by
  unfold append
  split
  · next h =>
    simp only [Except.isOk, Except.toBool]
    constructor
    · intro hf
      cases hf
    · omega
  · split <;> simp_all [Except.isOk, Except.toBool]

/-- A record that is added stands at the end of the stream of its entity, and no other stream
changes. -/
theorem load_of_append {log log' : CommandLog} {record : StoredCommand}
    (h : log.append record = .ok log') (entity : Int64) :
    log'.load entity =
      if entity = record.entityId then log.load entity ++ [record] else log.load entity := by
  unfold append at h
  split at h
  · cases h
  · split at h
    · cases h
      by_cases he : entity = record.entityId
      · subst he
        simp [load]
      · simp [load, Std.ExtTreeMap.getElem?_insert, he, Ne.symm he]
    · cases h

/-- The entry of the trace for a record that was added. -/
def appended (record : StoredCommand) : Trace.Entry :=
  .event .debug "eventline_store::memory_command_store"
    [("entity_id", record.entityId), ("sequence_no", record.sequenceNo),
      ("command_type", record.commandType)]
    "command appended"

/-- The store over a log that is part of the state. -/
def store {σ : Type} {m : Type → Type} [Host σ m] (log : Cell σ CommandLog) : CommandStore m where
  append record := do
    let outcome ← Host.sure (log.attempt fun l => (l.append record).map fun l => ((), l))
    Host.settle (outcome.mapError fun fault => .store fault.message)
    Host.note (appended record)
  load entity := Host.sure (log.look fun l => l.load entity)
  nextSequenceNo entity := do
    match ← Host.sure (log.look fun l => l.nextSequenceNo? entity) with
    | some n => pure n
    | none => throw (.store (exhaustedText entity))

end CommandLog

end EventSourcing
