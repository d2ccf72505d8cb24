import EventSourcing.Store.CommandLog

/-!
# Stores for rehearsals

A journal takes every record as it comes, in one list for all entities, and remembers which entities
were asked for a number. An open shelf gives all its records to everyone. A store that cannot be
reached fails every call.
-/

namespace EventSourcing

/-- All records in the order in which they came, and the entities that were asked for a number. -/
structure Journal where
  records : List StoredCommand := []
  requests : List Int64 := []

namespace Journal

def load (journal : Journal) (entity : Int64) : List StoredCommand :=
  journal.records.filter fun record => record.entityId == entity

def append (journal : Journal) (record : StoredCommand) : Journal :=
  { journal with records := journal.records ++ [record] }

/-- The greatest number in some records, 0 if there are none. -/
def greatestOf : List StoredCommand → Int64
  | [] => 0
  | record :: records =>
    records.foldl (fun n r => if n.toInt < r.sequenceNo.toInt then r.sequenceNo else n)
      record.sequenceNo

/-- The number after the greatest that an entity has, while there is one. -/
def nextSequenceNo? (journal : Journal) (entity : Int64) : Option Int64 :=
  Word.succ? (greatestOf (journal.load entity))

def request (journal : Journal) (entity : Int64) : Journal :=
  { journal with requests := journal.requests ++ [entity] }

/-- The store over a journal that is part of the state. -/
def store {σ : Type} {m : Type → Type} [Host σ m] (journal : Cell σ Journal) : CommandStore m where
  append record := Host.sure (journal.update fun j => j.append record)
  load entity := Host.sure (journal.look fun j => j.load entity)
  nextSequenceNo entity := do
    match ← Host.sure (journal.visit fun j => (j.nextSequenceNo? entity, j.request entity)) with
    | some n => pure n
    | none => throw (.store (exhaustedText entity))

end Journal

/-- The store over a list of records that is the history of every entity; the next number is always
the same. -/
def CommandStore.openShelf {σ : Type} {m : Type → Type} [Host σ m]
    (records : Cell σ (List StoredCommand)) (next : Int64) : CommandStore m where
  append record := Host.sure (records.update fun rs => rs ++ [record])
  load _ := Host.sure (records.look fun rs => rs)
  nextSequenceNo _ := pure next

def CommandStore.unreachable {m : Type → Type} [Monad m] : CommandStore m where
  append _ := throw (.store "connection refused")
  load _ := throw (.store "connection refused")
  nextSequenceNo _ := throw (.store "connection refused")

end EventSourcing
