import EventSourcing.Host
import EventSourcing.StoredCommand

/-!
# What a store offers

A command store keeps the history of each entity; a snapshot store keeps one snapshot for each id.
-/

namespace EventSourcing

structure CommandStore (m : Type → Type) where
  /-- Adds a record at the end of the history of its entity. -/
  append : StoredCommand → Fallible m Unit
  load : Int64 → Fallible m (List StoredCommand)
  /-- The sequence number that the next record of an entity will have. -/
  nextSequenceNo : Int64 → Fallible m Int64

/-- A state of an entity that is kept between commands: it knows the id of its entity, once it has
one, and the sequence number of the last command that it reflects. -/
class Snapshot (S : Type) where
  kind : String
  id? : S → Option Int64
  withId : Int64 → S → S
  version : S → Int64
  withVersion : Int64 → S → S
  id?_withId : ∀ id s, id? (withId id s) = some id
  id?_withVersion : ∀ v s, id? (withVersion v s) = id? s
  version_withVersion : ∀ v s, version (withVersion v s) = v
  version_withId : ∀ id s, version (withId id s) = version s

namespace Snapshot

variable {S : Type} [Snapshot S]

/-- The snapshot under an id, unless it has one already. -/
def withDefaultId (id : Int64) (s : S) : S :=
  match id? s with
  | some _ => s
  | none => withId id s

/-- The snapshot of an entity as a command or event leaves it. -/
def stamped (entity version : Int64) (s : S) : S := withVersion version (withDefaultId entity s)

end Snapshot

structure SnapshotStore (m : Type → Type) (S : Type) where
  find : Int64 → Fallible m (Option S)
  persist : S → Fallible m S
  delete : S → Fallible m Unit

/-- The snapshot stored under an id, which has to be there. -/
def SnapshotStore.get {m : Type → Type} [Monad m] {S : Type} [Snapshot S]
    (store : SnapshotStore m S) (id : Int64) : Fallible m S := do
  match ← store.find id with
  | some s => pure s
  | none => throw (.notFound (Snapshot.kind S) id)

variable {σ : Type} {m : Type → Type} [Host σ m]

/-- The same store, which lets others go on before it answers a call. -/
def CommandStore.unhurried (store : CommandStore m) : CommandStore m where
  append record := do Host.sure Host.giveWay; store.append record
  load entity := do Host.sure Host.giveWay; store.load entity
  nextSequenceNo entity := do Host.sure Host.giveWay; store.nextSequenceNo entity

/-- The same store, which lets others go on before it answers a call. -/
def SnapshotStore.unhurried {S : Type} (store : SnapshotStore m S) : SnapshotStore m S where
  find id := do Host.sure Host.giveWay; store.find id
  persist s := do Host.sure Host.giveWay; store.persist s
  delete s := do Host.sure Host.giveWay; store.delete s

end EventSourcing
