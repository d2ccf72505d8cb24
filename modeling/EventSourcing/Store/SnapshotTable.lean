import EventSourcing.Store.Interface
import Std.Data.ExtTreeMap

/-!
# The snapshot table

One snapshot for each id. A snapshot without an id gets the one after the greatest that was ever
stored, also if that has been deleted or cleared since. The count of ids is a word like the ids
themselves: after the greatest word it goes on with the least.
-/

namespace EventSourcing

/-- Snapshots by id, and the id from which new ones are counted. -/
structure SnapshotTable (S : Type) where
  entries : Std.ExtTreeMap Int64 S := ∅
  lastId : Int64 := 0

inductive SnapshotFault where
  /-- A snapshot without an id is stored nowhere. -/
  | withoutId
  | missing (id : Int64)
  deriving DecidableEq

def SnapshotFault.toError (kind : String) : SnapshotFault → DomainError
  | .withoutId => .validation s!"cannot delete {kind} without an id"
  | .missing id => .notFound kind id

namespace SnapshotTable

variable {S : Type} [Snapshot S]

def find (table : SnapshotTable S) (id : Int64) : Option S := table.entries[id]?

def size (table : SnapshotTable S) : Nat := table.entries.size

/-- Stores a snapshot, under its own id or a new one, and gives it as it is stored. -/
def persist (table : SnapshotTable S) (s : S) : S × SnapshotTable S :=
  match Snapshot.id? s with
  | some id =>
    (s,
      { entries := table.entries.insert id s
        lastId := if table.lastId.toInt < id.toInt then id else table.lastId })
  | none =>
    let id := table.lastId + 1
    let s := Snapshot.withId id s
    (s, { entries := table.entries.insert id s, lastId := id })

/-- Takes the snapshot with the id of the given one out of the table. -/
def delete (table : SnapshotTable S) (s : S) : Except SnapshotFault (SnapshotTable S) :=
  match Snapshot.id? s with
  | some id =>
    match table.entries[id]? with
    | some _ => .ok { table with entries := table.entries.erase id }
    | none => .error (.missing id)
  | none => .error .withoutId

/-- Takes all snapshots out; the ids stay used. -/
def clear (table : SnapshotTable S) : SnapshotTable S := { table with entries := ∅ }

omit [Snapshot S] in
/-- Nothing is found in a table that was cleared. -/
theorem find_clear (table : SnapshotTable S) (id : Int64) : table.clear.find id = none := by
  simp [clear, find]

/-- A snapshot that is stored is found under its id, and nothing changes under other ids. -/
theorem find_of_persist {table table' : SnapshotTable S} {s stored : S}
    (h : table.persist s = (stored, table')) (id : Int64) :
    table'.find id = if Snapshot.id? stored = some id then some stored else table.find id := by
  unfold persist at h
  split at h
  · next own hid =>
    cases h
    by_cases he : own = id
    · subst he
      simp [find, hid]
    · simp [find, hid, Std.ExtTreeMap.getElem?_insert, he]
  · cases h
    by_cases he : table.lastId + 1 = id
    · subst he
      simp [find, Snapshot.id?_withId]
    · simp [find, Snapshot.id?_withId, Std.ExtTreeMap.getElem?_insert, he]

/-- Nothing is found under the id of a snapshot that was deleted, and nothing changes under other
ids. -/
theorem find_of_delete {table table' : SnapshotTable S} {s : S}
    (h : table.delete s = .ok table') (id : Int64) :
    table'.find id = if Snapshot.id? s = some id then none else table.find id := by
  unfold delete at h
  split at h
  · next own hid =>
    split at h
    · cases h
      by_cases he : own = id
      · subst he
        simp [find, hid]
      · simp [find, hid, Std.ExtTreeMap.getElem?_erase, he]
    · cases h
  · cases h

/-- The store over a table that is part of the state. -/
def store {σ : Type} {m : Type → Type} [Host σ m] (table : Cell σ (SnapshotTable S)) :
    SnapshotStore m S where
  find id := Host.sure (table.look fun t => t.find id)
  persist s := Host.sure (table.visit fun t => t.persist s)
  delete s := do
    let outcome ← Host.sure (table.attempt fun t => (t.delete s).map fun t => ((), t))
    Host.settle (outcome.mapError fun fault => fault.toError (Snapshot.kind S))

end SnapshotTable

end EventSourcing
