import EventSourcing.Interleaved
import Std.Data.ExtTreeMap

/-!
# One at a time for each entity

Whoever wants to work on an entity takes a ticket of the entity's lock. The ticket taken first holds
the lock, the others wait for their turn in the order in which they came. Locks are made when they
are first asked for and tracked in a table; from time to time the table drops the locks of which no
ticket is out, so its size follows the entities that are worked on and not all that ever were.
-/

namespace EventSourcing

/-- A ticket of a lock: held if it is the earliest one of its lock, and waiting otherwise. -/
structure Ticket where
  serial : Nat
  entity : Int64
  lock : Nat
  deriving DecidableEq

def pruneThreshold : Nat := 1024

/-- The locks that are tracked, by entity, and the tickets that are out, earliest first. -/
structure LockTable where
  locks : Std.ExtTreeMap Int64 Nat := ∅
  tickets : List Ticket := []
  pruneAt : Nat := pruneThreshold
  nextLock : Nat := 0
  nextSerial : Nat := 0

namespace LockTable

def tracked (table : LockTable) : Nat := table.locks.size

def inUse (table : LockTable) (lock : Nat) : Bool := table.tickets.any fun t => t.lock == lock

/-- Drops the locks that are not in use, once there are more than the mark; the mark is then set to
twice what is left. -/
def pruneIfDue (table : LockTable) : LockTable :=
  if table.locks.size ≤ table.pruneAt then table
  else
    let locks := table.locks.filter fun _ lock => table.inUse lock
    { table with locks, pruneAt := max (2 * locks.size) pruneThreshold }

/-- The lock of an entity, made if it is not tracked. -/
def lockOf (table : LockTable) (entity : Int64) : Nat × LockTable :=
  match table.locks[entity]? with
  | some lock => (lock, table)
  | none =>
    (table.nextLock,
      { table with
        locks := table.locks.insert entity table.nextLock
        nextLock := table.nextLock + 1 })

def take (table : LockTable) (entity : Int64) : Ticket × LockTable :=
  let (lock, table) := table.pruneIfDue.lockOf entity
  let ticket := ⟨table.nextSerial, entity, lock⟩
  (ticket,
    { table with
      tickets := table.tickets ++ [ticket]
      nextSerial := table.nextSerial + 1 })

/-- Gives a ticket back, whether it holds its lock or still waits for it. -/
def giveBack (table : LockTable) (ticket : Ticket) : LockTable :=
  { table with tickets := table.tickets.filter fun t => t.serial != ticket.serial }

def holder? (table : LockTable) (lock : Nat) : Option Ticket :=
  table.tickets.find? fun t => t.lock == lock

def holds (table : LockTable) (ticket : Ticket) : Bool :=
  (table.holder? ticket.lock).any fun t => t.serial == ticket.serial

end LockTable

/-- The way in which work on one entity is kept apart from other work on it. -/
structure Gate (m : Type → Type) where
  /-- Waits until nobody works on an entity, and gives the way to leave it again. -/
  enter : Int64 → m (m Unit)

namespace Gate

/-- Does some work on an entity while no other work on it goes on. -/
def hold {m : Type → Type} [Monad m] {α : Type} (gate : Gate m) (entity : Int64) (work : m α) :
    m α := do
  let leave ← gate.enter entity
  let result ← work
  leave
  pure result

/-- The gate that is always open, for a host in which nothing interleaves. -/
def opened (m : Type → Type) [Monad m] : Gate m where
  enter _ := pure (pure ())

/-- The gate that lets one worker at a time through for each entity, in the order in which they
come. -/
def locked {σ : Type} (table : Cell σ LockTable) : Gate (Interleaved σ) where
  enter entity := do
    let ticket ← table.visit fun locks => locks.take entity
    Routine.wait (.awaiting fun s => (table.get s.state).holds ticket) (.done ())
    pure (table.update fun locks => locks.giveBack ticket)

end Gate

end EventSourcing
