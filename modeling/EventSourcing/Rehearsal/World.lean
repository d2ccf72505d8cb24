import EventSourcing.Account.Service
import EventSourcing.Rehearsal.Script
import EventSourcing.Store.CommandLog
import EventSourcing.Store.Journal
import EventSourcing.Store.Outage
import EventSourcing.Store.SnapshotTable

/-!
# The world of a rehearsal

All that a rehearsal keeps: command stores of each sort, snapshot stores by name, what recorders
took down, scripts, the outages that are planned, and the locks of two buses.
-/

namespace EventSourcing

open Account (Command Event)

structure World where
  log : CommandLog := {}
  journal : Journal := {}
  shelf : List StoredCommand := []
  accounts : Std.ExtTreeMap String (SnapshotTable Account) := ∅
  summaries : Std.ExtTreeMap String (SnapshotTable AccountSummary) := ∅
  outages : Std.ExtTreeMap String OutagePlan := ∅
  commandTapes : Std.ExtTreeMap Nat (List (Envelope Command)) := ∅
  eventTapes : Std.ExtTreeMap Nat (List (Envelope Event)) := ∅
  scripts : Std.ExtTreeMap Nat (Script Account Event) := ∅
  serviceLocks : LockTable := {}
  runtimeLocks : LockTable := {}

namespace World

def logCell : Cell World CommandLog where
  get := log
  set v w := { w with log := v }
  get_set _ _ := rfl
  set_set _ _ _ := rfl

def journalCell : Cell World Journal where
  get := journal
  set v w := { w with journal := v }
  get_set _ _ := rfl
  set_set _ _ _ := rfl

def shelfCell : Cell World (List StoredCommand) where
  get := shelf
  set v w := { w with shelf := v }
  get_set _ _ := rfl
  set_set _ _ _ := rfl

def accountsCell : Cell World (Std.ExtTreeMap String (SnapshotTable Account)) where
  get := accounts
  set v w := { w with accounts := v }
  get_set _ _ := rfl
  set_set _ _ _ := rfl

def summariesCell : Cell World (Std.ExtTreeMap String (SnapshotTable AccountSummary)) where
  get := summaries
  set v w := { w with summaries := v }
  get_set _ _ := rfl
  set_set _ _ _ := rfl

def outagesCell : Cell World (Std.ExtTreeMap String OutagePlan) where
  get := outages
  set v w := { w with outages := v }
  get_set _ _ := rfl
  set_set _ _ _ := rfl

def commandTapesCell : Cell World (Std.ExtTreeMap Nat (List (Envelope Command))) where
  get := commandTapes
  set v w := { w with commandTapes := v }
  get_set _ _ := rfl
  set_set _ _ _ := rfl

def eventTapesCell : Cell World (Std.ExtTreeMap Nat (List (Envelope Event))) where
  get := eventTapes
  set v w := { w with eventTapes := v }
  get_set _ _ := rfl
  set_set _ _ _ := rfl

def scriptsCell : Cell World (Std.ExtTreeMap Nat (Script Account Event)) where
  get := scripts
  set v w := { w with scripts := v }
  get_set _ _ := rfl
  set_set _ _ _ := rfl

def serviceLocksCell : Cell World LockTable where
  get := serviceLocks
  set v w := { w with serviceLocks := v }
  get_set _ _ := rfl
  set_set _ _ _ := rfl

/-- The locks of the runtime that is wired beside the service. -/
def runtimeLocksCell : Cell World LockTable where
  get := runtimeLocks
  set v w := { w with runtimeLocks := v }
  get_set _ _ := rfl
  set_set _ _ _ := rfl

def accountTable (name : String) : Cell World (SnapshotTable Account) :=
  accountsCell.within (Cell.slot name {})

def summaryTable (name : String) : Cell World (SnapshotTable AccountSummary) :=
  summariesCell.within (Cell.slot name {})

/-- The outages that are planned for the store with a name. -/
def outagesOf (name : String) : Cell World OutagePlan :=
  outagesCell.within (Cell.slot name [])

def commandTape (number : Nat) : Cell World (List (Envelope Command)) :=
  commandTapesCell.within (Cell.slot number [])

def eventTape (number : Nat) : Cell World (List (Envelope Event)) :=
  eventTapesCell.within (Cell.slot number [])

def script (number : Nat) : Cell World (Script Account Event) :=
  scriptsCell.within (Cell.slot number [])

end World

/-! ## Stores -/

inductive CommandStoreSort where
  | log
  | journal
  | openShelf (next : Int64)
  | unreachable
  deriving DecidableEq

namespace CommandStoreSort

variable {m : Type → Type} [Host World m]

/-- The command store of a sort, as it is without outages. -/
def plain : CommandStoreSort → CommandStore m
  | .log => CommandLog.store World.logCell
  | .journal => Journal.store World.journalCell
  | .openShelf next => CommandStore.openShelf World.shelfCell next
  | .unreachable => CommandStore.unreachable

/-- The command store of a sort, which gives way before each call if that is asked for. -/
def store (sort : CommandStoreSort) (unhurried : Bool) : CommandStore m :=
  let store := sort.plain.withOutages (World.outagesOf "commands")
  if unhurried then store.unhurried else store

/-- The number of records that an entity has, if the store can be reached. -/
def recordCount? (world : World) (entity : Int64) : CommandStoreSort → Option Nat
  | .log => some (world.log.load entity).length
  | .journal => some (world.journal.load entity).length
  | .openShelf _ => some world.shelf.length
  | .unreachable => none

end CommandStoreSort

structure Shelves (m : Type → Type) where
  accounts : String → SnapshotStore m Account
  summaries : String → SnapshotStore m AccountSummary

/-- The snapshot stores, which give way before each call if that is asked for. -/
def Shelves.stocked {m : Type → Type} [Host World m] (unhurried : Bool) : Shelves m where
  accounts name :=
    let store := (SnapshotTable.store (World.accountTable name)).withOutages (World.outagesOf name)
    if unhurried then store.unhurried else store
  summaries name :=
    let store := (SnapshotTable.store (World.summaryTable name)).withOutages (World.outagesOf name)
    if unhurried then store.unhurried else store

end EventSourcing
