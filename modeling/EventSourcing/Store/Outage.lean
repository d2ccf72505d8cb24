import EventSourcing.Store.Interface

/-!
# Planned outages

An outage is planned for one call of a store: that call fails, some later one if the outage is
delayed, and the store is not touched. Only the first outage planned for a call counts at a time.
-/

namespace EventSourcing

inductive StoreCall where
  | append | load | next | find | persist | delete
  deriving DecidableEq

structure Outage where
  call : StoreCall
  after : Nat
  message : String
  deriving DecidableEq

/-- The outages that are planned, in order. -/
abbrev OutagePlan := List Outage

namespace OutagePlan

/-- What a call meets: the message of the outage that fails it, if one does, and the plan after
it. -/
def meet (call : StoreCall) : OutagePlan → Option String × OutagePlan
  | [] => (none, [])
  | outage :: rest =>
    if outage.call = call then
      if 0 < outage.after then (none, { outage with after := outage.after - 1 } :: rest)
      else (some outage.message, rest)
    else
      let (message, rest) := meet call rest
      (message, outage :: rest)

/-- Fails if an outage is due for a call. -/
def guard {σ : Type} {m : Type → Type} [Host σ m] (plan : Cell σ OutagePlan) (call : StoreCall) :
    Fallible m Unit := do
  match ← Host.sure (plan.visit fun p => p.meet call) with
  | some message => throw (.store message)
  | none => pure ()

end OutagePlan

variable {σ : Type} {m : Type → Type} [Host σ m]

def CommandStore.withOutages (store : CommandStore m) (plan : Cell σ OutagePlan) :
    CommandStore m where
  append record := do OutagePlan.guard plan .append; store.append record
  load entity := do OutagePlan.guard plan .load; store.load entity
  nextSequenceNo entity := do OutagePlan.guard plan .next; store.nextSequenceNo entity

def SnapshotStore.withOutages {S : Type} (store : SnapshotStore m S) (plan : Cell σ OutagePlan) :
    SnapshotStore m S where
  find id := do OutagePlan.guard plan .find; store.find id
  persist s := do OutagePlan.guard plan .persist; store.persist s
  delete s := do OutagePlan.guard plan .delete; store.delete s

end EventSourcing
