import EventSourcing.Account.Rules
import EventSourcing.Account.Summary
import EventSourcing.Wiring

/-!
# The account service

All that is needed to keep accounts, on three stores: the commands, the accounts and the summaries.
-/

namespace EventSourcing

structure AccountStores (m : Type → Type) where
  commands : CommandStore m
  accounts : SnapshotStore m Account
  summaries : SnapshotStore m AccountSummary

structure AccountService (m : Type → Type) where
  bus : CommandBus m Account.Command
  summaries : SnapshotStore m AccountSummary

namespace AccountService

variable {σ : Type} {m : Type → Type} [Host σ m]

open Account (Command Event CreateAccount Deposit Withdraw CloseAccount)

def correlationId : String := "correlation_id"

def decoderParts : List (Part m Command Event) :=
  Command.variants.map fun v => .ofVariant v.variant

def wiring (stores : AccountStores m) (gate : Gate m) (now : Instant) :
    Wiring m Command Event :=
  Wiring.addAll { store := stores.commands, gate, now }
    (decoderParts ++
      [.view (AccountSummary.view stores.summaries).subscriber,
        .saga fun events => (Account.saga stores.accounts events).subscriber])

def ofStores (stores : AccountStores m) (gate : Gate m) (now : Instant) : AccountService m :=
  ⟨(wiring stores gate now).runtime.bus, stores.summaries⟩

def build (stores : AccountStores m) (gate : Gate m) (now : Instant) : m (AccountService m) := do
  let runtime ← (wiring stores gate now).build
  return ⟨runtime.bus, stores.summaries⟩

def openAccount (service : AccountService m) (id : Int64) (holder : String)
    (initialBalance : Int64) : Fallible m (Envelope Command) :=
  service.bus.create id (.create ⟨holder, initialBalance⟩)

def deposit (service : AccountService m) (id amount : Int64) : Fallible m (Envelope Command) :=
  service.bus.execute id (.deposit ⟨amount⟩)

def withdraw (service : AccountService m) (id amount : Int64) : Fallible m (Envelope Command) :=
  service.bus.execute id (.withdraw ⟨amount⟩)

def close (service : AccountService m) (id : Int64) : Fallible m (Envelope Command) :=
  service.bus.execute id (.close ⟨⟩)

/-- Pays an amount in by a command that names what it belongs to. -/
def depositCorrelated (service : AccountService m) (id amount : Int64) (correlation : String) :
    Fallible m (Envelope Command) := do
  let command ← Host.sure (service.bus.command (.existing id) (.deposit ⟨amount⟩))
  service.bus.publish (command.withProperty correlationId correlation)

def replay (service : AccountService m) (id : Int64) : Fallible m Nat := service.bus.replay id

def summary (service : AccountService m) (id : Int64) : Fallible m AccountSummary :=
  service.summaries.get id

inductive Operation where
  | openAccount (id : Int64) (holder : String) (initialBalance : Int64)
  | deposit (id amount : Int64)
  | withdraw (id amount : Int64)
  | close (id : Int64)
  | depositCorrelated (id amount : Int64) (correlation : String)
  | replay (id : Int64)
  deriving DecidableEq

def Operation.account : Operation → Int64
  | .openAccount id _ _ => id
  | .deposit id _ => id
  | .withdraw id _ => id
  | .close id => id
  | .depositCorrelated id _ _ => id
  | .replay id => id

inductive Receipt where
  | accepted (command : Envelope Command)
  | replayed (count : Nat)
  deriving DecidableEq

def perform (service : AccountService m) : Operation → Fallible m Receipt
  | .openAccount id holder initialBalance => do
    return .accepted (← service.openAccount id holder initialBalance)
  | .deposit id amount => do return .accepted (← service.deposit id amount)
  | .withdraw id amount => do return .accepted (← service.withdraw id amount)
  | .close id => do return .accepted (← service.close id)
  | .depositCorrelated id amount correlation => do
    return .accepted (← service.depositCorrelated id amount correlation)
  | .replay id => do return .replayed (← service.replay id)

end AccountService

end EventSourcing
