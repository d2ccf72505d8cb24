import EventSourcing.Account.Event
import EventSourcing.View

/-!
# Account summaries

The read model of an account: what a customer sees of it, with the number of its transactions, which
is counted in 32 bits.
-/

namespace EventSourcing

structure AccountSummary where
  id : Option Int64 := none
  version : Int64 := 0
  holder : String := ""
  balance : Int64 := 0
  transactionCount : UInt32 := 0
  isClosed : Bool := false
  deriving DecidableEq

namespace AccountSummary

open Account (Event)

instance : Snapshot AccountSummary where
  kind := "account summary"
  id? summary := summary.id
  withId id summary := { summary with id := some id }
  version summary := summary.version
  withVersion version summary := { summary with version }
  id?_withId _ _ := rfl
  id?_withVersion _ _ := rfl
  version_withVersion _ _ := rfl
  version_withId _ _ := rfl

/-- The summary of a new account; what it is opened with counts as a transaction. -/
def ofCreated (created : Account.AccountCreated) : AccountSummary where
  holder := created.holder
  balance := created.initialBalance
  transactionCount := if 0 < created.initialBalance.toInt then 1 else 0

def afterTransaction (summary : AccountSummary) (balance : Int64) : AccountSummary :=
  { summary with balance, transactionCount := summary.transactionCount + 1 }

/-- The summary of an account that was closed with a given balance. -/
def afterClosing (summary : AccountSummary) (balance : Int64) : AccountSummary :=
  { summary with balance, isClosed := true }

def view {m : Type → Type} (summaries : SnapshotStore m AccountSummary) :
    View m Event AccountSummary :=
  let bare : View m Event AccountSummary := { name := "account-summary", models := summaries }
  (((bare.onCreate Event.createdVariant fun _ created => .ok (ofCreated created)).onUpdate
    Event.depositedVariant fun summary _ deposited =>
      .ok (summary.afterTransaction deposited.balance)).onUpdate
    Event.withdrawnVariant fun summary _ withdrawn =>
      .ok (summary.afterTransaction withdrawn.balance)).onUpdate
    Event.closedVariant fun summary _ closed => .ok (summary.afterClosing closed.finalBalance)

end AccountSummary

end EventSourcing
