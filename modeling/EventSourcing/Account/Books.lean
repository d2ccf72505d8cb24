import EventSourcing.Account.Service
import EventSourcing.Store.CommandLog
import EventSourcing.Store.SnapshotTable

/-!
# The books of the account service

The three stores that the service keeps in memory, and the service over them.
-/

namespace EventSourcing

/-- What the account service keeps: the commands, the accounts and the summaries. -/
structure Books where
  commands : CommandLog := {}
  accounts : SnapshotTable Account := {}
  summaries : SnapshotTable AccountSummary := {}

namespace Books

def commandsCell : Cell Books CommandLog where
  get := Books.commands
  set commands books := { books with commands }
  get_set _ _ := rfl
  set_set _ _ _ := rfl

def accountsCell : Cell Books (SnapshotTable Account) where
  get := Books.accounts
  set accounts books := { books with accounts }
  get_set _ _ := rfl
  set_set _ _ _ := rfl

def summariesCell : Cell Books (SnapshotTable AccountSummary) where
  get := Books.summaries
  set summaries books := { books with summaries }
  get_set _ _ := rfl
  set_set _ _ _ := rfl

/-- The same books without accounts; their ids stay used. -/
def clearAccounts (books : Books) : Books := { books with accounts := books.accounts.clear }

/-- The same books without summaries; their ids stay used. -/
def clearSummaries (books : Books) : Books := { books with summaries := books.summaries.clear }

variable {σ : Type} {m : Type → Type} [Host σ m]

def stores (books : Cell σ Books) : AccountStores m where
  commands := CommandLog.store (books.within commandsCell)
  accounts := SnapshotTable.store (books.within accountsCell)
  summaries := SnapshotTable.store (books.within summariesCell)

def service (books : Cell σ Books) (gate : Gate m) (now : Instant) : AccountService m :=
  AccountService.ofStores (stores books) gate now

end Books

end EventSourcing
