import EventSourcing.Account.Books
import EventSourcing.Logging
import EventSourcing.Sequential

/-!
# The demonstration

A walk through the life of one account: it is opened, money goes in and out, a deposit of nothing is
refused, the stores are emptied and rebuilt by a replay, and the account is closed. What the walk
shows is its log.
-/

namespace EventSourcing.Demo

open Account (Command)

abbrev Walk : Type → Type := Sequential Books

inductive Failure where
  | logging (fault : Logging.Fault)
  | domain (failure : DomainError)
  | text (message : String)
  deriving DecidableEq

/-- The name of the cause with what belongs to it in brackets; a text stands between quotes. -/
def Failure.inspect : Failure → String
  | .logging fault => fault.inspect
  | .domain failure => failure.inspect
  | .text message => Text.quoted message

abbrev Stage : Type → Type := ExceptT Failure Walk

def stage {α : Type} (program : Fallible Walk α) : Stage α := do
  match ← ExceptT.lift (Host.attempt program) with
  | .ok a => pure a
  | .error failure => throw (.domain failure)

def tell (fields : Trace.Fields) (message : String) : Stage Unit :=
  ExceptT.lift (Host.emit (.event .info "eventline_demo" fields message))

def accountVariable : String := "EVENTLINE_DEMO_ACCOUNT_ID"

/-- The id of the account, 1 if the variable is not set. -/
def accountId (look : String → Option String) : Except Failure Int64 :=
  match Word.parse ((look accountVariable).getD "1") with
  | .ok id => .ok id
  | .error fault => .error (.text s!"{accountVariable} must be a valid i64: {fault.message}")

/-- A deposit of nothing, which has to be refused by a rule. -/
def refusedDeposit (service : AccountService Walk) (id : Int64) : Stage Unit := do
  match ← ExceptT.lift (Host.attempt (service.deposit id 0)) with
  | .ok _ => throw (.text "a zero deposit was accepted")
  | .error failure =>
    if failure.isRuleViolation then tell [("error", failure.message)] "deposit refused"
    else throw (.domain failure)

def clearSnapshots : Stage Unit := do
  ExceptT.lift (Books.accountsCell.update SnapshotTable.clear)
  ExceptT.lift (Books.summariesCell.update SnapshotTable.clear)

def walk (look : String → Option String) (now : Instant) : Stage Unit := do
  tell [] "Starting Eventline demo"
  let id ← ExceptT.mk (pure (accountId look))
  let service ← ExceptT.lift
    (AccountService.build (Books.stores (Cell.whole Books)) (Gate.opened Walk) now)
  let _ ← stage (service.openAccount id "Ann" 1000)
  let _ ← stage (service.deposit id 500)
  let _ ← stage (service.withdraw id 200)
  refusedDeposit service id
  let live ← stage (service.summary id)
  tell [("account_id", id), ("holder", live.holder), ("balance", live.balance),
    ("transactions", live.transactionCount.toNat)] "live summary"
  clearSnapshots
  let replayed ← stage (service.replay id)
  let rebuilt ← stage (service.summary id)
  tell [("account_id", id), ("replayed", replayed), ("balance", rebuilt.balance),
    ("transactions", rebuilt.transactionCount.toNat)] "rebuilt summary"
  if rebuilt ≠ live then throw (.text "replayed summary differs from the live one")
  let _ ← stage (service.close id)
  tell [("account_id", id)] "account closed"

def logged (config : Logging.Config) (look : String → Option String) (now : Instant) :
    Stage Unit := do
  ExceptT.lift (Host.emit (Logging.initialized config))
  walk look now

/-- What the demonstration leaves behind: its exit code, its last words, and the entries of its log
with their format. -/
structure Report where
  exitCode : Nat
  lastWords : String
  format : Logging.Format
  log : List Trace.Entry

def Report.ofFault (fault : Logging.Fault) : Report where
  exitCode := 1
  lastWords := s!"Error: {fault.inspect}\n"
  format := .json
  log := []

/-- Gives the demonstration in an environment, with new identifiers from a source. -/
def report (look : String → Option String) (now : Instant) (ids : IdSource) : Report :=
  match Logging.Config.ofVariables look with
  | .error fault => .ofFault fault
  | .ok config =>
    match Logging.install config false with
    | .error fault => .ofFault fault
    | .ok filter =>
      let (result, session) := (logged config look now).run { state := {}, ids }
      let log := filter.through [] session.trace.reverse
      match result with
      | .ok () => ⟨0, "", config.format, log⟩
      | .error failure => ⟨1, s!"Error: {failure.inspect}\n", config.format, log⟩

end EventSourcing.Demo
