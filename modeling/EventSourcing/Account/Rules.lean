import EventSourcing.Account.Command
import EventSourcing.Account.Event
import EventSourcing.Saga
import EventSourcing.Text.Blank

/-!
# The rules of accounts

An account is opened once, with a holder and a balance that is not negative. While it is open,
positive amounts are paid in and out; the balance stays a 64-bit word, and nothing is paid out that
is not there. Closing it is final.
-/

namespace EventSourcing

structure Account where
  id : Option Int64 := none
  version : Int64 := 0
  holder : String := ""
  balance : Int64 := 0
  isClosed : Bool := false
  deriving DecidableEq

namespace Account

instance : Snapshot Account where
  kind := "account"
  id? account := account.id
  withId id account := { account with id := some id }
  version account := account.version
  withVersion version account := { account with version }
  id?_withId _ _ := rfl
  id?_withVersion _ _ := rfl
  version_withVersion _ _ := rfl
  version_withId _ _ := rfl

inductive Refusal where
  | missing (id : Int64)
  | alreadyExists (id : Int64)
  | blankHolder
  | negativeOpening (balance : Int64)
  | closed (id : Int64)
  | notPositive (amount : Int64)
  | limitExceeded (id amount : Int64)
  | insufficientFunds (id balance amount : Int64)
  deriving DecidableEq

def Refusal.toError : Refusal → DomainError
  | .missing id => .notFound "account" id
  | .alreadyExists id => .ruleViolation s!"account {Word.text id} already exists"
  | .blankHolder => .ruleViolation "account holder must not be blank"
  | .negativeOpening balance =>
    .ruleViolation s!"initial balance must not be negative, got {Word.text balance}"
  | .closed id => .ruleViolation s!"account {Word.text id} is closed"
  | .notPositive amount => .ruleViolation s!"amount must be positive, got {Word.text amount}"
  | .limitExceeded id amount => .ruleViolation <|
      s!"deposit of {Word.text amount} would exceed the balance limit of account {Word.text id}"
  | .insufficientFunds id balance amount => .ruleViolation <|
      s!"insufficient funds in account {Word.text id}: balance {Word.text balance}, " ++
        s!"requested {Word.text amount}"

/-- The account, which has to exist and to be open. -/
def requireOpen (current : Option Account) (id : Int64) : Except Refusal Account :=
  match current with
  | none => .error (.missing id)
  | some account => if account.isClosed then .error (.closed id) else .ok account

/-- An amount has to be positive. -/
def requirePositive (amount : Int64) : Except Refusal Unit :=
  if 0 < amount.toInt then .ok () else .error (.notPositive amount)

def opening (current : Option Account) (id : Int64) (payload : CreateAccount) :
    Except Refusal (Outcome Account Event) :=
  if current.isSome then .error (.alreadyExists id)
  else if Text.isBlankText payload.holder then .error .blankHolder
  else if payload.initialBalance.toInt < 0 then .error (.negativeOpening payload.initialBalance)
  else
    .ok
      { snapshot := { holder := payload.holder, balance := payload.initialBalance }
        events := [.created ⟨payload.holder, payload.initialBalance⟩] }

def payingIn (current : Option Account) (id : Int64) (payload : Deposit) :
    Except Refusal (Outcome Account Event) := do
  let account ← requireOpen current id
  requirePositive payload.amount
  match Word.add? account.balance payload.amount with
  | none => .error (.limitExceeded id payload.amount)
  | some balance =>
    .ok
      { snapshot := { account with balance }
        events := [.deposited ⟨payload.amount, balance⟩] }

def payingOut (current : Option Account) (id : Int64) (payload : Withdraw) :
    Except Refusal (Outcome Account Event) := do
  let account ← requireOpen current id
  requirePositive payload.amount
  if account.balance.toInt < payload.amount.toInt then
    .error (.insufficientFunds id account.balance payload.amount)
  else
    let balance := account.balance - payload.amount
    .ok
      { snapshot := { account with balance }
        events := [.withdrawn ⟨payload.amount, balance⟩] }

def closing (current : Option Account) (id : Int64) : Except Refusal (Outcome Account Event) := do
  let account ← requireOpen current id
  .ok
    { snapshot := { account with isClosed := true }
      events := [.closed ⟨account.balance⟩] }

def decide (current : Option Account) (id : Int64) :
    Command → Except Refusal (Outcome Account Event)
  | .create payload => opening current id payload
  | .deposit payload => payingIn current id payload
  | .withdraw payload => payingOut current id payload
  | .close _ => closing current id

/-- The rule by which accounts decide the commands that they are sent. -/
def rule (current : Option Account) (command : Envelope Command) :
    Except DomainError (Outcome Account Event) :=
  match decide current command.entity.id command.payload with
  | .ok outcome => .ok outcome
  | .error refusal => .error refusal.toError

def commandTypes : List String := Command.variants.map AnyVariant.typeName

variable {σ : Type} {m : Type → Type} [Host σ m]

/-- The saga of accounts, which handles the given types of commands only. -/
def sagaFor (accounts : SnapshotStore m Account) (events : EventQueue m Event)
    (subscriptions : List String) : Saga m Command Event Account :=
  { Saga.ofRule "account" rule accounts events with subscriptions }

def saga (accounts : SnapshotStore m Account) (events : EventQueue m Event) :
    Saga m Command Event Account :=
  sagaFor accounts events commandTypes

end Account

end EventSourcing
