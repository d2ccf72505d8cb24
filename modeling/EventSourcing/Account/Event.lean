import EventSourcing.Payload

/-!
# Events of accounts
-/

namespace EventSourcing.Account

structure AccountCreated where
  holder : String
  initialBalance : Int64
  deriving DecidableEq

/-- An amount was paid in; the balance is the one after it. -/
structure FundsDeposited where
  amount : Int64
  balance : Int64
  deriving DecidableEq

/-- An amount was paid out; the balance is the one after it. -/
structure FundsWithdrawn where
  amount : Int64
  balance : Int64
  deriving DecidableEq

structure AccountClosed where
  finalBalance : Int64
  deriving DecidableEq

instance : JsonForm AccountCreated where
  toJson e := .record [("holder", toJson e.holder), ("initial_balance", toJson e.initialBalance)]
  ofJson json := do
    let (holder, initialBalance) ←
      ((Fields.one String "holder").andThen (.one Int64 "initial_balance")).read
        "AccountCreated" json
    return ⟨holder, initialBalance⟩

instance : JsonForm FundsDeposited where
  toJson e := .record [("amount", toJson e.amount), ("balance", toJson e.balance)]
  ofJson json := do
    let (amount, balance) ←
      ((Fields.one Int64 "amount").andThen (.one Int64 "balance")).read "FundsDeposited" json
    return ⟨amount, balance⟩

instance : JsonForm FundsWithdrawn where
  toJson e := .record [("amount", toJson e.amount), ("balance", toJson e.balance)]
  ofJson json := do
    let (amount, balance) ←
      ((Fields.one Int64 "amount").andThen (.one Int64 "balance")).read "FundsWithdrawn" json
    return ⟨amount, balance⟩

instance : JsonForm AccountClosed where
  toJson e := .record [("final_balance", toJson e.finalBalance)]
  ofJson json := do return ⟨← (Fields.one Int64 "final_balance").read "AccountClosed" json⟩

inductive Event where
  | created (payload : AccountCreated)
  | deposited (payload : FundsDeposited)
  | withdrawn (payload : FundsWithdrawn)
  | closed (payload : AccountClosed)
  deriving DecidableEq

namespace Event

def createdVariant : Variant Event AccountCreated where
  typeName := "account.created"
  wrap := .created
  peek | .created payload => some payload | _ => none
  peek_wrap _ := rfl
  wrap_of_peek p v h := by cases p <;> simp_all

/-- The variant of the events that an amount was paid in. -/
def depositedVariant : Variant Event FundsDeposited where
  typeName := "account.deposited"
  wrap := .deposited
  peek | .deposited payload => some payload | _ => none
  peek_wrap _ := rfl
  wrap_of_peek p v h := by cases p <;> simp_all

/-- The variant of the events that an amount was paid out. -/
def withdrawnVariant : Variant Event FundsWithdrawn where
  typeName := "account.withdrawn"
  wrap := .withdrawn
  peek | .withdrawn payload => some payload | _ => none
  peek_wrap _ := rfl
  wrap_of_peek p v h := by cases p <;> simp_all

def closedVariant : Variant Event AccountClosed where
  typeName := "account.closed"
  wrap := .closed
  peek | .closed payload => some payload | _ => none
  peek_wrap _ := rfl
  wrap_of_peek p v h := by cases p <;> simp_all

def variants : List (AnyVariant Event) :=
  [⟨createdVariant⟩, ⟨depositedVariant⟩, ⟨withdrawnVariant⟩, ⟨closedVariant⟩]

/-- A payload as JSON, in the form of its variant. -/
def json : Event → Json
  | .created payload => toJson payload
  | .deposited payload => toJson payload
  | .withdrawn payload => toJson payload
  | .closed payload => toJson payload

instance : PayloadKind Event where
  typeName
    | .created _ => "account.created"
    | .deposited _ => "account.deposited"
    | .withdrawn _ => "account.withdrawn"
    | .closed _ => "account.closed"
  payloadJson payload := written (.ok payload.json)

end Event

end EventSourcing.Account
