import EventSourcing.Payload

/-!
# Commands for accounts
-/

namespace EventSourcing.Account

structure CreateAccount where
  holder : String
  initialBalance : Int64
  deriving DecidableEq

structure Deposit where
  amount : Int64
  deriving DecidableEq

structure Withdraw where
  amount : Int64
  deriving DecidableEq

structure CloseAccount where
  deriving DecidableEq

instance : JsonForm CreateAccount where
  toJson c := .record [("holder", toJson c.holder), ("initial_balance", toJson c.initialBalance)]
  ofJson json := do
    let (holder, initialBalance) ←
      ((Fields.one String "holder").andThen (.one Int64 "initial_balance")).read
        "CreateAccount" json
    return ⟨holder, initialBalance⟩

instance : JsonForm Deposit where
  toJson c := .record [("amount", toJson c.amount)]
  ofJson json := do return ⟨← (Fields.one Int64 "amount").read "Deposit" json⟩

instance : JsonForm Withdraw where
  toJson c := .record [("amount", toJson c.amount)]
  ofJson json := do return ⟨← (Fields.one Int64 "amount").read "Withdraw" json⟩

instance : JsonForm CloseAccount where
  toJson _ := .null
  ofJson := readUnit ⟨⟩ "CloseAccount"

inductive Command where
  | create (payload : CreateAccount)
  | deposit (payload : Deposit)
  | withdraw (payload : Withdraw)
  | close (payload : CloseAccount)
  deriving DecidableEq

namespace Command

def createVariant : Variant Command CreateAccount where
  typeName := "account.create"
  wrap := .create
  peek | .create payload => some payload | _ => none
  peek_wrap _ := rfl
  wrap_of_peek p v h := by cases p <;> simp_all

def depositVariant : Variant Command Deposit where
  typeName := "account.deposit"
  wrap := .deposit
  peek | .deposit payload => some payload | _ => none
  peek_wrap _ := rfl
  wrap_of_peek p v h := by cases p <;> simp_all

def withdrawVariant : Variant Command Withdraw where
  typeName := "account.withdraw"
  wrap := .withdraw
  peek | .withdraw payload => some payload | _ => none
  peek_wrap _ := rfl
  wrap_of_peek p v h := by cases p <;> simp_all

def closeVariant : Variant Command CloseAccount where
  typeName := "account.close"
  wrap := .close
  peek | .close payload => some payload | _ => none
  peek_wrap _ := rfl
  wrap_of_peek p v h := by cases p <;> simp_all

def variants : List (AnyVariant Command) :=
  [⟨createVariant⟩, ⟨depositVariant⟩, ⟨withdrawVariant⟩, ⟨closeVariant⟩]

/-- A payload as JSON, in the form of its variant. -/
def json : Command → Json
  | .create payload => toJson payload
  | .deposit payload => toJson payload
  | .withdraw payload => toJson payload
  | .close payload => toJson payload

instance : PayloadKind Command where
  typeName
    | .create _ => "account.create"
    | .deposit _ => "account.deposit"
    | .withdraw _ => "account.withdraw"
    | .close _ => "account.close"
  payloadJson payload := written (.ok payload.json)

end Command

end EventSourcing.Account
