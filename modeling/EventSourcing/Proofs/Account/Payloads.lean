import EventSourcing.Account.Types
import EventSourcing.Proofs.Fields

/-!
# How the payloads of accounts are spelled

A JSON value spells a command if it says what the command is made of, in an object or in a list. The
variants of commands read exactly the values that spell one, and so they read back what they wrote;
the payloads of events are read back as well.
-/

namespace EventSourcing.Account

open Fields (named_one named_andThen)

/-! ## Commands -/

/-- Says who holds an account and what is on it at first. Whatever else an object has in it does not
matter. -/
inductive SpellsOpening (holder : String) (balance : Int64) : Json → Prop
  | record {entries : List (String × Json)} (hh : entries.lookup "holder" = some (.text holder))
      (hb : entries.lookup "initial_balance" = some (.int balance.toInt)) :
      SpellsOpening holder balance (.record entries)
  | list : SpellsOpening holder balance (.list [.text holder, .int balance.toInt])

inductive SpellsAmount (amount : Int64) : Json → Prop
  | record {entries : List (String × Json)}
      (ha : entries.lookup "amount" = some (.int amount.toInt)) :
      SpellsAmount amount (.record entries)
  | list : SpellsAmount amount (.list [.int amount.toInt])

def Spells (json : Json) : Command → Prop
  | .create c => SpellsOpening c.holder c.initialBalance json
  | .deposit d => SpellsAmount d.amount json
  | .withdraw w => SpellsAmount w.amount json
  | .close _ => json = .null

/-- The object with what a command is made of and nothing else. -/
def Command.canonical : Command → Json
  | .create c =>
    .record [("holder", .text c.holder), ("initial_balance", .int c.initialBalance.toInt)]
  | .deposit d => .record [("amount", .int d.amount.toInt)]
  | .withdraw w => .record [("amount", .int w.amount.toInt)]
  | .close _ => .null

theorem spells_canonical (command : Command) : Spells command.canonical command := by
  cases command with
  | create => exact .record rfl rfl
  | deposit => exact .record rfl
  | withdraw => exact .record rfl
  | close => rfl

theorem json_eq_canonical (command : Command) : command.json = command.canonical := by
  cases command <;> rfl

theorem read_opening_eq_ok_iff {record : String} {json : Json} {holder : String} {balance : Int64} :
    ((Fields.one String "holder").andThen (.one Int64 "initial_balance")).read record json =
      .ok (holder, balance) ↔ SpellsOpening holder balance json := by
  simp only [Fields.read_two_eq_ok_iff, ofJson_string_eq_ok_iff, ofJson_int64_eq_ok_iff,
    exists_eq_right]
  constructor
  · rintro (⟨entries, rfl, hh, hb⟩ | ⟨_, _, rfl, rfl, rfl⟩)
    · exact .record hh hb
    · exact .list
  · rintro (⟨hh, hb⟩ | _)
    · exact .inl ⟨_, rfl, hh, hb⟩
    · exact .inr ⟨_, _, rfl, rfl, rfl⟩

theorem read_amount_eq_ok_iff {record : String} {json : Json} {amount : Int64} :
    (Fields.one Int64 "amount").read record json = .ok amount ↔ SpellsAmount amount json := by
  simp only [Fields.read_one_eq_ok_iff, ofJson_int64_eq_ok_iff, exists_eq_right]
  constructor
  · rintro (⟨entries, rfl, ha⟩ | rfl)
    · exact .record ha
    · exact .list
  · rintro (ha | _)
    · exact .inl ⟨_, rfl, ha⟩
    · exact .inr rfl

theorem madeOf_createAccount :
    MadeOf ((Fields.one String "holder").andThen (.one Int64 "initial_balance")) "CreateAccount"
      fun (holder, initialBalance) => (⟨holder, initialBalance⟩ : CreateAccount) := fun _ => rfl

theorem madeOf_deposit : MadeOf (.one Int64 "amount") "Deposit" Deposit.mk := fun _ => rfl

theorem madeOf_withdraw : MadeOf (.one Int64 "amount") "Withdraw" Withdraw.mk := fun _ => rfl

theorem ofJson_closeAccount_eq_ok_iff {json : Json} {c : CloseAccount} :
    ofJson json = .ok c ↔ json = .null := by
  cases json <;> simp [ofJson, readUnit]

/-- What a variant reads spells the command. -/
theorem spells_of_read {v : AnyVariant Command} (hv : v ∈ Command.variants) {json : Json}
    {command : Command} (h : v.variant.read json = .ok command) :
    v.typeName = typeName command ∧ Spells json command := by
  simp only [Command.variants, List.mem_cons, List.not_mem_nil, or_false] at hv
  rcases hv with rfl | rfl | rfl | rfl
  all_goals
    obtain ⟨value, hvalue, rfl⟩ := Variant.read_eq_ok_iff.1 h
    refine ⟨rfl, ?_⟩
  · obtain ⟨_, hr, rfl⟩ := madeOf_createAccount.ofJson_eq_ok_iff.1 hvalue
    exact read_opening_eq_ok_iff.1 hr
  · obtain ⟨_, hr, rfl⟩ := madeOf_deposit.ofJson_eq_ok_iff.1 hvalue
    exact read_amount_eq_ok_iff.1 hr
  · obtain ⟨_, hr, rfl⟩ := madeOf_withdraw.ofJson_eq_ok_iff.1 hvalue
    exact read_amount_eq_ok_iff.1 hr
  · exact ofJson_closeAccount_eq_ok_iff.1 hvalue

/-- What spells a command is read by the variant of its type. -/
theorem exists_read_of_spells {json : Json} {command : Command} (h : Spells json command) :
    ∃ v ∈ Command.variants, v.typeName = typeName command ∧ v.variant.read json = .ok command := by
  cases command with
  | create c =>
      refine ⟨⟨Command.createVariant⟩, by simp [Command.variants], rfl, ?_⟩
      exact Variant.read_eq_ok_iff.2
        ⟨c, madeOf_createAccount.ofJson_eq_ok_iff.2 ⟨_, read_opening_eq_ok_iff.2 h, rfl⟩, rfl⟩
  | deposit d =>
      refine ⟨⟨Command.depositVariant⟩, by simp [Command.variants], rfl, ?_⟩
      exact Variant.read_eq_ok_iff.2
        ⟨d, madeOf_deposit.ofJson_eq_ok_iff.2 ⟨_, read_amount_eq_ok_iff.2 h, rfl⟩, rfl⟩
  | withdraw w =>
      refine ⟨⟨Command.withdrawVariant⟩, by simp [Command.variants], rfl, ?_⟩
      exact Variant.read_eq_ok_iff.2
        ⟨w, madeOf_withdraw.ofJson_eq_ok_iff.2 ⟨_, read_amount_eq_ok_iff.2 h, rfl⟩, rfl⟩
  | close c =>
      refine ⟨⟨Command.closeVariant⟩, by simp [Command.variants], rfl, ?_⟩
      exact Variant.read_eq_ok_iff.2 ⟨c, ofJson_closeAccount_eq_ok_iff.2 h, rfl⟩

/-! ## Payloads on their own -/

theorem readsBack_createAccount : ReadsBack CreateAccount :=
  madeOf_createAccount.readsBack fun c => ⟨_, (c.holder, c.initialBalance), rfl,
    named_andThen (named_one readsBack_string rfl) (named_one readsBack_int64 rfl), rfl⟩

theorem readsBack_deposit : ReadsBack Deposit :=
  madeOf_deposit.readsBack fun d => ⟨_, d.amount, rfl, named_one readsBack_int64 rfl, rfl⟩

theorem readsBack_withdraw : ReadsBack Withdraw :=
  madeOf_withdraw.readsBack fun w => ⟨_, w.amount, rfl, named_one readsBack_int64 rfl, rfl⟩

theorem readsBack_closeAccount : ReadsBack CloseAccount := fun _ => rfl

theorem readsBack_accountCreated : ReadsBack AccountCreated :=
  MadeOf.readsBack (fun _ => rfl) fun e => ⟨_, (e.holder, e.initialBalance), rfl,
    named_andThen (named_one readsBack_string rfl) (named_one readsBack_int64 rfl), rfl⟩

theorem readsBack_fundsDeposited : ReadsBack FundsDeposited :=
  MadeOf.readsBack (fun _ => rfl) fun e => ⟨_, (e.amount, e.balance), rfl,
    named_andThen (named_one readsBack_int64 rfl) (named_one readsBack_int64 rfl), rfl⟩

theorem readsBack_fundsWithdrawn : ReadsBack FundsWithdrawn :=
  MadeOf.readsBack (fun _ => rfl) fun e => ⟨_, (e.amount, e.balance), rfl,
    named_andThen (named_one readsBack_int64 rfl) (named_one readsBack_int64 rfl), rfl⟩

theorem readsBack_accountClosed : ReadsBack AccountClosed :=
  MadeOf.readsBack (fun _ => rfl) fun e =>
    ⟨_, e.finalBalance, rfl, named_one readsBack_int64 rfl, rfl⟩

end EventSourcing.Account
