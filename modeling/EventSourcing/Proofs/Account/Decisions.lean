import EventSourcing.Account.Rules

/-!
# What an accepted command was

A command that the rules accept is one of four, and each of them says what the account was before and
what becomes of it.
-/

namespace EventSourcing

theorem ok_of_bind {ε α β : Type} {first : Except ε α} {next : α → Except ε β} {b : β}
    (h : first >>= next = .ok b) : ∃ a, first = .ok a ∧ next a = .ok b := by
  cases first with
  | error failure => cases h
  | ok a => exact ⟨a, rfl, h⟩

namespace Account

/-- The outcomes of accepted commands. -/
inductive Decision (current : Option Account) : Command → Outcome Account Event → Prop
  | opened {payload : CreateAccount} (hc : current = none)
      (hh : Text.isBlankText payload.holder = false) (hb : 0 ≤ payload.initialBalance.toInt) :
      Decision current (.create payload)
        { snapshot := { holder := payload.holder, balance := payload.initialBalance }
          events := [.created ⟨payload.holder, payload.initialBalance⟩] }
  | paidIn {payload : Deposit} {account : Account} {balance : Int64} (hc : current = some account)
      (ho : account.isClosed = false) (hp : 0 < payload.amount.toInt)
      (hb : Word.add? account.balance payload.amount = some balance) :
      Decision current (.deposit payload)
        { snapshot := { account with balance }
          events := [.deposited ⟨payload.amount, balance⟩] }
  | paidOut {payload : Withdraw} {account : Account} (hc : current = some account)
      (ho : account.isClosed = false) (hp : 0 < payload.amount.toInt)
      (hb : payload.amount.toInt ≤ account.balance.toInt) :
      Decision current (.withdraw payload)
        { snapshot := { account with balance := account.balance - payload.amount }
          events := [.withdrawn ⟨payload.amount, account.balance - payload.amount⟩] }
  | closed {payload : CloseAccount} {account : Account} (hc : current = some account)
      (ho : account.isClosed = false) :
      Decision current (.close payload)
        { snapshot := { account with isClosed := true }
          events := [.closed ⟨account.balance⟩] }

theorem saga_handles {σ : Type} {m : Type → Type} [Host σ m] (accounts : SnapshotStore m Account)
    (events : EventQueue m Event) (command : Envelope Command) :
    (saga accounts events).handles command.payloadType = true := by
  unfold Envelope.payloadType
  cases command.payload <;> rfl

variable {current : Option Account} {id : Int64}

theorem eq_of_requireOpen {account : Account} (h : requireOpen current id = .ok account) :
    current = some account ∧ account.isClosed = false := by
  unfold requireOpen at h
  split at h
  · cases h
  split at h
  · cases h
  · rename_i hc
    cases h
    exact ⟨rfl, by simpa using hc⟩

theorem pos_of_requirePositive {amount : Int64} (h : requirePositive amount = .ok ()) :
    0 < amount.toInt := by
  unfold requirePositive at h
  split at h
  · assumption
  · cases h

theorem decision_of_opening {payload : CreateAccount} {outcome : Outcome Account Event}
    (h : opening current id payload = .ok outcome) : Decision current (.create payload) outcome := by
  unfold opening at h
  split at h
  · cases h
  rename_i hc
  split at h
  · cases h
  rename_i hh
  split at h
  · cases h
  rename_i hb
  cases h
  exact .opened (by simpa using hc) (by simpa using hh) (Int.not_lt.1 hb)

theorem decision_of_payingIn {payload : Deposit} {outcome : Outcome Account Event}
    (h : payingIn current id payload = .ok outcome) :
    Decision current (.deposit payload) outcome := by
  obtain ⟨account, hc, hrest⟩ := ok_of_bind h
  obtain ⟨⟨⟩, hp, hend⟩ := ok_of_bind hrest
  obtain ⟨rfl, ho⟩ := eq_of_requireOpen hc
  split at hend
  · cases hend
  · rename_i hb
    cases hend
    exact .paidIn rfl ho (pos_of_requirePositive hp) hb

theorem decision_of_payingOut {payload : Withdraw} {outcome : Outcome Account Event}
    (h : payingOut current id payload = .ok outcome) :
    Decision current (.withdraw payload) outcome := by
  obtain ⟨account, hc, hrest⟩ := ok_of_bind h
  obtain ⟨⟨⟩, hp, hend⟩ := ok_of_bind hrest
  obtain ⟨rfl, ho⟩ := eq_of_requireOpen hc
  split at hend
  · cases hend
  · rename_i hb
    cases hend
    exact .paidOut rfl ho (pos_of_requirePositive hp) (Int.not_lt.1 hb)

theorem decision_of_closing {payload : CloseAccount} {outcome : Outcome Account Event}
    (h : closing current id = .ok outcome) : Decision current (.close payload) outcome := by
  obtain ⟨account, hc, hend⟩ := ok_of_bind h
  obtain ⟨rfl, ho⟩ := eq_of_requireOpen hc
  cases hend
  exact .closed rfl ho

theorem decision {payload : Command} {outcome : Outcome Account Event}
    (h : decide current id payload = .ok outcome) : Decision current payload outcome := by
  cases payload with
  | create c => exact decision_of_opening h
  | deposit d => exact decision_of_payingIn h
  | withdraw w => exact decision_of_payingOut h
  | close c => exact decision_of_closing h

theorem decision_of_rule {command : Envelope Command} {outcome : Outcome Account Event}
    (h : rule current command = .ok outcome) : Decision current command.payload outcome := by
  unfold rule at h
  split at h
  · rename_i hd
    cases h
    exact decision hd
  · cases h

theorem Decision.events {payload : Command} {outcome : Outcome Account Event}
    (h : Decision current payload outcome) : ∃ event, outcome.events = [event] := by
  cases h <;> exact ⟨_, rfl⟩

end Account

end EventSourcing
