import EventSourcing.Proofs.Account.Agreement
import Mathlib.Algebra.Ring.Int.Defs
import Mathlib.Data.List.Induction

/-!
# Balances

Money comes into an account when it is opened and when an amount is paid in, and leaves it when an
amount is paid out. After every record the balance is what came in less what left, counted in the
integers: it is never negative, and no sum of two words wraps on the way.
-/

namespace EventSourcing

theorem Word.toInt_sub_of_le {a b : Int64} (hb : 0 ≤ b.toInt) (h : b.toInt ≤ a.toInt) :
    (a - b).toInt = a.toInt - b.toInt := by
  have ha := (Word.fits_toInt a).2
  rw [Int64.toInt_sub, Int.bmod_eq_of_le (by omega) (by omega)]

namespace Account

/-! ## What a command moves -/

def Command.amountIn : Command → Int
  | .deposit payment => payment.amount.toInt
  | .create _ | .withdraw _ | .close _ => 0

def Command.amountOut : Command → Int
  | .withdraw payment => payment.amount.toInt
  | .create _ | .deposit _ | .close _ => 0

/-- What an accepted command adds to the balance. -/
def Command.change : Command → Int
  | .create created => created.initialBalance.toInt
  | .deposit payment => payment.amount.toInt
  | .withdraw payment => -payment.amount.toInt
  | .close _ => 0

/-- The amount that a command pays in or out. -/
def Command.amount? : Command → Option Int64
  | .deposit payment => some payment.amount
  | .withdraw payment => some payment.amount
  | .create _ | .close _ => none

def balanceOf (current : Option Account) : Int := current.elim 0 fun account => account.balance.toInt

variable {current : Option Account} {payload : Command} {outcome : Outcome Account Event}

theorem Decision.amount_pos (h : Decision current payload outcome) {amount : Int64}
    (ha : payload.amount? = some amount) : 0 < amount.toInt := by
  cases h with
  | opened | closed => cases ha
  | paidIn _ _ hp | paidOut _ _ hp =>
      cases ha
      exact hp

/-- The words are added and subtracted as the integers are. -/
theorem Decision.balance_eq (h : Decision current payload outcome) :
    outcome.snapshot.balance.toInt = balanceOf current + payload.change := by
  cases h with
  | opened hc =>
      rw [hc]
      exact (Int.zero_add _).symm
  | paidIn hc _ _ hb =>
      rw [hc]
      exact Word.add?_eq_some_iff.1 hb
  | paidOut hc _ hp hb =>
      rw [hc]
      exact Word.toInt_sub_of_le (Int.le_of_lt hp) hb
  | closed hc =>
      rw [hc]
      exact (Int.add_zero _).symm

theorem Decision.balance_nonneg (h : Decision current payload outcome)
    (hc : 0 ≤ balanceOf current) : 0 ≤ outcome.snapshot.balance.toInt := by
  rw [h.balance_eq]
  cases h with
  | opened hn _ hb =>
      subst hn
      exact Int.add_nonneg (Int.le_refl 0) hb
  | paidIn _ _ hp => exact Int.add_nonneg hc (Int.le_of_lt hp)
  | paidOut ha _ _ hb =>
      subst ha
      exact Int.sub_nonneg_of_le hb
  | closed => exact Int.add_nonneg hc (Int.le_refl 0)

/-! ## What a history moves -/

/-- What a record moves, of what its command moves; a record that cannot be read moves nothing. -/
def moved (part : Command → Int) (record : StoredCommand) : Int :=
  match commandDecoders.decodeStored record with
  | .ok command => part command.payload
  | .error _ => 0

def paidIn (history : List StoredCommand) : Int := (history.map (moved Command.amountIn)).sum

def paidOut (history : List StoredCommand) : Int := (history.map (moved Command.amountOut)).sum

/-- A history accounts for a balance: it is what its first record opens the account with and what is
paid in, less what is paid out. -/
def AccountsFor (history : List StoredCommand) (balance : Int) : Prop :=
  ∃ first rest opening created, history = first :: rest ∧
    commandDecoders.decodeStored first = .ok opening ∧ opening.payload = .create created ∧
    balance = created.initialBalance.toInt + paidIn history - paidOut history

theorem accountsFor_singleton {record : StoredCommand} {command : Envelope Command}
    {created : CreateAccount} (hc : commandDecoders.decodeStored record = .ok command)
    (hp : command.payload = .create created) :
    AccountsFor [record] created.initialBalance.toInt := by
  refine ⟨record, [], command, created, rfl, hc, hp, ?_⟩
  simp [paidIn, paidOut, moved, hc, hp, Command.amountIn, Command.amountOut]

theorem AccountsFor.concat {history : List StoredCommand} {balance : Int} {record : StoredCommand}
    {command : Envelope Command} (h : AccountsFor history balance)
    (hc : commandDecoders.decodeStored record = .ok command)
    (hp : ∀ created, command.payload ≠ .create created) :
    AccountsFor (history ++ [record]) (balance + command.payload.change) := by
  obtain ⟨first, rest, opening, created, rfl, hfirst, hcreated, hb⟩ := h
  refine ⟨first, rest ++ [record], opening, created, rfl, hfirst, hcreated, ?_⟩
  have hmoved : command.payload.change =
      moved Command.amountIn record - moved Command.amountOut record := by
    simp only [moved, hc]
    cases hpayload : command.payload with
    | create created => exact absurd hpayload (hp created)
    | deposit | withdraw | close => simp [Command.change, Command.amountIn, Command.amountOut]
  simp only [paidIn, paidOut, List.map_append, List.sum_append, List.map_cons, List.map_nil,
    List.sum_cons, List.sum_nil] at hb ⊢
  omega

/-- The balance after a history is what the history accounts for, and it is not negative. -/
theorem accountsFor_of_ofHistory {history : List StoredCommand} {account : Account}
    (h : ofHistory history = .ok (some account)) :
    AccountsFor history account.balance.toInt ∧ 0 ≤ account.balance.toInt := by
  induction history using List.reverseRecOn generalizing account with
  | nil => cases h
  | append_singleton front record ih =>
      obtain ⟨current, next, hfront, hafter, hend⟩ := after_of_ofHistory h
      cases hend
      obtain ⟨command, outcome, hc, hd, hnext⟩ := accepted_of_after hafter
      cases hnext
      have hdecision := decision_of_rule hd
      have hbalance := hdecision.balance_eq
      -- Only an opening is accepted where there is no account, and nothing was recorded before it.
      cases current with
      | none =>
          have hempty : front = [] := by
            by_contra hne
            exact nomatch (isSome_of_ofHistory hfront).2 hne
          subst hempty
          refine ⟨?_, hdecision.balance_nonneg (Int.le_refl 0)⟩
          generalize hpayload : command.payload = payload at hdecision
          cases hdecision with
          | opened => exact accountsFor_singleton hc hpayload
          | paidIn hn | paidOut hn | closed hn => cases hn
      | some before =>
          obtain ⟨hb, hnonneg⟩ := ih hfront
          refine ⟨?_, hdecision.balance_nonneg hnonneg⟩
          rw [hbalance]
          refine hb.concat hc fun created hp => ?_
          rw [hp] at hdecision
          cases hdecision with
          | opened hn => cases hn

end Account

/-! ## What the books say -/

namespace Books

open EventSourcing.Sequential

/-- Whatever the service was asked to do: after any records of an account the balance is what they
account for and lies between zero and the greatest word; every record moves a positive amount, if any,
and adds to the balance before it just what it moves; and the account and the summary have the balance
that all records account for. -/
theorem balances_of_reached (start : Session Books) (requests : List Request) (entity : Int64) :
    let books := (reached start requests).state
    let history := books.commands.load entity
    (∀ past later, history = past ++ later → past ≠ [] →
      ∃ account, Account.ofHistory past = .ok (some account) ∧
        Account.AccountsFor past account.balance.toInt ∧
        0 ≤ account.balance.toInt ∧ account.balance.toInt ≤ Int64.maxValue.toInt) ∧
    (∀ past record later, history = past ++ record :: later →
      ∃ command current outcome, Account.commandDecoders.decodeStored record = .ok command ∧
        (∀ amount, command.payload.amount? = some amount → 0 < amount.toInt) ∧
        Account.ofHistory past = .ok current ∧ Account.rule current command = .ok outcome ∧
        outcome.snapshot.balance.toInt = Account.balanceOf current + command.payload.change) ∧
    (history ≠ [] →
      ∃ account summary, books.accounts.find entity = some account ∧
        books.summaries.find entity = some summary ∧ summary.balance = account.balance ∧
        Account.AccountsFor history account.balance.toInt) := by
  intro books history
  have hs := (kept_reached start requests).settled entity
  obtain ⟨account, ha, hf⟩ := hs.follows.account
  change Account.ofHistory history = .ok account at ha
  refine ⟨fun past later hp hn => ?_, fun past record later hp => ?_, fun hn => ?_⟩
  · obtain ⟨current, hpast⟩ := Account.exists_ofHistory_front (hp ▸ ha)
    obtain ⟨found, rfl⟩ := Option.isSome_iff_exists.1 ((Account.isSome_of_ofHistory hpast).2 hn)
    obtain ⟨hb, hnonneg⟩ := Account.accountsFor_of_ofHistory hpast
    exact ⟨found, hpast, hb, hnonneg, (Word.fits_toInt found.balance).2⟩
  · obtain ⟨current, _, hpast, hafter, -⟩ := Account.after_of_ofHistory (hp ▸ ha)
    obtain ⟨command, outcome, hc, hd, -⟩ := Account.accepted_of_after hafter
    have hdecision := Account.decision_of_rule hd
    exact ⟨command, current, outcome, hc, fun _ => hdecision.amount_pos, hpast, hd,
      hdecision.balance_eq⟩
  · obtain ⟨found, rfl⟩ := Option.isSome_iff_exists.1 ((Account.isSome_of_ofHistory ha).2 hn)
    exact ⟨_, _, hf, hs.follows.summary _ hf, rfl, (Account.accountsFor_of_ofHistory ha).1⟩

end Books

end EventSourcing
