import EventSourcing.Proofs.Account.Balances

/-!
# The rule book of accounts

What is asked of each command, in order. A command is accepted if all of it holds; otherwise it is
refused for the first thing that does not. Balances and amounts are added and compared in the
integers, whatever the account was.
-/

namespace EventSourcing.Account

/-! ## Conditions -/

/-- Something that is asked of a command, and the refusal of a command of which it does not hold. -/
structure Condition where
  holds : Prop
  refusal : Refusal

namespace Condition

variable {α : Type} {conditions : List Condition} {result : Except Refusal α}

/-- A result goes by some conditions if it is a refusal by the first that does not hold, and no refusal
if all hold. -/
def Govern : List Condition → Except Refusal α → Prop
  | [], result => ∃ a, result = .ok a
  | condition :: rest, result =>
    (condition.holds → Govern rest result) ∧ (¬condition.holds → result = .error condition.refusal)

theorem Govern.ok_iff (h : Govern conditions result) :
    (∃ a, result = .ok a) ↔ ∀ condition ∈ conditions, condition.holds := by
  induction conditions with
  | nil => exact ⟨fun _ _ hc => absurd hc List.not_mem_nil, fun _ => h⟩
  | cons condition rest ih =>
      obtain ⟨hrest, hfirst⟩ := h
      rw [List.forall_mem_cons]
      by_cases hc : condition.holds
      · rw [ih (hrest hc)]
        exact ⟨fun hall => ⟨hc, hall⟩, And.right⟩
      · rw [hfirst hc]
        exact ⟨fun ⟨_, hok⟩ => (nomatch hok), fun hall => absurd hall.1 hc⟩

theorem Govern.eq_error (h : Govern conditions result) {front rest : List Condition}
    {condition : Condition} (he : conditions = front ++ condition :: rest)
    (hf : ∀ earlier ∈ front, earlier.holds) (hc : ¬condition.holds) :
    result = .error condition.refusal := by
  subst he
  induction front with
  | nil => exact h.2 hc
  | cons earlier front ih =>
      rw [List.forall_mem_cons] at hf
      exact ih hf.2 (h.1 hf.1)

theorem Govern.exists_of_error {refusal : Refusal}
    (h : Govern conditions (.error refusal : Except Refusal α)) :
    ∃ condition ∈ conditions, refusal = condition.refusal := by
  induction conditions with
  | nil => exact nomatch h
  | cons condition rest ih =>
      by_cases hc : condition.holds
      · obtain ⟨other, ho, he⟩ := ih (h.1 hc)
        exact ⟨other, List.mem_cons_of_mem _ ho, he⟩
      · exact ⟨condition, List.mem_cons_self, Except.error.inj (h.2 hc)⟩

end Condition

/-! ## The book -/

/-- What is asked where there has to be an account. If there is none nothing else is looked at. -/
def ofExisting (current : Option Account) (id : Int64) (rest : Account → List Condition) :
    List Condition :=
  match current with
  | none => [⟨False, .missing id⟩]
  | some account => ⟨account.isClosed = false, .closed id⟩ :: rest account

def conditions (current : Option Account) (id : Int64) : Command → List Condition
  | .create payload => [
      ⟨current = none, .alreadyExists id⟩,
      ⟨∃ c ∈ payload.holder.toList, Text.isBlank c = false, .blankHolder⟩,
      ⟨0 ≤ payload.initialBalance.toInt, .negativeOpening payload.initialBalance⟩]
  | .deposit payload => ofExisting current id fun account => [
      ⟨0 < payload.amount.toInt, .notPositive payload.amount⟩,
      ⟨account.balance.toInt + payload.amount.toInt ≤ 9223372036854775807,
        .limitExceeded id payload.amount⟩]
  | .withdraw payload => ofExisting current id fun account => [
      ⟨0 < payload.amount.toInt, .notPositive payload.amount⟩,
      ⟨payload.amount.toInt ≤ account.balance.toInt,
        .insufficientFunds id account.balance payload.amount⟩]
  | .close _ => ofExisting current id fun _ => []

/-- What an accepted command makes of the account, and the one event that tells of it. -/
def Effect (current : Option Account) (outcome : Outcome Account Event) : Command → Prop
  | .create payload =>
    outcome =
      { snapshot := ⟨none, 0, payload.holder, payload.initialBalance, false⟩
        events := [.created ⟨payload.holder, payload.initialBalance⟩] }
  | .deposit payload => ∃ account balance, current = some account ∧
    balance.toInt = account.balance.toInt + payload.amount.toInt ∧
    outcome =
      { snapshot := { account with balance }
        events := [.deposited ⟨payload.amount, balance⟩] }
  | .withdraw payload => ∃ account balance, current = some account ∧
    balance.toInt = account.balance.toInt - payload.amount.toInt ∧
    outcome =
      { snapshot := { account with balance }
        events := [.withdrawn ⟨payload.amount, balance⟩] }
  | .close _ => ∃ account, current = some account ∧
    outcome =
      { snapshot := { account with isClosed := true }
        events := [.closed ⟨account.balance⟩] }

/-! ## The rules go by the book -/

open Condition

variable {current : Option Account} {id : Int64} {α : Type}

theorem govern_requireOpen {rest : Account → List Condition}
    {next : Account → Except Refusal α}
    (h : ∀ account, Govern (rest account) (next account)) :
    Govern (ofExisting current id rest) (requireOpen current id >>= next) := by
  cases current with
  | none => exact ⟨False.elim, fun _ => rfl⟩
  | some account =>
      cases hc : account.isClosed with
      | false =>
          have ho : requireOpen (some account) id = .ok account := by simp [requireOpen, hc]
          rw [ho]
          exact ⟨fun _ => h account, fun hn => absurd hc hn⟩
      | true =>
          have ho : requireOpen (some account) id = .error (.closed id) := by simp [requireOpen, hc]
          rw [ho]
          exact ⟨fun hopen => absurd (hc.symm.trans hopen) Bool.noConfusion, fun _ => rfl⟩

theorem govern_requirePositive {amount : Int64} {rest : List Condition}
    {next : Unit → Except Refusal α} (h : 0 < amount.toInt → Govern rest (next ())) :
    Govern (⟨0 < amount.toInt, .notPositive amount⟩ :: rest) (requirePositive amount >>= next) := by
  unfold requirePositive
  split
  · rename_i hp
    exact ⟨h, fun hn => absurd hp hn⟩
  · rename_i hp
    exact ⟨fun hpos => absurd hpos hp, fun _ => rfl⟩

theorem isBlankText_eq_false_iff {s : String} :
    Text.isBlankText s = false ↔ ∃ c ∈ s.toList, Text.isBlank c = false := by
  simp [Text.isBlankText, List.all_eq_false]

theorem govern_opening (payload : CreateAccount) :
    Govern (conditions current id (.create payload)) (opening current id payload) := by
  unfold opening
  split
  · rename_i hc
    exact ⟨fun (hn : current = none) => by simp [hn] at hc, fun _ => rfl⟩
  rename_i hc
  rw [Bool.not_eq_true, Option.isSome_eq_false_iff, Option.isNone_iff_eq_none] at hc
  refine ⟨fun _ => ?_, fun hn => absurd hc hn⟩
  split
  · rename_i hb
    refine ⟨fun hh => ?_, fun _ => rfl⟩
    rw [isBlankText_eq_false_iff.2 hh] at hb
    cases hb
  rename_i hb
  refine ⟨fun _ => ?_, fun hn => absurd (isBlankText_eq_false_iff.1 (by simpa using hb)) hn⟩
  split
  · rename_i hneg
    exact ⟨fun hpos => absurd hneg (Int.not_lt.2 hpos), fun _ => rfl⟩
  · rename_i hneg
    exact ⟨fun _ => ⟨_, rfl⟩, fun hn => absurd (Int.not_lt.1 hneg) hn⟩

/-- As the amount is positive, only the upper end of the words can be passed. -/
theorem govern_payingIn (payload : Deposit) :
    Govern (conditions current id (.deposit payload)) (payingIn current id payload) := by
  refine govern_requireOpen fun account => govern_requirePositive fun hp => ?_
  have hlow := (Word.fits_toInt account.balance).1
  split
  · rename_i hadd
    refine ⟨fun hfits => ?_, fun _ => rfl⟩
    rw [Word.add?, Word.ofInt?, if_pos ⟨by omega, hfits⟩] at hadd
    cases hadd
  · rename_i balance hadd
    refine ⟨fun _ => ⟨_, rfl⟩, fun hn => absurd ?_ hn⟩
    rw [← Word.add?_eq_some_iff.1 hadd]
    exact (Word.fits_toInt balance).2

theorem govern_payingOut (payload : Withdraw) :
    Govern (conditions current id (.withdraw payload)) (payingOut current id payload) := by
  refine govern_requireOpen fun account => govern_requirePositive fun _ => ?_
  split
  · rename_i hlt
    exact ⟨fun hle => absurd hlt (Int.not_lt.2 hle), fun _ => rfl⟩
  · rename_i hlt
    exact ⟨fun _ => ⟨_, rfl⟩, fun hn => absurd (Int.not_lt.1 hlt) hn⟩

theorem govern_decide (current : Option Account) (id : Int64) (payload : Command) :
    Govern (conditions current id payload) (decide current id payload) := by
  cases payload with
  | create payload => exact govern_opening payload
  | deposit payload => exact govern_payingIn payload
  | withdraw payload => exact govern_payingOut payload
  | close => exact govern_requireOpen fun _ => ⟨_, rfl⟩

theorem Decision.effect {payload : Command} {outcome : Outcome Account Event}
    (h : Decision current payload outcome) : Effect current outcome payload := by
  cases h with
  | opened => rfl
  | paidIn hc _ _ hb => exact ⟨_, _, hc, Word.add?_eq_some_iff.1 hb, rfl⟩
  | paidOut hc _ hp hb => exact ⟨_, _, hc, Word.toInt_sub_of_le (Int.le_of_lt hp) hb, rfl⟩
  | closed hc => exact ⟨_, hc, rfl⟩

/-- Only that there is no account is told as such; all else is a violation of a rule. -/
theorem toError_of_mem_conditions {payload : Command} {condition : Condition}
    (h : condition ∈ conditions current id payload) :
    (current = none ∧ (∀ created, payload ≠ .create created) ∧
        condition.refusal.toError = .notFound "account" id) ∨
      ((current.isSome ∨ ∃ created, payload = .create created) ∧
        ∃ text, condition.refusal.toError = .ruleViolation text) := by
  cases payload with
  | create created =>
      refine .inr ⟨.inr ⟨_, rfl⟩, ?_⟩
      simp only [conditions, List.mem_cons, List.not_mem_nil, or_false] at h
      rcases h with rfl | rfl | rfl <;> exact ⟨_, rfl⟩
  | deposit | withdraw | close =>
      cases current with
      | none =>
          rw [List.mem_singleton.1 h]
          exact .inl ⟨rfl, nofun, rfl⟩
      | some account =>
          refine .inr ⟨.inl rfl, ?_⟩
          simp only [conditions, ofExisting, List.mem_cons, List.not_mem_nil, or_false] at h
          rcases h with rfl | rfl | rfl <;> exact ⟨_, rfl⟩

theorem rule_eq_ok_iff {command : Envelope Command} {outcome : Outcome Account Event} :
    rule current command = .ok outcome ↔
      decide current command.entity.id command.payload = .ok outcome := by
  unfold rule
  split
  · rename_i h
    rw [h, Except.ok.injEq, Except.ok.injEq]
  · rename_i h
    rw [h]
    exact ⟨nofun, nofun⟩

theorem rule_of_refusal {command : Envelope Command} {refusal : Refusal}
    (h : decide current command.entity.id command.payload = .error refusal) :
    rule current command = .error refusal.toError := by
  unfold rule
  rw [h]

theorem refusal_of_rule {command : Envelope Command} {failure : DomainError}
    (h : rule current command = .error failure) :
    ∃ refusal, decide current command.entity.id command.payload = .error refusal ∧
      failure = refusal.toError := by
  unfold rule at h
  split at h
  · cases h
  · rename_i refusal hd
    cases h
    exact ⟨refusal, hd, rfl⟩

/-- Whatever an account is, a command is accepted if all that the book asks of it holds, and refused by
the first thing that does not hold: as not found if there is no account where one is needed, and else
as a violation of a rule. What it makes of the account is told by one event. -/
theorem rule_by_the_book (current : Option Account) (command : Envelope Command) :
    let book := conditions current command.entity.id command.payload
    ((∃ outcome, rule current command = .ok outcome) ↔ ∀ condition ∈ book, condition.holds) ∧
    (∀ front condition rest, book = front ++ condition :: rest →
      (∀ earlier ∈ front, earlier.holds) → ¬condition.holds →
      rule current command = .error condition.refusal.toError) ∧
    (∀ failure, rule current command = .error failure →
      (current = none ∧ (∀ created, command.payload ≠ .create created) ∧
          failure = .notFound "account" command.entity.id) ∨
        ((current.isSome ∨ ∃ created, command.payload = .create created) ∧
          ∃ text, failure = .ruleViolation text)) ∧
    ∀ outcome, rule current command = .ok outcome → Effect current outcome command.payload := by
  intro book
  have hg := govern_decide current command.entity.id command.payload
  refine ⟨?_, fun front condition rest he hf hc => ?_, fun failure hf => ?_, fun outcome ho => ?_⟩
  · simp only [rule_eq_ok_iff]
    exact hg.ok_iff
  · exact rule_of_refusal (hg.eq_error he hf hc)
  · obtain ⟨refusal, hd, rfl⟩ := refusal_of_rule hf
    rw [hd] at hg
    obtain ⟨condition, hm, rfl⟩ := hg.exists_of_error
    exact toError_of_mem_conditions hm
  · exact (decision_of_rule ho).effect

end EventSourcing.Account
