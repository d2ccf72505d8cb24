import EventSourcing.Proofs.Account.Decisions
import EventSourcing.Proofs.Reading
import EventSourcing.Proofs.Streams

/-!
# The account that a history describes

Decided one after the other, starting from no account, the commands of a history give an account.
The id and the version of an account play no part in the decisions.
-/

namespace EventSourcing.Account

/-! ## Folding a history -/

def after (current : Option Account) (record : StoredCommand) :
    Except DomainError (Option Account) := do
  let command ← commandDecoders.decodeStored record
  let outcome ← rule current command
  return some outcome.snapshot

/-- The account after the records of a history, from no account. -/
def ofHistory (history : List StoredCommand) : Except DomainError (Option Account) :=
  history.foldlM after none

theorem ofHistory_concat (history : List StoredCommand) (record : StoredCommand) :
    ofHistory (history ++ [record]) = (do after (← ofHistory history) record) := by
  simp [ofHistory]

theorem accepted_of_after {current next : Option Account} {record : StoredCommand}
    (h : after current record = .ok next) :
    ∃ command outcome, commandDecoders.decodeStored record = .ok command ∧
      rule current command = .ok outcome ∧ next = some outcome.snapshot := by
  obtain ⟨command, hc, hrest⟩ := ok_of_bind h
  obtain ⟨outcome, hd, hend⟩ := ok_of_bind hrest
  cases hend
  exact ⟨command, outcome, hc, hd, rfl⟩

/-- Each record of a history is decided on the account that the records before it describe. -/
theorem after_of_ofHistory {front rest : List StoredCommand} {record : StoredCommand}
    {account : Option Account} (h : ofHistory (front ++ record :: rest) = .ok account) :
    ∃ current next, ofHistory front = .ok current ∧ after current record = .ok next ∧
      rest.foldlM after next = .ok account := by
  rw [ofHistory, List.foldlM_append] at h
  obtain ⟨current, hf, hlater⟩ := ok_of_bind h
  rw [List.foldlM_cons] at hlater
  obtain ⟨next, hn, hrest⟩ := ok_of_bind hlater
  exact ⟨current, next, hf, hn, hrest⟩

theorem exists_ofHistory_front {front rest : List StoredCommand} {account : Option Account}
    (h : ofHistory (front ++ rest) = .ok account) : ∃ current, ofHistory front = .ok current := by
  rw [ofHistory, List.foldlM_append] at h
  obtain ⟨current, hf, -⟩ := ok_of_bind h
  exact ⟨current, hf⟩

theorem isSome_of_ofHistory {history : List StoredCommand} {account : Option Account}
    (h : ofHistory history = .ok account) : account.isSome ↔ history ≠ [] := by
  rcases List.eq_nil_or_concat history with rfl | ⟨front, record, rfl⟩
  · cases h
    simp
  · rw [List.concat_eq_append] at h
    obtain ⟨current, next, -, hn, hend⟩ := after_of_ofHistory h
    cases hend
    obtain ⟨_, outcome, -, -, rfl⟩ := accepted_of_after hn
    simp

/-! ## Records of commands -/

/-- A record is that of a command: the payload is read from it, in the place of the command. -/
structure RecordOf (record : StoredCommand) (command : Envelope Command) : Prop where
  payload : commandDecoders.decodeStored record = .ok (Decoders.replayed record command.payload)
  entityId : record.entityId = command.entity.id
  sequenceNo : record.sequenceNo = command.sequenceNo

theorem recordOf_entry (command : Envelope Command) (now : Instant) :
    RecordOf (entry command now) command :=
  ⟨knows_commandDecoders.decodeStored_entry command now, rfl, rfl⟩

theorem load_of_append_entry {log log' : CommandLog} {command : Envelope Command} {now : Instant}
    (h : log.append (entry command now) = .ok log') (entity : Int64) :
    log'.load entity =
      if entity = command.entity.id then log.load entity ++ [entry command now]
      else log.load entity := CommandLog.load_of_append_ofCommand (ofCommand_eq command now) h entity

theorem recordOf_of_decodeStored {record : StoredCommand} {command : Envelope Command}
    (h : commandDecoders.decodeStored record = .ok command) : RecordOf record command := by
  have he := Decoders.eq_replayed_of_decodeStored h
  exact ⟨by rw [← he, h], by rw [he]; rfl, by rw [he]; rfl⟩

/-! ## Transactions -/

def movesMoney (record : StoredCommand) : Bool :=
  match commandDecoders.decodeStored record with
  | .ok { payload := .deposit _, .. } | .ok { payload := .withdraw _, .. } => true
  | _ => false

def opensWithMoney (record : StoredCommand) : Bool :=
  match commandDecoders.decodeStored record with
  | .ok { payload := .create created, .. } => 0 < created.initialBalance.toInt
  | _ => false

/-- The number of transactions in a history: the payments, and one if the account was opened with
money. -/
def transactions (history : List StoredCommand) : Nat :=
  history.countP movesMoney + if history.any opensWithMoney then 1 else 0

def Command.transactions : Command → Nat
  | .create created => if 0 < created.initialBalance.toInt then 1 else 0
  | .deposit _ | .withdraw _ => 1
  | .close _ => 0

theorem transactions_concat {history : List StoredCommand} {record : StoredCommand}
    {command : Envelope Command} (hr : RecordOf record command)
    (h : ∀ created, command.payload = .create created → history = []) :
    transactions (history ++ [record]) = transactions history + command.payload.transactions := by
  simp only [transactions, List.countP_append, List.countP_singleton, List.any_append,
    List.any_cons, List.any_nil, Bool.or_false, movesMoney, opensWithMoney, hr.payload,
    Decoders.replayed]
  cases hp : command.payload with
  -- Only the first record can open the account, so that no later one is counted twice.
  | create created =>
      rw [h created hp]
      simp [Command.transactions]
  | deposit d =>
      simp only [Command.transactions, Bool.or_false, if_true]
      omega
  | withdraw w =>
      simp only [Command.transactions, Bool.or_false, if_true]
      omega
  | close c => simp [Command.transactions]

/-! ## Ids and versions -/

def asOf (id version : Int64) (account : Account) : Account :=
  { account with id := some id, version }

theorem stamped_of_id_none {account : Account} (h : account.id = none) (id version : Int64) :
    Snapshot.stamped id version account = account.asOf id version := by
  simp only [Snapshot.stamped, Snapshot.withDefaultId, Snapshot.id?, h]
  rfl

theorem stamped_asOf (id v version : Int64) (account : Account) :
    Snapshot.stamped id version (account.asOf id v) = account.asOf id version := rfl

theorem requireOpen_asOf (account : Account) (id version entity : Int64) :
    requireOpen (some (account.asOf id version)) entity =
      (requireOpen (some account) entity).map (asOf id version) := by
  unfold requireOpen
  by_cases hc : account.isClosed
  · have ha : (account.asOf id version).isClosed := hc
    simp only [if_pos hc, if_pos ha]
    rfl
  · have ha : ¬(account.asOf id version).isClosed := hc
    simp only [if_neg hc, if_neg ha]
    rfl

/-- The rules look at neither, and hand both on. -/
theorem decide_asOf (account : Account) (id version entity : Int64) (payload : Command) :
    decide (some (account.asOf id version)) entity payload =
      (decide (some account) entity payload).map fun outcome =>
        { outcome with snapshot := outcome.snapshot.asOf id version } := by
  cases payload with
  | create c => rfl
  | deposit d =>
      simp only [decide, payingIn, requireOpen_asOf]
      cases requireOpen (some account) entity with
      | error refusal => rfl
      | ok found =>
          simp only [Except.map, bind, Except.bind]
          cases requirePositive d.amount with
          | error refusal => rfl
          | ok =>
              simp only [asOf]
              cases Word.add? found.balance d.amount <;> rfl
  | withdraw w =>
      simp only [decide, payingOut, requireOpen_asOf]
      cases requireOpen (some account) entity with
      | error refusal => rfl
      | ok found =>
          simp only [Except.map, bind, Except.bind]
          cases requirePositive w.amount with
          | error refusal => rfl
          | ok =>
              simp only [asOf]
              by_cases hb : found.balance.toInt < w.amount.toInt <;>
                simp only [hb, if_true, if_false]
  | close c =>
      simp only [decide, closing, requireOpen_asOf]
      cases requireOpen (some account) entity <;> rfl

theorem rule_of_asOf {current : Option Account} {id version : Int64} {command : Envelope Command}
    {outcome : Outcome Account Event}
    (h : rule (current.map (asOf id version)) command = .ok outcome) :
    ∃ plain, rule current command = .ok plain ∧ plain.events = outcome.events ∧
      ∀ n, Snapshot.stamped id n outcome.snapshot = plain.snapshot.asOf id n := by
  cases current with
  | none =>
      refine ⟨outcome, h, rfl, fun n => stamped_of_id_none ?_ id n⟩
      have hd := decision_of_rule h
      generalize command.payload = payload at hd
      cases hd with
      | opened => rfl
      | paidIn hc | paidOut hc | closed hc => cases hc
  | some account =>
      unfold rule at h ⊢
      rw [Option.map_some, decide_asOf] at h
      cases hd : decide (some account) command.entity.id command.payload with
      | error refusal =>
          rw [hd] at h
          cases h
      | ok plain =>
          rw [hd] at h
          cases h
          exact ⟨plain, rfl, rfl, fun n => stamped_asOf id version n _⟩

theorem id?_stamped_of_rule {current : Option Account} {entity : Int64} {command : Envelope Command}
    {outcome : Outcome Account Event} (hc : ∀ account, current = some account →
      account.id = some entity) (hd : rule current command = .ok outcome) (version : Int64) :
    Snapshot.id? (Snapshot.stamped entity version outcome.snapshot) = some entity := by
  -- An account under the id of the entity is already as it is stored.
  have hm : ∃ v, current = current.map (asOf entity v) := by
    cases current with
    | none => exact ⟨0, rfl⟩
    | some account =>
        refine ⟨account.version, ?_⟩
        simp only [Option.map_some, asOf, ← hc account rfl]
  obtain ⟨v, hv⟩ := hm
  rw [hv] at hd
  obtain ⟨plain, -, -, hs⟩ := rule_of_asOf hd
  rw [hs]
  rfl

/-! ## Accounts that are up to date -/

/-- What is stored for an entity is the account that its history describes, under its id and with
the number of the last record as its version. -/
def UpToDate (entity : Int64) (history : List StoredCommand) (stored : Option Account) : Prop :=
  ∃ account, ofHistory history = .ok account ∧
    stored = account.map (asOf entity (CommandLog.lastOf history))

theorem upToDate_nil (entity : Int64) : UpToDate entity [] none := ⟨none, rfl, rfl⟩

theorem UpToDate.concat {history : List StoredCommand} {stored : Option Account}
    {command : Envelope Command} {outcome : Outcome Account Event}
    (h : UpToDate command.entity.id history stored) (hd : rule stored command = .ok outcome)
    {record : StoredCommand} (hr : RecordOf record command) :
    UpToDate command.entity.id (history ++ [record])
      (some (Snapshot.stamped command.entity.id command.sequenceNo outcome.snapshot)) := by
  obtain ⟨account, hh, rfl⟩ := h
  obtain ⟨plain, hp, -, hs⟩ := rule_of_asOf hd
  refine ⟨some plain.snapshot, ?_, ?_⟩
  · have hrule : rule account (Decoders.replayed record command.payload) = .ok plain := by
      rw [← hp]
      simp only [rule, Decoders.replayed, hr.entityId]
    rw [ofHistory_concat, hh]
    simp only [after, bind, Except.bind, hr.payload, hrule]
    rfl
  · rw [CommandLog.lastOf_concat, hs, hr.sequenceNo]
    rfl

theorem UpToDate.id {entity : Int64} {history : List StoredCommand} {stored : Option Account}
    (h : UpToDate entity history stored) {account : Account} (ha : stored = some account) :
    account.id = some entity ∧ account.version = CommandLog.lastOf history := by
  obtain ⟨_ | plain, -, rfl⟩ := h
  · cases ha
  · cases ha
    exact ⟨rfl, rfl⟩

theorem UpToDate.id?_stamped {entity : Int64} {history : List StoredCommand}
    {stored : Option Account} (h : UpToDate entity history stored) {command : Envelope Command}
    {outcome : Outcome Account Event} (hd : rule stored command = .ok outcome) (version : Int64) :
    Snapshot.id? (Snapshot.stamped entity version outcome.snapshot) = some entity :=
  id?_stamped_of_rule (fun _ ha => (h.id ha).1) hd version

theorem UpToDate.isSome_iff {entity : Int64} {history : List StoredCommand}
    {stored : Option Account} (h : UpToDate entity history stored) :
    stored.isSome ↔ history ≠ [] := by
  obtain ⟨account, hh, rfl⟩ := h
  rw [Option.isSome_map, isSome_of_ofHistory hh]

theorem UpToDate.reflects_next {entity : Int64} {history : List StoredCommand}
    {stored : Option Account} (h : UpToDate entity history stored)
    (hg : CommandLog.Gapless entity history) {command : Envelope Command}
    (hn : command.sequenceNo.toInt = history.length + 1) : Saga.reflects stored command = false := by
  cases stored with
  | none => simp [Saga.reflects]
  | some account =>
      have hv : (Snapshot.version account).toInt = history.length := by
        change account.version.toInt = _
        rw [(h.id rfl).2, hg.toInt_lastOf]
      simp only [Saga.reflects, Option.any_some, Bool.and_eq_false_iff, decide_eq_false_iff_not]
      exact .inr (by omega)

theorem UpToDate.reflects {entity : Int64} {history : List StoredCommand} {stored : Option Account}
    (h : UpToDate entity history stored) (hg : CommandLog.Gapless entity history)
    {record : StoredCommand} (hr : record ∈ history) (payload : Command) :
    Saga.reflects stored (Decoders.replayed record payload) = true := by
  obtain ⟨k, hk, rfl⟩ := List.getElem_of_mem hr
  have hn := (hg k _ (List.getElem?_eq_getElem hk)).2
  obtain ⟨account, ha⟩ := Option.isSome_iff_exists.1
    (h.isSome_iff.2 (List.ne_nil_of_length_pos (Nat.zero_lt_of_lt hk)))
  have hv : (Snapshot.version account).toInt = history.length := by
    change account.version.toInt = _
    rw [(h.id ha).2, hg.toInt_lastOf]
  rw [ha]
  simp only [Saga.reflects, Option.any_some, Bool.and_eq_true, decide_eq_true_eq]
  refine ⟨rfl, ?_⟩
  change history[k].sequenceNo.toInt ≤ _
  omega

theorem UpToDate.reflects_of_decodeStored {decoders : Decoders Command} {entity : Int64}
    {history : List StoredCommand} {stored : Option Account} (h : UpToDate entity history stored)
    (hg : CommandLog.Gapless entity history) {record : StoredCommand} (hr : record ∈ history)
    {command : Envelope Command} (hc : decoders.decodeStored record = .ok command) :
    command.entity.id = entity ∧ Saga.reflects stored command = true := by
  rw [Decoders.eq_replayed_of_decodeStored hc]
  exact ⟨hg.entityId_of_mem hr, h.reflects hg hr command.payload⟩

end EventSourcing.Account
