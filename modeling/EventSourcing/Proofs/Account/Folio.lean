import EventSourcing.Account.Summary
import EventSourcing.Proofs.Account.History
import EventSourcing.Proofs.Projection

/-!
# The folio of an entity

What the books hold of one entity, its account and its summary, and how a command changes them when
nothing else is looked at. As long as account and summary follow the records, they agree.
-/

namespace EventSourcing

open Account (Command Event)

/-! ## Summaries -/

namespace AccountSummary

def after (entity : Int64) (current : Option AccountSummary) :
    Event → Except DomainError AccountSummary
  | .created created => .ok (ofCreated created)
  | .deposited deposited => onStored fun summary => summary.afterTransaction deposited.balance
  | .withdrawn withdrawn => onStored fun summary => summary.afterTransaction withdrawn.balance
  | .closed closed => onStored fun summary => summary.afterClosing closed.finalBalance
where
  onStored (change : AccountSummary → AccountSummary) : Except DomainError AccountSummary :=
    match current with
    | none => .error (.notFound (Snapshot.kind AccountSummary) entity)
    | some summary => .ok (change summary)

theorem transforms_view {m : Type → Type} (summaries : SnapshotStore m AccountSummary)
    (name : String) :
    (view summaries).transforms[name]? =
      if "account.closed" = name then
        some (View.updating Event.closedVariant fun summary _ closed =>
          .ok (summary.afterClosing closed.finalBalance))
      else if "account.withdrawn" = name then
        some (View.updating Event.withdrawnVariant fun summary _ withdrawn =>
          .ok (summary.afterTransaction withdrawn.balance))
      else if "account.deposited" = name then
        some (View.updating Event.depositedVariant fun summary _ deposited =>
          .ok (summary.afterTransaction deposited.balance))
      else if "account.created" = name then
        some (View.creating Event.createdVariant fun _ created => .ok (ofCreated created))
      else none := by
  simp only [view, View.onCreate, View.onUpdate, View.transforms_on]
  simp [Event.createdVariant, Event.depositedVariant, Event.withdrawnVariant, Event.closedVariant]

theorem exists_transform {m : Type → Type} (summaries : SnapshotStore m AccountSummary)
    (event : Envelope Event) :
    ∃ transform, (view summaries).transforms[event.payloadType]? = some transform ∧
      ∀ current, transform current event = after event.entity.id current event.payload := by
  obtain ⟨name, metadata, entity, payload⟩ := event
  rw [transforms_view]
  cases payload with
  | created created => exact ⟨_, rfl, fun _ => rfl⟩
  | deposited deposited => exact ⟨_, rfl, fun current => by cases current <;> rfl⟩
  | withdrawn withdrawn => exact ⟨_, rfl, fun current => by cases current <;> rfl⟩
  | closed closed => exact ⟨_, rfl, fun current => by cases current <;> rfl⟩

/-- The summary that goes with an account after a number of transactions. -/
def ofAccount (count : Nat) (account : Account) : AccountSummary where
  id := account.id
  version := account.version
  holder := account.holder
  balance := account.balance
  transactionCount := .ofNat count
  isClosed := account.isClosed

theorem stamped_ofAccount (entity version : Int64) (count : Nat) (account : Account) :
    Snapshot.stamped entity version (ofAccount count account) =
      ofAccount count (Snapshot.stamped entity version account) := by
  obtain ⟨_ | id, _, _, _, _⟩ := account <;> rfl

/-- A summary that goes with an account goes with it also after an accepted command. -/
theorem after_of_decision {current : Option Account} {payload : Command}
    {outcome : Outcome Account Event} (hd : Account.Decision current payload outcome) {event : Event}
    (he : outcome.events = [event]) {summary : Option AccountSummary} {count : Nat}
    (hs : ∀ account, current = some account → summary = some (ofAccount count account))
    (hc : current = none → count = 0) (entity : Int64) :
    after entity summary event =
      .ok (ofAccount (count + payload.transactions) outcome.snapshot) := by
  cases hd with
  | opened hn =>
      cases he
      rw [hc hn]
      simp only [after, ofCreated, ofAccount, Command.transactions, Nat.zero_add]
      split <;> rfl
  | paidIn ha | paidOut ha =>
      cases he
      rw [hs _ ha]
      simp only [ofAccount, Command.transactions, UInt32.ofNat_add]
      rfl
  | closed ha =>
      cases he
      rw [hs _ ha]
      rfl

theorem id?_stamped_of_after {current : Option Account} {payload : Command}
    {outcome : Outcome Account Event} (hd : Account.Decision current payload outcome) {event : Event}
    (he : outcome.events = [event]) {entity : Int64} {summary : Option AccountSummary}
    (hs : ∀ account, current = some account → ∀ s, summary = some s → s.id = some entity)
    {model : AccountSummary} (ha : after entity summary event = .ok model) (version : Int64) :
    Snapshot.id? (Snapshot.stamped entity version model) = some entity := by
  rw [Snapshot.id?_stamped]
  cases hd with
  | opened =>
      cases he
      cases ha
      rfl
  | paidIn hc | paidOut hc | closed hc =>
      cases he
      cases summary with
      | none => cases ha
      | some stored =>
          cases ha
          have hid : stored.id = some entity := hs _ hc stored rfl
          simp only [Snapshot.id?, afterTransaction, afterClosing, hid, Option.getD_some]

end AccountSummary

/-! ## Folios -/

/-- What the books hold of an entity. -/
structure Folio where
  account : Option Account := none
  summary : Option AccountSummary := none
  deriving DecidableEq

namespace Folio

def absorb (folio : Folio) (command : Envelope Command) : Except DomainError Folio := do
  let outcome ← Account.rule folio.account command
  let summary ← outcome.events.foldlM (fun summary event => do
    let model ← AccountSummary.after command.entity.id summary event
    return some (Snapshot.stamped command.entity.id command.sequenceNo model)) folio.summary
  return ⟨some (Snapshot.stamped command.entity.id command.sequenceNo outcome.snapshot), summary⟩

/-- The folio after a command; one that is reflected changes nothing. -/
def accept (folio : Folio) (command : Envelope Command) : Except DomainError Folio :=
  if Saga.reflects folio.account command then .ok folio else folio.absorb command

theorem absorb_of_rule {folio : Folio} {command : Envelope Command}
    {outcome : Outcome Account Event} {event : Event}
    (hd : Account.rule folio.account command = .ok outcome) (he : outcome.events = [event]) :
    folio.absorb command =
      (AccountSummary.after command.entity.id folio.summary event).map fun model =>
        ⟨some (Snapshot.stamped command.entity.id command.sequenceNo outcome.snapshot),
          some (Snapshot.stamped command.entity.id command.sequenceNo model)⟩ := by
  simp only [absorb, hd, he, bind, Except.bind, List.foldlM_cons, List.foldlM_nil]
  cases AccountSummary.after command.entity.id folio.summary event <;> rfl

theorem accept_of_reflects (folio : Folio) {command : Envelope Command}
    (h : Saga.reflects folio.account command = true) : folio.accept command = .ok folio := if_pos h

theorem accept_eq_absorb (folio : Folio) {command : Envelope Command}
    (h : Saga.reflects folio.account command = false) :
    folio.accept command = folio.absorb command :=
  if_neg (Bool.not_eq_true _ ▸ h)

theorem accept_of_refused (folio : Folio) {command : Envelope Command} {refusal : DomainError}
    (h : Saga.reflects folio.account command = false)
    (hd : Account.rule folio.account command = .error refusal) :
    folio.accept command = .error refusal := by
  rw [accept_eq_absorb folio h, absorb, hd]
  rfl

theorem accept_of_unprojected (folio : Folio) {command : Envelope Command}
    {outcome : Outcome Account Event} {event : Event} {failure : DomainError}
    (h : Saga.reflects folio.account command = false)
    (hd : Account.rule folio.account command = .ok outcome) (he : outcome.events = [event])
    (ha : AccountSummary.after command.entity.id folio.summary event = .error failure) :
    folio.accept command = .error failure := by
  rw [accept_eq_absorb folio h, absorb_of_rule hd he, ha]
  rfl

theorem accept_of_projected (folio : Folio) {command : Envelope Command}
    {outcome : Outcome Account Event} {event : Event} {model : AccountSummary}
    (h : Saga.reflects folio.account command = false)
    (hd : Account.rule folio.account command = .ok outcome) (he : outcome.events = [event])
    (ha : AccountSummary.after command.entity.id folio.summary event = .ok model) :
    folio.accept command =
      .ok ⟨some (Snapshot.stamped command.entity.id command.sequenceNo outcome.snapshot),
        some (Snapshot.stamped command.entity.id command.sequenceNo model)⟩ := by
  rw [accept_eq_absorb folio h, absorb_of_rule hd he, ha]
  rfl

/-- What a folio holds is stored under the id of its entity. -/
def BelongsTo (folio : Folio) (entity : Int64) : Prop :=
  ∀ account, folio.account = some account → account.id = some entity ∧
    ∀ summary, folio.summary = some summary → summary.id = some entity

theorem BelongsTo.accept {folio folio' : Folio} {command : Envelope Command}
    (h : folio.BelongsTo command.entity.id) (ha : folio.accept command = .ok folio') :
    folio'.BelongsTo command.entity.id := by
  cases hr : Saga.reflects folio.account command with
  | true =>
      rw [accept_of_reflects folio hr] at ha
      cases ha
      exact h
  | false =>
      rw [accept_eq_absorb folio hr] at ha
      obtain ⟨outcome, hd, -⟩ := ok_of_bind ha
      have hdecision := Account.decision_of_rule hd
      obtain ⟨event, he⟩ := hdecision.events
      rw [absorb_of_rule hd he] at ha
      cases hm : AccountSummary.after command.entity.id folio.summary event with
      | error failure =>
          rw [hm] at ha
          cases ha
      | ok model =>
          rw [hm] at ha
          cases ha
          intro account hacc
          cases hacc
          refine ⟨Account.id?_stamped_of_rule (fun account hc => (h account hc).1) hd _,
            fun summary hs => ?_⟩
          cases hs
          exact AccountSummary.id?_stamped_of_after hdecision he
            (fun account hc => (h account hc).2) hm _

/-! ## Folios that follow their records -/

/-- The account is up to date with a history, and the summary goes with the account. -/
structure Follows (folio : Folio) (entity : Int64) (history : List StoredCommand) : Prop where
  account : Account.UpToDate entity history folio.account
  summary : ∀ account, folio.account = some account →
    folio.summary = some (AccountSummary.ofAccount (Account.transactions history) account)

variable {folio folio' : Folio} {entity : Int64} {history : List StoredCommand}

theorem follows_nil (entity : Int64) (summary : Option AccountSummary) :
    Follows ⟨none, summary⟩ entity [] := ⟨Account.upToDate_nil entity, nofun⟩

theorem Follows.belongsTo (h : folio.Follows entity history) : folio.BelongsTo entity := by
  intro account ha
  have hid := (h.account.id ha).1
  refine ⟨hid, fun summary hs => ?_⟩
  rw [h.summary account ha] at hs
  cases hs
  exact hid

theorem Follows.account_eq_none_iff (h : folio.Follows entity history) :
    folio.account = none ↔ history = [] := by
  rw [← Option.not_isSome_iff_eq_none, h.account.isSome_iff, not_not]

/-- The records leave nothing open once there is one. -/
theorem Follows.unique (h : folio.Follows entity history) (h' : folio'.Follows entity history)
    (hn : history ≠ []) : folio = folio' := by
  obtain ⟨account, ha, hf⟩ := h.account
  obtain ⟨account', ha', hf'⟩ := h'.account
  cases ha.symm.trans ha'
  cases account with
  | none => exact absurd (h.account_eq_none_iff.1 hf) hn
  | some account =>
      have hs := h.summary _ hf
      rw [← h'.summary _ hf'] at hs
      cases folio
      cases folio'
      simp_all

theorem Follows.absorb_of_rule (h : folio.Follows entity history) {command : Envelope Command}
    {outcome : Outcome Account Event} (hd : Account.rule folio.account command = .ok outcome) :
    folio.absorb command =
      .ok ⟨some (Snapshot.stamped command.entity.id command.sequenceNo outcome.snapshot),
        some (AccountSummary.ofAccount
          (Account.transactions history + command.payload.transactions)
          (Snapshot.stamped command.entity.id command.sequenceNo outcome.snapshot))⟩ := by
  have hdecision := Account.decision_of_rule hd
  obtain ⟨event, he⟩ := hdecision.events
  have hc : folio.account = none → Account.transactions history = 0 := fun hn => by
    rw [h.account_eq_none_iff.1 hn]
    rfl
  rw [Folio.absorb_of_rule hd he,
    AccountSummary.after_of_decision hdecision he h.summary hc command.entity.id]
  simp only [Except.map, AccountSummary.stamped_ofAccount]

theorem Follows.concat {command : Envelope Command} (h : folio.Follows command.entity.id history)
    (ha : folio.absorb command = .ok folio') {record : StoredCommand}
    (hr : Account.RecordOf record command) :
    folio'.Follows command.entity.id (history ++ [record]) := by
  obtain ⟨outcome, hd, -⟩ := ok_of_bind ha
  rw [h.absorb_of_rule hd] at ha
  cases ha
  refine ⟨h.account.concat hd hr, fun account hacc => ?_⟩
  cases hacc
  rw [Account.transactions_concat hr]
  intro created hp
  have hdecision := Account.decision_of_rule hd
  rw [hp] at hdecision
  cases hdecision with
  | opened hn => exact h.account_eq_none_iff.1 hn

end Folio

end EventSourcing
