import EventSourcing.Account.Books
import EventSourcing.Proofs.Account.CatchingUp
import EventSourcing.Proofs.Account.Ledger

/-!
# What the service writes into its books

A command that the bus of the service hands out changes the folio of its entity as the folio alone
would be changed, and nothing else.
-/

namespace EventSourcing

open EventSourcing.Sequential
open Account (Command Event)

/-! ## Valid references -/

/-- Whether its entity is new or not plays no part for a reference to be valid. -/
theorem EntityReference.validate_existing_iff {reference : EntityReference} :
    (existing reference.id).validate = .ok () ↔ reference.validate = .ok () := by
  rw [validate_eq_ok_iff, validate_eq_ok_iff]
  rfl

theorem Envelope.validate_entity {P : Type} [PayloadKind P] {envelope : Envelope P}
    (h : envelope.validate = .ok ()) : envelope.entity.validate = .ok () := by
  unfold validate at h
  split at h
  · cases h
  · exact h

namespace Books

def folio (books : Books) (entity : Int64) : Folio :=
  ⟨books.accounts.find entity, books.summaries.find entity⟩

/-! ## The service over the books -/

def commandsPart : Cell Books CommandLog := (Cell.whole Books).within commandsCell

def accountsPart : Cell Books (SnapshotTable Account) := (Cell.whole Books).within accountsCell

def summariesPart : Cell Books (SnapshotTable AccountSummary) :=
  (Cell.whole Books).within summariesCell

/-- The service at a time, while nothing else goes on. -/
def serviceAt (now : Instant) : AccountService (Sequential Books) :=
  service (Cell.whole Books) (Gate.opened (Sequential Books)) now

def view : View (Sequential Books) Event AccountSummary :=
  AccountSummary.view (SnapshotTable.store summariesPart)

def saga : Saga (Sequential Books) Command Event Account :=
  Account.saga (SnapshotTable.store accountsPart) (.ofSubscribers [view.subscriber])

theorem saga_over : saga.Over Account.rule accountsPart := ⟨rfl, rfl⟩

/-- The books are a ledger in which the summaries are the one view. -/
def ledger : Ledger Books where
  log := commandsPart
  accounts := accountsPart
  log_apart _ _ := rfl
  accounts_apart _ _ := rfl
  decoders := Account.commandDecoders
  knows := Account.knows_commandDecoders
  views _ := [view.subscriber]
  views_keep _ subscriber hs := by
    rw [List.mem_singleton.1 hs]
    exact View.subscriber_keeps rfl fun _ _ => rfl
  others _ := []
  others_accept _ _ hs := by cases hs
  others_keep _ _ hs := by cases hs

theorem bus_ledger (now : Instant) : ledger.bus now = (serviceAt now).bus := rfl

theorem bus_over (now : Instant) : (serviceAt now).bus.Over commandsPart :=
  bus_ledger now ▸ ledger.bus_over now

/-! ## Handing on an event -/

/-- What an event that is handed on leaves behind: the next summary, or nothing. -/
theorem projection {event : Envelope Event} {books books' : Books}
    {result : Except DomainError Unit} (h : view.Handling summariesPart event books result books') :
    (∃ failure, AccountSummary.after event.entity.id (books.summaries.find event.entity.id)
        event.payload = .error failure ∧ result = .error failure ∧ books' = books) ∨
      ∃ model table', AccountSummary.after event.entity.id
          (books.summaries.find event.entity.id) event.payload = .ok model ∧
        result = .ok () ∧
        books.summaries.persist (Snapshot.stamped event.entity.id event.sequenceNo model) =
          (Snapshot.stamped event.entity.id event.sequenceNo model, table') ∧
        books' = { books with summaries := table' } := by
  obtain ⟨transform, hn, ha⟩ :=
    AccountSummary.exists_transform
      (SnapshotTable.store summariesPart : SnapshotStore (Sequential Books) AccountSummary) event
  cases h with
  | ignored ht =>
      cases hn.symm.trans ht
  | failed ht hf =>
      cases hn.symm.trans ht
      rw [ha] at hf
      exact .inl ⟨_, hf, rfl, rfl⟩
  | updated ht hf hp =>
      cases hn.symm.trans ht
      rw [ha] at hf
      exact .inr ⟨_, _, hf, rfl, hp, rfl⟩

theorem handling_of_publishAll {event : Envelope Event} (hv : event.validate = .ok ())
    {books books' : Books} {result : Except DomainError Unit}
    (h : Yields (saga.events.publishAll [event]) books result books') :
    view.Handling summariesPart event books result books' := by
  have hpublish : ∀ {r b}, Yields (saga.events.publish event) books r b →
      view.Handling summariesPart event books r b := by
    intro r b hy
    rcases EventQueue.Yields.of_publish hy with ⟨_, hf, -⟩ | ⟨-, hd⟩
    · cases hf.symm.trans hv
    · exact View.handling rfl (Dispatcher.Yields.of_dispatch_singleton hd)
  rcases h.of_bind with ⟨failure, rfl, hp⟩ | ⟨⟨⟩, between, hp, hend⟩
  · exact hpublish hp
  · obtain ⟨rfl, rfl⟩ := yields_pure.1 hend
    exact hpublish hp

theorem isBlankText_typeName (event : Event) : Text.isBlankText (typeName event) = false := by
  cases event with
  | created => exact (by decide : Text.isBlankText "account.created" = false)
  | deposited => exact (by decide : Text.isBlankText "account.deposited" = false)
  | withdrawn => exact (by decide : Text.isBlankText "account.withdrawn" = false)
  | closed => exact (by decide : Text.isBlankText "account.closed" = false)

theorem validate_deriveEvent {command : Envelope Command} (h : command.entity.validate = .ok ())
    (payload : Event) (id : Uuid) : (command.deriveEvent payload id).validate = .ok () := by
  simp only [Envelope.validate, Envelope.deriveEvent, isBlankText_typeName, Bool.false_eq_true,
    if_false]
  exact h

/-! ## Handing out a command -/

/-- What a command that is handed out leaves behind. -/
structure Delivered (command : Envelope Command) (books : Books) (result : Except DomainError Unit)
    (books' : Books) : Prop where
  commands : books'.commands = books.commands
  others : ∀ entity, entity ≠ command.entity.id → books'.folio entity = books.folio entity
  result : result = ((books.folio command.entity.id).accept command).map fun _ => ()
  own : books'.folio command.entity.id =
    (((books.folio command.entity.id).accept command).toOption).getD (books.folio command.entity.id)

variable {command : Envelope Command} {books books' : Books} {outcome : Outcome Account Event}
  {table' : SnapshotTable Account}

theorem Delivered.accept_of_error {failure : DomainError}
    (h : Delivered command books (.error failure) books') :
    (books.folio command.entity.id).accept command = .error failure := by
  have hres := h.result
  cases ha : (books.folio command.entity.id).accept command with
  | error refusal =>
      rw [ha] at hres
      cases hres
      rfl
  | ok folio =>
      rw [ha] at hres
      cases hres

theorem Delivered.accept_of_ok (h : Delivered command books (.ok ()) books') :
    (books.folio command.entity.id).accept command = .ok (books'.folio command.entity.id) := by
  have hres := h.result
  have hown := h.own
  cases ha : (books.folio command.entity.id).accept command with
  | error refusal =>
      rw [ha] at hres
      cases hres
  | ok folio =>
      rw [ha] at hown
      exact congrArg Except.ok hown.symm

theorem Delivered.same_of_error {failure : DomainError}
    (h : Delivered command books (.error failure) books') (entity : Int64) :
    books'.folio entity = books.folio entity := by
  by_cases he : entity = command.entity.id
  · subst he
    have hown := h.own
    rw [h.accept_of_error] at hown
    exact hown
  · exact h.others entity he

theorem projection_of_rule (hv : command.entity.validate = .ok ())
    (hd : Account.rule (books.accounts.find command.entity.id) command = .ok outcome)
    {events : List (Envelope Event)} (he : command.Derived outcome.events events)
    {result : Except DomainError Unit}
    (hy : Yields (saga.events.publishAll events) { books with accounts := table' } result books') :
    ∃ event, outcome.events = [event] ∧
      ((∃ failure, AccountSummary.after command.entity.id
            (books.summaries.find command.entity.id) event = .error failure ∧
          result = .error failure ∧ books' = { books with accounts := table' }) ∨
        ∃ model table'', AccountSummary.after command.entity.id
            (books.summaries.find command.entity.id) event = .ok model ∧
          result = .ok () ∧
          books.summaries.persist (Snapshot.stamped command.entity.id command.sequenceNo model) =
            (Snapshot.stamped command.entity.id command.sequenceNo model, table'') ∧
          books' = { books with accounts := table', summaries := table'' }) := by
  obtain ⟨event, hevent⟩ := (Account.decision_of_rule hd).events
  rw [hevent, Envelope.Derived, List.forall₂_cons_left_iff] at he
  obtain ⟨_, _, ⟨id, rfl⟩, hrest, rfl⟩ := he
  rw [List.forall₂_nil_left_iff] at hrest
  subst hrest
  exact ⟨event, hevent,
    projection (handling_of_publishAll (validate_deriveEvent hv event id) hy)⟩

/-- Handing out a command changes the folio of its entity only, as the folio alone is changed. -/
theorem delivered_of_handsOut {now : Instant} {result : Except DomainError Unit}
    (hv : command.entity.validate = .ok ())
    (hb : (books.folio command.entity.id).BelongsTo command.entity.id)
    (h : (serviceAt now).bus.HandsOut command books result books') :
    Delivered command books result books' := by
  cases Saga.handling saga_over (Dispatcher.Yields.of_dispatch_singleton h) with
  | ignored hh =>
      rw [saga, Account.saga_handles] at hh
      cases hh
  | skipped hr =>
      have ha := Folio.accept_of_reflects (books.folio command.entity.id) hr
      exact ⟨rfl, fun _ _ => rfl, by rw [ha]; rfl, by rw [ha]; rfl⟩
  | refused hr hd =>
      have ha := Folio.accept_of_refused (books.folio command.entity.id) hr hd
      exact ⟨rfl, fun _ _ => rfl, by rw [ha]; rfl, by rw [ha]; rfl⟩
  | @undone outcome table' events failure between hr hd hp he hy =>
      have hid := Account.id?_stamped_of_rule (fun account ha => (hb account ha).1) hd
        command.sequenceNo
      obtain ⟨event, hevent, ⟨_, ha, hres, hbetween⟩ | ⟨_, _, -, hres, -⟩⟩ :=
        projection_of_rule hv hd he hy
      · cases hres
        -- The view has stored nothing, so that putting back the account is all there is to undo.
        have hacc := Folio.accept_of_unprojected (books.folio command.entity.id) hr hd hevent ha
        obtain ⟨table'', hput, hfind⟩ := SnapshotTable.find_of_putBack hid hp
          fun previous hprev => (hb previous hprev).1
        rw [hbetween, Saga.restored_of_putBack hput]
        have hfolio : ∀ entity, folio { books with accounts := table'' } entity =
            books.folio entity :=
          fun entity => congrArg (Folio.mk · (books.summaries.find entity)) (hfind entity)
        refine ⟨rfl, fun entity _ => hfolio entity, by rw [hacc]; rfl, ?_⟩
        rw [hacc]
        exact hfolio command.entity.id
      · cases hres
  | @applied outcome table' events _ hh hr hd hp he hy =>
      have hid := Account.id?_stamped_of_rule (fun account ha => (hb account ha).1) hd
        command.sequenceNo
      obtain ⟨event, hevent, ⟨_, -, hres, -⟩ | ⟨model, table'', ha, -, hps, rfl⟩⟩ :=
        projection_of_rule hv hd he hy
      · cases hres
      · have hacc := Folio.accept_of_projected (books.folio command.entity.id) hr hd hevent ha
        have hids := AccountSummary.id?_stamped_of_after (Account.decision_of_rule hd) hevent
          (fun account hc => (hb account hc).2) ha command.sequenceNo
        refine ⟨rfl, fun entity hne => ?_, by rw [hacc]; rfl, ?_⟩
        · simp only [folio, SnapshotTable.find_of_persist hp, SnapshotTable.find_of_persist hps, hid,
            hids, Option.some.injEq, if_neg (Ne.symm hne)]
          rfl
        · rw [hacc]
          simp only [folio, SnapshotTable.find_of_persist hp, SnapshotTable.find_of_persist hps, hid,
            hids, if_true]
          rfl

theorem eq_of_handsOut_reflected {now : Instant} {result : Except DomainError Unit}
    (hr : Saga.reflects (books.accounts.find command.entity.id) command = true)
    (h : (serviceAt now).bus.HandsOut command books result books') : books' = books :=
  (Saga.handling saga_over (Dispatcher.Yields.of_dispatch_singleton h)).eq_of_reflects hr

/-! ## Handing out a history -/

theorem delivered_of_record {now : Instant} {entity : Int64} {record : StoredCommand}
    {result : Except DomainError Unit} (hv : (EntityReference.existing entity).validate = .ok ())
    (he : record.entityId = entity) (hb : (books.folio entity).BelongsTo entity)
    (hc : Account.commandDecoders.decodeStored record = .ok command)
    (hd : (serviceAt now).bus.HandsOut command books result books') :
    command.entity.id = entity ∧ Delivered command books result books' := by
  have hid : command.entity.id = entity := by
    rw [← he, (Account.recordOf_of_decodeStored hc).entityId]
  subst hid
  exact ⟨rfl, delivered_of_handsOut (EntityReference.validate_existing_iff.1 hv) hb hd⟩

/-- What a history that is handed out leaves behind, if nothing in it is refused. -/
theorem redelivered {now : Instant} {entity : Int64} {history : List StoredCommand}
    {result : Except DomainError Unit} {folio' : Folio}
    (hv : (EntityReference.existing entity).validate = .ok ())
    (hids : ∀ record ∈ history, record.entityId = entity)
    (hb : (books.folio entity).BelongsTo entity)
    (hw : (books.folio entity).walk history = .ok folio')
    (hr : CommandBus.Redelivery (serviceAt now).bus history books result books') :
    result = .ok () ∧ books'.commands = books.commands ∧
      (∀ other, other ≠ entity → books'.folio other = books.folio other) ∧
      books'.folio entity = folio' := by
  -- Along the walk the folio keeps belonging to the entity, as handing out a record needs.
  induction hr with
  | done =>
      cases hw
      exact ⟨rfl, rfl, fun _ _ => rfl, rfl⟩
  | unreadable _ hc =>
      obtain ⟨_, _, hdecoded, -⟩ := Folio.accept_of_walk_cons hw
      cases hc.symm.trans hdecoded
  | @refused _ _ command _ before _ hc hd =>
      obtain ⟨_, folio, hdecoded, ha, -⟩ := Folio.accept_of_walk_cons hw
      cases hc.symm.trans hdecoded
      obtain ⟨rfl, h⟩ := delivered_of_record hv (hids _ List.mem_cons_self) hb hc hd
      have hres := h.result
      rw [ha] at hres
      cases hres
  | @onward _ _ command _ before _ _ hc hd _ ih =>
      obtain ⟨_, folio, hdecoded, ha, hrest⟩ := Folio.accept_of_walk_cons hw
      cases hc.symm.trans hdecoded
      obtain ⟨rfl, h⟩ := delivered_of_record hv (hids _ List.mem_cons_self) hb hc hd
      have hown := h.own
      rw [ha] at hown
      change _ = folio at hown
      have hnext := hb.accept ha
      rw [← hown] at hrest hnext
      obtain ⟨hok, hcommands, hothers, hfolio⟩ :=
        ih (fun _ hm => hids _ (List.mem_cons_of_mem _ hm)) hnext hrest
      exact ⟨hok, hcommands.trans h.commands,
        fun other hne => (hothers other hne).trans (h.others other hne), hfolio⟩

end Books

end EventSourcing
