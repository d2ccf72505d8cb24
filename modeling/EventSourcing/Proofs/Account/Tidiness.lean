import EventSourcing.Proofs.Account.Agreement
import EventSourcing.Proofs.Tables

/-!
# Tables from which nothing is taken

As long as the accounts and the summaries tell the same story, the event of a command that is
accepted gets through to the summary, so that no account is taken back and both tables stay tidy.
-/

namespace EventSourcing

open EventSourcing.Sequential
open Account (Command Event)

theorem Folio.Follows.exists_after {folio : Folio} {entity : Int64} {history : List StoredCommand}
    (h : folio.Follows entity history) {command : Envelope Command}
    {outcome : Outcome Account Event} (hd : Account.rule folio.account command = .ok outcome)
    {event : Event} (he : outcome.events = [event]) :
    ∃ model, AccountSummary.after command.entity.id folio.summary event = .ok model := by
  have habsorb := h.absorb_of_rule hd
  rw [Folio.absorb_of_rule hd he] at habsorb
  cases ha : AccountSummary.after command.entity.id folio.summary event with
  | error failure =>
      rw [ha] at habsorb
      cases habsorb
  | ok model => exact ⟨model, rfl⟩

namespace Books

structure Tidy (books : Books) : Prop where
  accounts : books.accounts.Tidy
  summaries : books.summaries.Tidy

theorem tidy_empty : Tidy {} := ⟨SnapshotTable.tidy_empty, SnapshotTable.tidy_empty⟩

variable {books books' : Books} {now : Instant}

theorem Tidy.of_handsOut (h : books.Tidy) {command : Envelope Command}
    (hv : command.entity.validate = .ok ()) {history : List StoredCommand}
    (hf : (books.folio command.entity.id).Follows command.entity.id history)
    {result : Except DomainError Unit}
    (hd : (serviceAt now).bus.HandsOut command books result books') : books'.Tidy := by
  have hb := hf.belongsTo
  cases Saga.handling saga_over (Dispatcher.Yields.of_dispatch_singleton hd) with
  | ignored | skipped | refused => exact h
  | undone hr hrule hp he hy =>
      -- The account would be taken back if the summary refused the event, which it does not.
      obtain ⟨event, hevent, ⟨_, ha, -⟩ | ⟨_, _, -, hres, -⟩⟩ := projection_of_rule hv hrule he hy
      · obtain ⟨model, hm⟩ := hf.exists_after hrule hevent
        cases ha.symm.trans hm
      · cases hres
  | applied _ hr hrule hp he hy =>
      obtain ⟨event, hevent, ⟨_, -, hres, -⟩ | ⟨model, table'', ha, -, hps, rfl⟩⟩ :=
        projection_of_rule hv hrule he hy
      · cases hres
      · have hid := Account.id?_stamped_of_rule (fun account ha => (hb account ha).1) hrule
          command.sequenceNo
        have hids := AccountSummary.id?_stamped_of_after (Account.decision_of_rule hrule) hevent
          (fun account hc => (hb account hc).2) ha command.sequenceNo
        exact ⟨h.accounts.persist hid hp, h.summaries.persist hids hps⟩

theorem Tidy.publication (h : books.Tidy) (hk : books.Kept) {command : Envelope Command}
    {result : Except DomainError (Envelope Command)}
    (hp : CommandBus.Publication (serviceAt now).bus commandsPart command books result books') :
    books'.Tidy := by
  have hf := (hk.settled command.entity.id).follows
  cases hp with
  | malformed | exhausted => exact h
  | refusedReplay hv _ hd | passedOn hv _ hd =>
      exact h.of_handsOut (Envelope.validate_entity hv) hf hd
  | @refused n _ _ hv _ _ hd =>
      have hve : (command.atSequenceNo n).entity.validate = .ok () := Envelope.validate_entity hv
      exact h.of_handsOut hve hf hd
  | unwritten _ _ _ _ hw => cases hw
  | @recorded n _ _ _ hv _ _ hd _ ha =>
      have hve : (command.atSequenceNo n).entity.validate = .ok () := Envelope.validate_entity hv
      obtain ⟨haccounts, hsummaries⟩ := h.of_handsOut hve hf hd
      exact ⟨haccounts, hsummaries⟩

theorem Tidy.serve {s : Session Books} (h : s.state.Tidy) (hk : s.state.Kept) (request : Request) :
    (serve s request).state.Tidy := by
  rcases performed (yields_exec ((serviceAt request.now).perform request.operation) s) with
    ⟨_, _, -, -, -, hp⟩ | ⟨_, -, -, hr⟩
  · exact h.publication hk hp
  · exact hk.eq_of_replaying hr ▸ h

theorem Tidy.foldl {s : Session Books} (h : s.state.Tidy) (hk : s.state.Kept)
    (requests : List Request) : (requests.foldl Books.serve s).state.Tidy := by
  induction requests generalizing s with
  | nil => exact h
  | cons request requests ih => exact ih (h.serve hk request) (hk.serve request)

theorem tidy_reached (start : Session Books) (requests : List Request) :
    (reached start requests).state.Tidy := Tidy.foldl tidy_empty kept_empty requests

end Books

end EventSourcing
