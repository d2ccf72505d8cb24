import EventSourcing.Proofs.Account.Page
import EventSourcing.Proofs.Account.Tidiness
import EventSourcing.Proofs.Calls

/-!
# The service at work on a page

What the service does for one entity while others work on other entities. Alone on the page of its
entity, a publication or a replay comes to what it comes to when nothing else goes on.
-/

namespace EventSourcing

open Account (Command Event)

namespace Books

/-! ## Books that are shared -/

/-- Books with the table of the locks of their entities. -/
abbrev Shared : Type := Books × LockTable

def sharedPlace : Workplace Shared Page where
  locks := Cell.second
  page s := s.1.page
  Sound s := s.1.Tidy
  page_locks _ _ := rfl
  sound_locks _ _ := id

/-- The service at a time, with one request at a time for each entity. -/
def sharedAt (now : Instant) : AccountService (Interleaved Shared) :=
  service Cell.first (Gate.locked Cell.second) now

def sharedCommands : Cell Shared CommandLog := Cell.first.within commandsCell

def sharedAccounts : Cell Shared (SnapshotTable Account) := Cell.first.within accountsCell

def sharedSummaries : Cell Shared (SnapshotTable AccountSummary) := Cell.first.within summariesCell

def sharedView : View (Interleaved Shared) Event AccountSummary :=
  AccountSummary.view (SnapshotTable.store sharedSummaries)

def sharedSaga : Saga (Interleaved Shared) Command Event Account :=
  Account.saga (SnapshotTable.store sharedAccounts) (.ofSubscribers [sharedView.subscriber])

/-! ## The stores -/

open Workplace (Works)

def accountsShelf : sharedPlace.Shelf Account where
  table := sharedAccounts
  entry page := page.folio.account
  put account page := { page with folio.account := account }
  entry_page _ _ := rfl
  locks_set _ _ := rfl
  page_set _ _ _ := rfl
  sound_set _ _ ht h := ⟨ht h.accounts, h.summaries⟩
  put_entry _ := rfl

def summariesShelf : sharedPlace.Shelf AccountSummary where
  table := sharedSummaries
  entry page := page.folio.summary
  put summary page := { page with folio.summary := summary }
  entry_page _ _ := rfl
  locks_set _ _ := rfl
  page_set _ _ _ := rfl
  sound_set _ _ ht h := ⟨h.accounts, ht h.summaries⟩
  put_entry _ := rfl

variable {entity : Int64} {page : Page}

theorem works_nextSequenceNo {ends : Except DomainError Int64 → Page → Prop}
    (hnone : Word.succ? (CommandLog.lastOf page.records) = none →
      ends (.error (.store (exhaustedText entity))) page)
    (hsome : ∀ n, Word.succ? (CommandLog.lastOf page.records) = some n → ends (.ok n) page) :
    sharedPlace.Works entity ((CommandLog.store sharedCommands).nextSequenceNo entity).run page
      ends := by
  refine .andThen <| .sure <| .look fun s hs => ?_
  have hnext : (sharedCommands.get s).nextSequenceNo? entity =
      Word.succ? (CommandLog.lastOf page.records) := by
    rw [← hs]
    exact congrArg Word.succ? (CommandLog.lastOf_anonymous _).symm
  simp only [hnext]
  cases hn : Word.succ? (CommandLog.lastOf page.records) with
  | none => exact hnone hn
  | some n => exact hsome n hn

theorem works_load {ends : Except DomainError (List StoredCommand) → Page → Prop}
    (h : ∀ history, history.map StoredCommand.anonymous = page.records → ends (.ok history) page) :
    sharedPlace.Works entity ((CommandLog.store sharedCommands).load entity).run page ends :=
  .sure <| .look fun _ hs => h _ (hs ▸ rfl)

theorem works_append (command : Envelope Command) (now : Instant)
    (hn : Word.succ? (CommandLog.lastOf page.records) = some command.sequenceNo)
    {ends : Except DomainError Unit → Page → Prop}
    (h : ends (.ok ())
      { page with records := page.records ++ [Account.entry command.anonymous now] }) :
    sharedPlace.Works command.entity.id
      ((CommandLog.store sharedCommands).append (Account.entry command now)).run page ends := by
  refine .andThen <| .sure <| .attempt fun s hs => ?_
  subst hs
  have hnext : s.1.commands.nextSequenceNo? command.entity.id = some command.sequenceNo := by
    rw [← hn]
    exact congrArg Word.succ? (CommandLog.lastOf_anonymous _).symm
  obtain ⟨log', ha⟩ := CommandLog.append_of_next (Account.entry command now) hnext
  have hload := Account.load_of_append_entry ha
  refine ⟨(), log', ?_, ⟨rfl, fun other hne => page_of_folio ?_ rfl,
    fun h => ⟨h.accounts, h.summaries⟩⟩, ?_⟩
  · change (s.1.commands.append (Account.entry command now)).map _ = _
    rw [ha]
    rfl
  · exact (hload other).trans (if_neg hne)
  · refine .andThen <| .settle <| .note ?_
    have hpage : sharedPlace.page (sharedCommands.set log' s) command.entity.id =
        { s.1.page command.entity.id with
          records := (s.1.page command.entity.id).records ++
            [Account.entry command.anonymous now] } := by
      change Page.mk ((log'.load command.entity.id).map _) _ = Page.mk (_ ++ [_]) _
      rw [hload, if_pos rfl, List.map_append]
      rfl
    rw [hpage]
    exact h

/-! ## Handing on an event -/

variable {command : Envelope Command} {outcome : Outcome Account Event}
  {history : List StoredCommand} {ends : Except DomainError Unit → Page → Prop} {now : Instant}

theorem works_project (event : Envelope Event) {model : AccountSummary}
    (hm : AccountSummary.after event.entity.id page.folio.summary event.payload = .ok model)
    (hid : Snapshot.id? (Snapshot.stamped event.entity.id event.sequenceNo model) =
      some event.entity.id)
    (h : ends (.ok ()) { page with
      folio.summary := some (Snapshot.stamped event.entity.id event.sequenceNo model) }) :
    sharedPlace.Works event.entity.id (sharedView.handle event).run page ends := by
  obtain ⟨transform, hn, ha⟩ := AccountSummary.exists_transform
    (SnapshotTable.store sharedSummaries : SnapshotStore (Interleaved Shared) AccountSummary) event
  have hview : sharedView.transforms[event.payloadType]? = some transform := hn
  unfold View.handle
  rw [hview]
  refine .andThen <| .find summariesShelf <| .andThen <| .settle ?_
  have hstored : AccountSummary.after event.entity.id (summariesShelf.entry page) event.payload =
      .ok model := hm
  rw [ha, hstored]
  exact .andThen <| .persist summariesShelf hid <| .note h

theorem works_publishAll {event : Envelope Event} (hv : event.validate = .ok ())
    (h : sharedPlace.Works event.entity.id (sharedView.handle event).run page ends) :
    sharedPlace.Works event.entity.id (sharedSaga.events.publishAll [event]).run page ends := by
  have hpublish :
      sharedPlace.Works event.entity.id (sharedSaga.events.publish event).run page ends := by
    refine .andThen <| .settle ?_
    rw [hv]
    exact .andThen <| .note <| .dispatch h
  refine .andThen <| hpublish.mono fun result page' hends => ?_
  cases result with
  | ok => exact hends
  | error failure => exact hends

/-! ## Handing out a command -/

theorem works_deriveEvents {event : Event} {ends : List (Envelope Event) → Page → Prop}
    (h : ∀ id, ends [command.deriveEvent event id] page) :
    sharedPlace.Works entity (command.deriveEvents [event]) page ends :=
  .bind <| .bind <| .freshId h

theorem works_apply (hv : command.entity.validate = .ok ())
    (hf : page.folio.Follows command.entity.id history)
    (hr : Saga.reflects page.folio.account command = false)
    (hd : Account.rule page.folio.account command = .ok outcome) {folio : Folio}
    (ha : page.folio.accept command = .ok folio) (h : ends (.ok ()) { page with folio }) :
    sharedPlace.Works command.entity.id
      (sharedSaga.apply page.folio.account command outcome).run page ends := by
  have hb := hf.belongsTo
  have hid := Account.id?_stamped_of_rule (fun account ha => (hb account ha).1) hd
    command.sequenceNo
  have hdecision := Account.decision_of_rule hd
  obtain ⟨event, he⟩ := hdecision.events
  obtain ⟨model, hm⟩ := hf.exists_after hd he
  have hids := AccountSummary.id?_stamped_of_after hdecision he
    (fun account hc => (hb account hc).2) hm command.sequenceNo
  cases (Folio.accept_of_projected page.folio hr hd he hm).symm.trans ha
  refine .andThen <| .persist accountsShelf hid ?_
  rw [he]
  refine .andThen <| .sure <| works_deriveEvents fun eventId => .andThen <| .tried ?_
  exact works_publishAll (validate_deriveEvent hv event eventId) <|
    works_project (command.deriveEvent event eventId) hm hids <| .note h

/-- Handed a command, the saga changes the folio of its entity as the folio alone is changed. -/
theorem works_handle (hv : command.entity.validate = .ok ())
    (hf : page.folio.Follows command.entity.id history)
    (h : ends ((page.folio.accept command).map fun _ => ())
      { page with folio := (page.folio.accept command).toOption.getD page.folio }) :
    sharedPlace.Works command.entity.id (sharedSaga.handle command).run page ends := by
  have hhandles : sharedSaga.handles command.payloadType = true := Account.saga_handles _ _ command
  unfold Saga.handle
  rw [if_pos hhandles]
  refine .andThen <| .find accountsShelf ?_
  change sharedPlace.Works _ (ExceptT.run (if Saga.reflects page.folio.account command = true then _
    else _)) _ _
  cases hr : Saga.reflects page.folio.account command with
  | true =>
      rw [Folio.accept_of_reflects page.folio hr] at h
      exact .note h
  | false =>
      change sharedPlace.Works _ (ExceptT.run (do
        let decision ← Host.sure (pure (Account.rule page.folio.account command))
        _)) _ _
      refine .andThen <| .sure ?_
      cases hd : Account.rule page.folio.account command with
      | error refusal =>
          rw [Folio.accept_of_refused page.folio hr hd] at h
          exact .andThen <| .note h
      | ok outcome =>
          have ha := (Folio.accept_eq_absorb page.folio hr).trans (hf.absorb_of_rule hd)
          rw [ha] at h
          exact works_apply hv hf hr hd ha h

theorem works_dispatch (hv : command.entity.validate = .ok ())
    (hf : page.folio.Follows command.entity.id history)
    (h : ends ((page.folio.accept command).map fun _ => ())
      { page with folio := (page.folio.accept command).toOption.getD page.folio }) :
    sharedPlace.Works command.entity.id
      ((sharedAt now).bus.dispatcher.dispatch command).run page ends :=
  .dispatch (works_handle hv hf h)

theorem works_submit (command : Envelope Command) (hv : command.entity.validate = .ok ())
    (hf : page.folio.Follows command.entity.id history)
    (h : ends ((page.folio.accept command).map fun _ => ())
      { page with folio := (page.folio.accept command).toOption.getD page.folio }) :
    sharedPlace.Works command.entity.id ((sharedAt now).bus.submit command).run page ends := by
  refine .andThen <| .tried <| works_dispatch hv hf ?_
  cases ha : page.folio.accept command with
  | error failure =>
      rw [ha] at h
      exact .andThen <| .note h
  | ok folio =>
      rw [ha] at h
      exact h

/-! ## Publishing -/

/-- Alone on the page of its entity, a live command is published as it is on the page. -/
theorem works_publishAlone (hv : command.entity.validate = .ok ()) (live : command.isReplay = false)
    (hp : page.Fits command.entity.id) {ends : Except DomainError (Envelope Command) → Page → Prop}
    (h : ∀ result, result.map Envelope.anonymous = (page.publish now command.anonymous).1 →
      ends result (page.publish now command.anonymous).2) :
    sharedPlace.Works command.entity.id ((sharedAt now).bus.publishAlone command).run page
      ends := by
  have hlive : ¬command.isReplay = true := by simp [live]
  have hrecord (n : Int64) : (sharedAt now).bus.record (command.atSequenceNo n) =
      Host.settle (StoredCommand.ofCommand (command.atSequenceNo n) now) >>=
        (CommandLog.store sharedCommands).append :=
    if_neg hlive
  unfold CommandBus.publishAlone CommandBus.numbered
  rw [if_neg hlive]
  refine .andThen <| .andThen <| works_nextSequenceNo (fun hn => ?_) fun n hn => ?_
  · rw [Page.publish_of_exhausted _ hn] at h
    exact h _ rfl
  refine .andThen <| .note <| .andThen <|
    works_submit (command.atSequenceNo n) hv hp.settled.follows ?_
  cases ha : page.folio.accept (command.atSequenceNo n) with
  | error failure =>
      rw [Page.publish_of_refused command.anonymous hn ha] at h
      exact h _ rfl
  | ok folio =>
      rw [Page.publish_of_accepted command.anonymous hn ha] at h
      refine .andThen ?_
      rw [hrecord, Account.ofCommand_eq]
      refine .andThen <| .settle <|
        works_append (command.atSequenceNo n) now ?_ <| .andThen <| .note <| h _ rfl
      exact hn

/-! ## Replaying -/

/-- Handing out again what the account reflects already changes nothing. -/
theorem works_redeliver {past : List StoredCommand}
    (hv : (EntityReference.existing entity).validate = .ok ())
    (hg : CommandLog.Gapless entity past) (hf : page.folio.Follows entity past)
    (hs : history ⊆ past) (h : ends (.ok ()) page) :
    sharedPlace.Works entity ((sharedAt now).bus.redeliver history).run page ends := by
  induction history with
  | nil => exact h
  | cons record history ih =>
      have hm := hs List.mem_cons_self
      obtain ⟨account, ha, -⟩ := hf.account
      obtain ⟨command, hc⟩ := Account.exists_of_ofHistory ha hm
      obtain ⟨rfl, hr⟩ := hf.account.reflects_of_decodeStored hg hm hc
      have hve := EntityReference.validate_existing_iff.1 hv
      have hdecode : (sharedAt now).bus.decoders.decodeStored record = .ok command := hc
      refine .andThen <| .settle ?_
      rw [hdecode]
      refine .andThen <| .note <| .andThen <| .tried <| works_dispatch hve hf ?_
      rw [Folio.accept_of_reflects page.folio hr]
      exact ih fun _ hx => hs (List.mem_cons_of_mem _ hx)

/-- Alone on the page of its entity, a replay finds all reflected already. -/
theorem works_replayAlone (hv : (EntityReference.existing entity).validate = .ok ())
    (hp : page.Fits entity) {ends : Except DomainError Nat → Page → Prop}
    (h : ends (.ok page.records.length) page) :
    sharedPlace.Works entity ((sharedAt now).bus.replayAlone entity).run page ends := by
  refine .andThen <| works_load fun history hh => ?_
  have hl : page.records.length = history.length := by
    rw [← hh, List.length_map]
  have hg : CommandLog.Gapless entity history :=
    CommandLog.gapless_anonymous_iff.1 (hh ▸ hp.ordered)
  have hf : page.folio.Follows entity history :=
    Folio.follows_anonymous_iff.1 (hh ▸ hp.settled.follows)
  rw [hl] at h
  cases history with
  | nil => exact .andThen <| .note h
  | cons record history =>
      simp only [List.isEmpty_cons, Bool.false_eq_true, if_false, hg.checkHistory]
      exact .andThen <| works_redeliver hv hg hf (List.Subset.refl _) <| .andThen <| .note <|
        .andThen <| .note h

end Books

end EventSourcing
