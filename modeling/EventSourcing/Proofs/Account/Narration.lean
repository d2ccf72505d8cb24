import EventSourcing.Proofs.Account.Archive
import EventSourcing.Proofs.Drawing

/-!
# What the events tell

Every record of an account is told of by one event, and a replay onto emptied accounts tells it all
once more. Both times the events say what the records say, and what the balance was after them.
-/

namespace EventSourcing

open EventSourcing.Sequential
open Account (Command Event)

namespace Account

/-! ## The event of a record -/

/-- The event that tells of a command, after which the balance is known. -/
def Command.event (balance : Int64) : Command → Event
  | .create opening => .created ⟨opening.holder, balance⟩
  | .deposit payment => .deposited ⟨payment.amount, balance⟩
  | .withdraw payment => .withdrawn ⟨payment.amount, balance⟩
  | .close _ => .closed ⟨balance⟩

theorem Decision.events_eq {current : Option Account} {payload : Command}
    {outcome : Outcome Account Event} (h : Decision current payload outcome) :
    outcome.events = [payload.event outcome.snapshot.balance] := by
  cases h <;> rfl

theorem exists_of_derived {current : Option Account} {command : Envelope Command}
    {outcome : Outcome Account Event} (hd : rule current command = .ok outcome)
    {events : List (Envelope Event)} (he : command.Derived outcome.events events) :
    ∃ id, events = [command.deriveEvent (command.payload.event outcome.snapshot.balance) id] := by
  rw [(decision_of_rule hd).events_eq, Envelope.Derived, List.forall₂_cons_left_iff] at he
  obtain ⟨_, _, ⟨id, rfl⟩, hrest, rfl⟩ := he
  rw [List.forall₂_nil_left_iff.1 hrest]
  exact ⟨id, rfl⟩

/-- An event tells of the record that comes after a past: of its command, of the balance that the
account has then, and of all that was recorded with it, the id of the command as its cause. -/
structure TellsOf (past : List StoredCommand) (record : StoredCommand) (event : Envelope Event) :
    Prop where
  payload : ∃ command account, commandDecoders.decodeStored record = .ok command ∧
    ofHistory (past ++ [record]) = .ok (some account) ∧
    event.payload = command.payload.event account.balance
  name : event.name = event.payloadType
  entityId : event.entity.id = record.entityId
  sequenceNo : event.sequenceNo = record.sequenceNo
  occurredOn : event.metadata.occurredOn = record.metadata.occurredOn
  properties : event.metadata.properties =
    record.metadata.properties.insert Metadata.causationId record.metadata.eventId.text

theorem balance_stamped (id version : Int64) (account : Account) :
    (Snapshot.stamped id version account).balance = account.balance := by
  obtain ⟨_ | _, _, _, _, _⟩ := account <;> rfl

theorem tellsOf_deriveEvent {past : List StoredCommand} {stored : Option Account}
    {command : Envelope Command} {outcome : Outcome Account Event}
    (hu : UpToDate command.entity.id past stored) (hd : rule stored command = .ok outcome)
    {record : StoredCommand} (hr : RecordOf record command)
    (hm : command.metadata =
      { record.metadata with
        sequenceNo := command.sequenceNo
        isReplay := command.isReplay }) (id : Uuid) :
    TellsOf past record
      (command.deriveEvent (command.payload.event outcome.snapshot.balance) id) where
  payload := by
    obtain ⟨account, ha, hs⟩ := hu.concat hd hr
    cases account with
    | none => cases hs
    | some account =>
        have hbalance := congrArg Account.balance (Option.some.inj hs)
        rw [balance_stamped] at hbalance
        exact ⟨_, account, hr.payload, ha, by rw [hbalance]; rfl⟩
  name := rfl
  entityId := hr.entityId.symm
  sequenceNo := hr.sequenceNo.symm
  occurredOn := by
    change command.metadata.occurredOn = _
    rw [hm]
  properties := by
    change command.metadata.properties.insert _ command.metadata.eventId.text = _
    rw [hm]

/-- An event is told again: all is as it was the first time but its own id, that it is one of a replay,
and that it creates its entity if it is the first of it. -/
def Retold (event again : Envelope Event) : Prop :=
  again = { event.asReplayed with metadata.eventId := again.metadata.eventId }

theorem TellsOf.payload_unique {past : List StoredCommand} {record : StoredCommand}
    {event again : Envelope Event} (h : TellsOf past record event) (h' : TellsOf past record again) :
    again.payload = event.payload := by
  obtain ⟨command, account, hc, ha, hp⟩ := h.payload
  obtain ⟨command', account', hc', ha', hp'⟩ := h'.payload
  cases hc.symm.trans hc'
  cases ha.symm.trans ha'
  rw [hp, hp']

theorem TellsOf.retold {past : List StoredCommand} {record : StoredCommand}
    {event again : Envelope Event} (h : TellsOf past record event) (h' : TellsOf past record again)
    (hr : again.isReplay = true)
    (hn : again.entity = ⟨again.entity.id, again.sequenceNo = 1⟩) : Retold event again := by
  have hpayload := h.payload_unique h'
  have hname : again.name = event.name := by
    rw [h.name, h'.name, Envelope.payloadType, Envelope.payloadType, hpayload]
  have hsequence := h'.sequenceNo.trans h.sequenceNo.symm
  have hentity := h'.entityId.trans h.entityId.symm
  have hoccurred := h'.occurredOn.trans h.occurredOn.symm
  have hproperties := h'.properties.trans h.properties.symm
  rw [hsequence, hentity] at hn
  obtain ⟨name, ⟨id, occurred, sequence, replay, properties⟩, entity, payload⟩ := again
  simp only [Envelope.sequenceNo, Envelope.isReplay] at *
  subst hname hoccurred hproperties hpayload hr hn hsequence
  rfl

/-! ## The events of a history -/

/-- Events tell of a history, one event of each record and in order. -/
def Narrates (history : List StoredCommand) (events : List (Envelope Event)) : Prop :=
  events.length = history.length ∧ ∀ (k : Nat) (record : StoredCommand) (event : Envelope Event),
    history[k]? = some record → events[k]? = some event → TellsOf (history.take k) record event

theorem narrates_nil : Narrates [] [] := ⟨rfl, fun k record event h _ => by simp at h⟩

theorem Narrates.concat {history : List StoredCommand} {events : List (Envelope Event)}
    (h : Narrates history events) {record : StoredCommand} {event : Envelope Event}
    (ht : TellsOf history record event) : Narrates (history ++ [record]) (events ++ [event]) := by
  refine ⟨by simp [h.1], fun k r e hr he => ?_⟩
  rcases Nat.lt_trichotomy k history.length with hk | rfl | hk
  · rw [List.getElem?_append_left hk] at hr
    rw [List.getElem?_append_left (h.1 ▸ hk)] at he
    rw [List.take_append_of_le_length (Nat.le_of_lt hk)]
    exact h.2 k r e hr he
  · rw [List.getElem?_concat_length] at hr
    rw [← h.1, List.getElem?_concat_length] at he
    cases hr
    cases he
    rwa [List.take_left]
  · rw [List.getElem?_eq_none (by simp; omega)] at hr
    cases hr

theorem Narrates.toInt_sequenceNo {entity : Int64} {history : List StoredCommand}
    {events : List (Envelope Event)} (h : Narrates history events)
    (hg : CommandLog.Gapless entity history) {k : Nat} {event : Envelope Event}
    (he : events[k]? = some event) : event.sequenceNo.toInt = k + 1 := by
  obtain ⟨hk, -⟩ := List.getElem?_eq_some_iff.1 he
  have hrecord := List.getElem?_eq_getElem (h.1 ▸ hk)
  rw [(h.2 k _ event hrecord he).sequenceNo]
  exact (hg k _ hrecord).2

theorem Narrates.retold {history : List StoredCommand} {live again : List (Envelope Event)}
    (h : Narrates history live) (h' : Narrates history again)
    (ha : ∀ event ∈ again, event.isReplay = true ∧
      event.entity = ⟨event.entity.id, event.sequenceNo = 1⟩) : List.Forall₂ Retold live again := by
  refine List.forall₂_iff_get.2 ⟨h.1.trans h'.1.symm, fun k hk hk' => ?_⟩
  have hrecord := List.getElem?_eq_getElem (h.1 ▸ hk)
  obtain ⟨hr, hn⟩ := ha _ (List.get_mem again ⟨k, hk'⟩)
  exact (h.2 k _ _ hrecord (List.getElem?_eq_getElem hk)).retold
    (h'.2 k _ _ hrecord (List.getElem?_eq_getElem hk')) hr hn

end Account

namespace Ledger

variable {σ : Type}

/-! ## Ledgers with a recorder -/

/-- Among the views of a ledger, none of which ever fails, a recorder keeps a tape that nothing else
touches. -/
structure Recording (ledger : Ledger σ) (tape : Cell σ (List (Envelope Event))) : Prop where
  log_apart : ∀ l s, tape.get (ledger.log.set l s) = tape.get s
  accounts_apart : ∀ table s, tape.get (ledger.accounts.set table s) = tape.get s
  recorder : ∀ now, ∃ name before after, ledger.views now = before ++ .recorder name tape :: after ∧
    ∀ view ∈ before ++ after, view.Keeps tape.get
  views_accept : ∀ now, ∀ view ∈ ledger.views now, view.Accepts
  views_steady : ∀ now, ∀ view ∈ ledger.views now, view.Steady
  others_keep : ∀ now, ∀ other ∈ ledger.others now, other.Keeps tape.get
  others_steady : ∀ now, ∀ other ∈ ledger.others now, other.Steady

variable {ledger : Ledger σ} {tape : Cell σ (List (Envelope Event))} {now : Instant}

theorem Recording.tapes_bus (h : ledger.Recording tape) :
    ∀ subscriber ∈ (ledger.bus now).dispatcher.subscribers, subscriber.Tapes tape.get := by
  intro subscriber hm
  rcases List.mem_cons.1 hm with rfl | hm
  · obtain ⟨name, before, after, hs, hk⟩ := h.recorder now
    exact Saga.tapes_subscriber (ledger.saga_over _) h.accounts_apart hs hk (h.views_steady now)
  · exact (h.others_steady now subscriber hm).tapes (h.others_keep now subscriber hm)

/-! ## Handing out a command -/

/-- What handing out a command comes to: it is refused, or passed over, or its event is taken down. -/
inductive Telling (ledger : Ledger σ) (tape : Cell σ (List (Envelope Event)))
    (command : Envelope Command) (state : σ) : Except DomainError Unit → σ → Prop
  | refused {refusal : DomainError} {state' : σ}
      (hr : Saga.reflects ((ledger.accounts.get state).find command.entity.id) command = false)
      (hd : Account.rule ((ledger.accounts.get state).find command.entity.id) command =
        .error refusal)
      (ht : tape.get state' = tape.get state) :
      Telling ledger tape command state (.error refusal) state'
  | passedOver {state' : σ}
      (hr : Saga.reflects ((ledger.accounts.get state).find command.entity.id) command = true)
      (ht : tape.get state' = tape.get state) : Telling ledger tape command state (.ok ()) state'
  | told {outcome : Outcome Account Event} {id : Uuid} {state' : σ}
      (hr : Saga.reflects ((ledger.accounts.get state).find command.entity.id) command = false)
      (hd : Account.rule ((ledger.accounts.get state).find command.entity.id) command = .ok outcome)
      (ha : (ledger.accounts.get state').find command.entity.id =
        some (Snapshot.stamped command.entity.id command.sequenceNo outcome.snapshot))
      (ht : tape.get state' = tape.get state ++
        [command.deriveEvent (command.payload.event outcome.snapshot.balance) id]) :
      Telling ledger tape command state (.ok ()) state'

theorem Recording.telling (h : ledger.Recording tape) {command : Envelope Command} {state state' : σ}
    {result : Except DomainError Unit} (hv : command.entity.validate = .ok ())
    (hid : ∀ account, (ledger.accounts.get state).find command.entity.id = some account →
      account.id = some command.entity.id)
    (hd : (ledger.bus now).HandsOut command state result state') :
    ledger.Telling tape command state result state' := by
  have hkeep : ∀ other ∈ ledger.others now,
      other.Keeps fun s => (ledger.accounts.get s, tape.get s) := fun other ho envelope s =>
    Prod.ext (congrArg Prod.snd (ledger.others_keep now other ho envelope s))
      (h.others_keep now other ho envelope s)
  obtain ⟨between, hy, hk⟩ := Dispatcher.Yields.of_dispatch _ (ledger.others_accept now) hkeep hd
  have haccounts := congrArg Prod.fst hk
  have htape := congrArg Prod.snd hk
  simp only at haccounts htape
  obtain ⟨name, before, after, hs, hviews⟩ := h.recorder now
  cases Saga.handling (ledger.saga_over _) hy with
  | ignored hh =>
      rw [saga, Account.saga_handles] at hh
      cases hh
  | skipped hr => exact .passedOver hr htape
  | refused hr hrule => exact .refused hr hrule htape
  | @undone outcome table' events failure _ hr hrule hp he hy =>
      -- No view fails, and the event is well formed, so that there is nothing to undo.
      obtain ⟨id, rfl⟩ := Account.exists_of_derived hrule he
      have hvalid : ∀ event ∈ [command.deriveEvent (command.payload.event outcome.snapshot.balance) id],
          event.validate = .ok () := fun event hm =>
        List.mem_singleton.1 hm ▸ Books.validate_deriveEvent hv _ id
      cases EventQueue.Yields.ok_of_publishAll (h.views_accept now) hvalid hy
  | @applied outcome table' events _ hh hr hrule hp he hy =>
      obtain ⟨id, rfl⟩ := Account.exists_of_derived hrule he
      obtain ⟨given, -, ht, hall⟩ := EventQueue.taken_of_publishAll hs hviews hy
      obtain ⟨-, ha⟩ := views_keep_both hy
      rw [h.accounts_apart, hall rfl] at ht
      rw [ledger.accounts.get_set] at ha
      refine .told hr hrule ?_ (htape.trans ht)
      rw [haccounts, ha, SnapshotTable.find_of_persist hp,
        if_pos (Account.id?_stamped_of_rule hid hrule _)]

/-! ## What always holds -/

/-- All that came onto a tape since it had some envelopes is live and of a valid entity, and tells of
the records of every entity. -/
def Told (ledger : Ledger σ) (tape : Cell σ (List (Envelope Event))) (start : List (Envelope Event))
    (s : σ) : Prop :=
  ∃ told, tape.get s = start ++ told ∧
    (∀ event ∈ told, event.isReplay = false ∧ event.entity.validate = .ok ()) ∧
    ∀ entity, Account.Narrates ((ledger.log.get s).load entity)
      (told.filter fun event => event.entity.id = entity)

variable {start : List (Envelope Event)} {s s' : σ}

theorem told_empty (h : ledger.Recording tape) (s : σ) :
    ledger.Told tape (tape.get s) (ledger.accounts.set {} (ledger.log.set {} s)) := by
  refine ⟨[], ?_, List.forall_mem_nil _, fun entity => ?_⟩
  · rw [h.accounts_apart, h.log_apart, List.append_nil]
  · rw [ledger.log_apart, ledger.log.get_set]
    simpa [CommandLog.load] using Account.narrates_nil

theorem Told.of_same (h : ledger.Told tape start s) (hl : ledger.log.get s' = ledger.log.get s)
    (ht : tape.get s' = tape.get s) : ledger.Told tape start s' := by
  rwa [Told, hl, ht]

theorem Told.of_recorded (h : ledger.Told tape start s) {command : Envelope Command}
    (live : command.isReplay = false) (hv : command.entity.validate = .ok ()) {log' : CommandLog}
    (ha : (ledger.log.get s).append (Account.entry command now) = .ok log')
    (hl : ledger.log.get s' = log') {payload : Event} {id : Uuid}
    (hn : Account.TellsOf ((ledger.log.get s).load command.entity.id) (Account.entry command now)
      (command.deriveEvent payload id))
    (ht : tape.get s' = tape.get s ++ [command.deriveEvent payload id]) :
    ledger.Told tape start s' := by
  obtain ⟨told, htape, hlive, hnarrates⟩ := h
  refine ⟨told ++ [command.deriveEvent payload id], by rw [ht, htape, List.append_assoc],
    fun event hm => ?_, fun entity => ?_⟩
  · rcases List.mem_append.1 hm with hm | hm
    · exact hlive event hm
    · rw [List.mem_singleton.1 hm]
      exact ⟨live, hv⟩
  · rw [hl, Account.load_of_append_entry ha, List.filter_append, List.filter_singleton]
    have hid : (command.deriveEvent payload id).entity.id = command.entity.id := rfl
    by_cases he : entity = command.entity.id
    · subst he
      rw [if_pos rfl, hid, decide_eq_true rfl, cond_true]
      exact (hnarrates _).concat hn
    · rw [if_neg he, hid, decide_eq_false (Ne.symm he), cond_false, List.append_nil]
      exact hnarrates entity

/-- What is told of is valid, so that no record is under an id that is not. -/
theorem Told.load_eq_nil (h : ledger.Told tape start s) {entity : Int64} {failure : DomainError}
    (hf : (EntityReference.existing entity).validate = .error failure) :
    (ledger.log.get s).load entity = [] := by
  obtain ⟨told, -, hlive, hnarrates⟩ := h
  have hnone : (told.filter fun event => event.entity.id = entity) = [] := by
    refine List.filter_eq_nil_iff.2 fun event hm he => ?_
    obtain rfl := of_decide_eq_true he
    cases hf.symm.trans (EntityReference.validate_existing_iff.2 (hlive event hm).2)
  exact List.eq_nil_of_length_eq_zero ((hnarrates entity).1 ▸ List.length_eq_zero_iff.2 hnone)

theorem Recording.told_of_publication (h : ledger.Recording tape) (hc : ledger.Consistent s)
    (ht : ledger.Told tape start s) {command : Envelope Command} (live : command.isReplay = false)
    {result : Except DomainError (Envelope Command)}
    (hp : CommandBus.Publication (ledger.bus now) ledger.log command s result s') :
    ledger.Told tape start s' := by
  have hid (n : Int64) (account : Account)
      (ha : (ledger.accounts.get s).find (command.atSequenceNo n).entity.id = some account) :
      account.id = some (command.atSequenceNo n).entity.id := ((hc.upToDate _).id ha).1
  have hentity (hv : command.validate = .ok ()) (n : Int64) :
      (command.atSequenceNo n).entity.validate = .ok () := Envelope.validate_entity hv
  cases hp with
  | malformed | exhausted => exact ht
  | refusedReplay _ hr | passedOn _ hr =>
      rw [live] at hr
      cases hr
  | @refused n _ _ hv _ _ hd =>
      cases h.telling (hentity hv n) (hid n) hd with
      | refused _ _ htape => exact ht.of_same (hd.keeps (ledger.bus_over now).keeps) htape
  | unwritten _ _ _ _ hw => cases hw
  | @recorded n record handed log' hv _ _ hd hw ha =>
      obtain rfl := Account.eq_entry hw
      have hlive : (command.atSequenceNo n).isReplay = false := live
      cases h.telling (hentity hv n) (hid n) hd with
      | passedOver hr =>
          rw [Saga.reflects, hlive] at hr
          cases hr
      | told _ hrule _ htape =>
          refine ht.of_recorded hlive (hentity hv n) ha (ledger.log.get_set _ _) ?_
            ((h.log_apart _ _).trans htape)
          exact Account.tellsOf_deriveEvent (hc.upToDate _) hrule
            (Account.recordOf_entry _ _) rfl _

/-- A replay passes over what the accounts reflect and tells nothing. -/
theorem Recording.tape_of_redelivery (h : ledger.Recording tape) (hc : ledger.Consistent s)
    {entity : Int64} (hv : (EntityReference.existing entity).validate = .ok ())
    {history : List StoredCommand} (hs : history ⊆ (ledger.log.get s).load entity)
    {result : Except DomainError Unit}
    (hr : CommandBus.Redelivery (ledger.bus now) history s result s') :
    tape.get s' = tape.get s := by
  have hown {state state' : σ} (hc : ledger.Consistent state) {record : StoredCommand}
      (hm : record ∈ (ledger.log.get state).load entity) {command : Envelope Command}
      (hread : ledger.decoders.decodeStored record = .ok command) {result : Except DomainError Unit}
      (hd : (ledger.bus now).HandsOut command state result state') :
      tape.get state' = tape.get state := by
    obtain ⟨rfl, hr⟩ := (hc.upToDate entity).reflects_of_decodeStored (hc.ordered entity) hm hread
    cases h.telling (EntityReference.validate_existing_iff.1 hv)
      (fun _ ha => ((hc.upToDate _).id ha).1) hd with
    | refused hf | told hf => exact nomatch hr.symm.trans hf
    | passedOver _ ht => exact ht
  induction hr with
  | done | unreadable => rfl
  | refused hread hd => exact hown hc (hs List.mem_cons_self) hread hd
  | onward hread hd _ ih =>
      obtain ⟨hl, ha⟩ := hc.of_handsOut_replayed (hs List.mem_cons_self) hread hd
      have hstill := hc.of_same hl fun entity => by rw [ha]
      refine (ih hstill ?_).trans (hown hc (hs List.mem_cons_self) hread hd)
      rw [hl]
      exact fun _ hm => hs (List.mem_cons_of_mem _ hm)

theorem Recording.told_of_replaying (h : ledger.Recording tape) (hc : ledger.Consistent s)
    (ht : ledger.Told tape start s) {entity : Int64} {result : Except DomainError Nat}
    (hr : CommandBus.Replaying (ledger.bus now) ledger.log entity s result s') :
    ledger.Told tape start s' := by
  refine ht.of_same (hr.keeps (ledger.bus_over now).keeps) ?_
  cases hr with
  | malformed | nothing | disordered => rfl
  | walked hv _ hr => exact h.tape_of_redelivery hc hv (List.Subset.refl _) hr

theorem Recording.told_of_call (h : ledger.Recording tape) {s : Session σ}
    (hc : ledger.Consistent s.state) (ht : ledger.Told tape start s.state) (c : Call) :
    ledger.Told tape start (ledger.call s c).state := by
  cases c with
  | publish now command live =>
      exact h.told_of_publication hc ht live
        (CommandBus.publication (ledger.bus_over now) (yields_exec _ s))
  | replay now entity =>
      exact h.told_of_replaying hc ht (CommandBus.replaying (ledger.bus_over now) (yields_exec _ s))

theorem Recording.told_of_foldl (h : ledger.Recording tape) {s : Session σ}
    (hc : ledger.Consistent s.state) (ht : ledger.Told tape start s.state) (calls : List Call) :
    ledger.Told tape start (calls.foldl ledger.call s).state := by
  induction calls generalizing s with
  | nil => exact ht
  | cons c calls ih => exact ih (hc.call c) (h.told_of_call hc ht c)

theorem Recording.taped_of_call (h : ledger.Recording tape) (s : Session σ) (c : Call) :
    Taped tape.get s (ledger.call s c) := by
  cases c with
  | publish now command live =>
      exact CommandBus.tapes_publish (ledger.bus_over now) h.log_apart h.tapes_bus command s
  | replay now entity => exact CommandBus.tapes_replay (ledger.bus_over now) h.tapes_bus entity s

theorem Recording.taped_of_foldl (h : ledger.Recording tape) (s : Session σ) (calls : List Call) :
    Taped tape.get s (calls.foldl ledger.call s) := by
  induction calls generalizing s with
  | nil => exact .of_kept (.refl _) rfl
  | cons c calls ih => exact (h.taped_of_call s c).trans (ih _)

theorem Recording.told_of_reached (h : ledger.Recording tape) (start : Session σ)
    (calls : List Call) :
    ledger.Told tape (tape.get start.state) (ledger.reached start calls).state := by
  have hempty := told_empty h start.state
  exact h.told_of_foldl (s := ⟨_, _, _, _, _⟩) (consistent_empty start.state) hempty calls

theorem Recording.taped_of_reached (h : ledger.Recording tape) (start : Session σ)
    (calls : List Call) : Taped tape.get start (ledger.reached start calls) := by
  have hempty : Taped tape.get start
      { start with state := ledger.accounts.set {} (ledger.log.set {} start.state) } :=
    .of_kept (.refl _) ((h.accounts_apart _ _).trans (h.log_apart _ _))
  exact hempty.trans (h.taped_of_foldl _ calls)

/-! ## Telling it again -/

/-- An account that is up to date with the past of a record is brought up to date with the record, and
the event of the record is taken down. -/
theorem Recording.told_of_next (h : ledger.Recording tape) {entity : Int64}
    (hv : (EntityReference.existing entity).validate = .ok ()) {past : List StoredCommand}
    {record : StoredCommand} (hg : CommandLog.Gapless entity (past ++ [record]))
    {current next : Option Account} (hcurrent : Account.ofHistory past = .ok current)
    (hnext : Account.after current record = .ok next)
    (hu : Account.UpToDate entity past ((ledger.accounts.get s).find entity))
    {command : Envelope Command} (hc : ledger.decoders.decodeStored record = .ok command)
    {result : Except DomainError Unit} (hd : (ledger.bus now).HandsOut command s result s') :
    result = .ok () ∧
      Account.UpToDate entity (past ++ [record]) ((ledger.accounts.get s').find entity) ∧
      ∃ event, tape.get s' = tape.get s ++ [event] ∧ Account.TellsOf past record event ∧
        event.isReplay = true ∧ event.entity = ⟨event.entity.id, event.sequenceNo = 1⟩ := by
  obtain ⟨_, outcome, hread, hrule⟩ := hu.exists_rule hcurrent hnext
  cases (ledger.knows.decodeStored hread).symm.trans hc
  have hrecord := Account.recordOf_of_decodeStored hread
  have hreplayed := Decoders.eq_replayed_of_decodeStored hread
  have hreplay : command.isReplay = true := by rw [hreplayed]; rfl
  obtain ⟨he, hseq⟩ := hg.last
  rw [hrecord.sequenceNo] at hseq
  rw [hrecord.entityId] at he
  subst he
  have hreflects := hu.reflects_next hg.front hseq
  cases h.telling (EntityReference.validate_existing_iff.1 hv) (fun _ ha => (hu.id ha).1) hd with
  | refused _ hrefused => exact nomatch hrule.symm.trans hrefused
  | passedOver hr => exact nomatch hreflects.symm.trans hr
  | told _ hrule' ha ht =>
      cases hrule.symm.trans hrule'
      refine ⟨rfl, ha ▸ hu.concat hrule hrecord, _, ht,
        Account.tellsOf_deriveEvent hu hrule hrecord ?_ _, hreplay, ?_⟩
      · rw [hreplay, ← hrecord.sequenceNo]
        exact congrArg Envelope.metadata hreplayed
      · change command.entity = ⟨command.entity.id, command.sequenceNo = 1⟩
        rw [← hrecord.sequenceNo, ← hrecord.entityId]
        exact congrArg Envelope.entity hreplayed

/-- From an account that is up to date with the past of a history, the rest of it is told. -/
theorem Recording.told_of_redelivery (h : ledger.Recording tape) {entity : Int64}
    (hv : (EntityReference.existing entity).validate = .ok ()) {past rest : List StoredCommand}
    (hg : CommandLog.Gapless entity (past ++ rest)) {account : Option Account}
    (ha : Account.ofHistory (past ++ rest) = .ok account)
    (hu : Account.UpToDate entity past ((ledger.accounts.get s).find entity))
    {told : List (Envelope Event)} (hn : Account.Narrates past told)
    {result : Except DomainError Unit}
    (hr : CommandBus.Redelivery (ledger.bus now) rest s result s') :
    result = .ok () ∧ ∃ more, tape.get s' = tape.get s ++ more ∧
      Account.Narrates (past ++ rest) (told ++ more) ∧ ∀ event ∈ more, event.isReplay = true ∧
        event.entity = ⟨event.entity.id, event.sequenceNo = 1⟩ := by
  -- One record after the other moves from the rest to the past, and the account follows.
  induction hr generalizing past told with
  | done =>
      exact ⟨rfl, [], (List.append_nil _).symm, by rwa [List.append_nil, List.append_nil],
        List.forall_mem_nil _⟩
  | unreadable _ hc =>
      obtain ⟨_, _, -, hnext, -⟩ := Account.after_of_ofHistory ha
      obtain ⟨_, _, hread, -⟩ := Account.accepted_of_after hnext
      cases hc.symm.trans (ledger.knows.decodeStored hread)
  | refused hc hd =>
      obtain ⟨_, _, hcurrent, hnext, -⟩ := Account.after_of_ofHistory ha
      rw [List.append_cons] at hg
      cases (h.told_of_next hv hg.front hcurrent hnext hu hc hd).1
  | onward hc hd _ ih =>
      obtain ⟨_, _, hcurrent, hnext, -⟩ := Account.after_of_ofHistory ha
      rw [List.append_cons] at hg ha ⊢
      obtain ⟨-, hu', event, ht, htells, hevent⟩ :=
        h.told_of_next hv hg.front hcurrent hnext hu hc hd
      obtain ⟨hok, more, htape, hnarrates, hmore⟩ := ih hg ha hu' (hn.concat htells)
      rw [← List.append_cons told] at hnarrates
      exact ⟨hok, event :: more, by rw [htape, ht, ← List.append_cons], hnarrates,
        List.forall_mem_cons.2 ⟨hevent, hmore⟩⟩

theorem Recording.told_of_emptied (h : ledger.Recording tape) (hc : ledger.Consistent s)
    (ht : ledger.Told tape start s) {entity : Int64} {result : Except DomainError Nat}
    (hr : CommandBus.Replaying (ledger.bus now) ledger.log entity
      (ledger.accounts.set (ledger.accounts.get s).clear s) result s') :
    (0 < entity.toInt → result = .ok ((ledger.log.get s).load entity).length) ∧
      ∃ again, tape.get s' = tape.get s ++ again ∧
        Account.Narrates ((ledger.log.get s).load entity) again ∧
        ∀ event ∈ again, event.isReplay = true ∧
          event.entity = ⟨event.entity.id, event.sequenceNo = 1⟩ := by
  have hg := hc.ordered entity
  have hl := ledger.log_apart (ledger.accounts.get s).clear s
  have hsame := h.accounts_apart (ledger.accounts.get s).clear s
  cases hr with
  | malformed hf =>
      rw [ht.load_eq_nil hf]
      refine ⟨fun hpos => ?_, [], by rw [hsame, List.append_nil], Account.narrates_nil,
        List.forall_mem_nil _⟩
      cases hf.symm.trans (EntityReference.validate_eq_ok_iff.2 hpos)
  | nothing _ hh =>
      rw [hl] at hh
      rw [hh]
      exact ⟨fun _ => rfl, [], by rw [hsame, List.append_nil], Account.narrates_nil,
        List.forall_mem_nil _⟩
  | disordered _ hf =>
      rw [hl, hg.checkHistory] at hf
      cases hf
  | walked hv _ hr =>
      rw [hl] at hr ⊢
      obtain ⟨account, ha, -⟩ := hc.upToDate entity
      have hu : Account.UpToDate entity []
          ((ledger.accounts.get (ledger.accounts.set (ledger.accounts.get s).clear s)).find
            entity) := by
        rw [ledger.accounts.get_set, SnapshotTable.find_clear]
        exact Account.upToDate_nil entity
      rw [← List.nil_append ((ledger.log.get s).load entity)] at ha hg
      obtain ⟨rfl, again, hagain⟩ := h.told_of_redelivery hv hg ha hu Account.narrates_nil hr
      rw [hsame] at hagain
      exact ⟨fun _ => rfl, again, hagain⟩

/-! ## What the tape says -/

/-- Whatever was published and replayed: since the start a recorder has taken down one event for each
record of an entity, live and in order; the `k`-th tells of the `k`-th record. Once the accounts are
emptied, a replay of the entity has the recorder take down the same events again, but for ids that are
drawn anew, that they come from a replay, and that only the first is of a new entity. -/
theorem Recording.narrated (h : ledger.Recording tape) (start : Session σ) (calls : List Call)
    (now : Instant) (entity : Int64) :
    let s := ledger.reached start calls
    let history := (ledger.log.get s.state).load entity
    let emptied := { s with
      state := ledger.accounts.set (ledger.accounts.get s.state).clear s.state }
    let replayed := exec ((ledger.bus now).replay entity) emptied
    ∃ told, tape.get s.state = tape.get start.state ++ told ∧
      let live := told.filter fun event => event.entity.id = entity
      Account.Narrates history live ∧ (∀ event ∈ live, event.isReplay = false) ∧
      (∀ (k : Nat) event, live[k]? = some event → event.sequenceNo.toInt = k + 1) ∧
      (0 < entity.toInt → replayed.1 = .ok history.length) ∧
      ∃ again, tape.get replayed.2.state = tape.get s.state ++ again ∧
        List.Forall₂ Account.Retold live again ∧
        (again.map fun event => event.metadata.eventId).Sublist
          (s.ids.between replayed.2.ids) ∧
        (replayed.2.ids.Distinct →
          ((told ++ again).map fun event => event.metadata.eventId).Nodup) := by
  intro s history emptied replayed
  have hc : ledger.Consistent s.state := (consistent_empty start.state).foldl calls
  obtain ⟨told, htape, hlive, hnarrates⟩ := h.told_of_reached start calls
  obtain ⟨hok, again, hagain, hretold, hreplayed⟩ :=
    h.told_of_emptied hc (h.told_of_reached start calls)
      (CommandBus.replaying (ledger.bus_over now) (yields_exec _ emptied))
  refine ⟨told, htape, hnarrates entity, fun event hm => (hlive event (List.mem_filter.1 hm).1).1,
    fun k event => (hnarrates entity).toInt_sequenceNo (hc.ordered entity), hok, again, hagain,
    (hnarrates entity).retold hretold hreplayed, ?_⟩
  -- What came onto the tape is the same, whether its content is looked at or its ids are.
  obtain ⟨hon, more, hmore, hids⟩ := h.taped_of_reached start calls
  obtain rfl : told = more := List.append_cancel_left (htape.symm.trans hmore)
  obtain ⟨hon', more', hmore', hids'⟩ :=
    CommandBus.tapes_replay (ledger.bus_over now) h.tapes_bus entity emptied
  rw [h.accounts_apart] at hmore'
  obtain rfl : again = more' := List.append_cancel_left (hagain.symm.trans hmore')
  refine ⟨hids', fun hdistinct => ?_⟩
  have hall := hids.append hids'
  rw [runOn_run] at hall hon'
  rw [IdSource.between_append hon hon', ← List.map_append] at hall
  exact hall.nodup (hdistinct.nodup_between _)

/-! ## Any number of recorders -/

/-- A log, accounts and some tapes. -/
abbrev Studio (n : Nat) : Type :=
  CommandLog × SnapshotTable Account × (Fin n → List (Envelope Event))

def tapeOf {n : Nat} (i : Fin n) : Cell (Studio n) (List (Envelope Event)) where
  get studio := studio.2.2 i
  set tape studio := (studio.1, studio.2.1, Function.update studio.2.2 i tape)
  get_set _ _ := Function.update_self ..
  set_set _ _ _ := by simp

theorem tapeOf_keeps {n : Nat} {i j : Fin n} (h : j ≠ i) :
    (Subscriber.recorder "events" (tapeOf j) : Subscriber (Sequential (Studio n)) Event).Keeps
      (tapeOf i).get :=
  Subscriber.recorder_keeps _ fun _ _ => Function.update_of_ne (Ne.symm h) ..

/-- A ledger whose views are recorders, each with a tape of its own. -/
def recorders (n : Nat) : Ledger (Studio n) where
  log := .first
  accounts := Cell.second.within .first
  log_apart _ _ := rfl
  accounts_apart _ _ := rfl
  decoders := Account.commandDecoders
  knows := Account.knows_commandDecoders
  views _ := (List.finRange n).map fun i => .recorder "events" (tapeOf i)
  views_keep _ view hm := by
    obtain ⟨i, -, rfl⟩ := List.mem_map.1 hm
    exact Subscriber.recorder_keeps _ fun _ _ => rfl
  others _ := []
  others_accept _ _ hm := by cases hm
  others_keep _ _ hm := by cases hm

theorem recording_recorders {n : Nat} (i : Fin n) : (recorders n).Recording (tapeOf i) where
  log_apart _ _ := rfl
  accounts_apart _ _ := rfl
  recorder _ := by
    obtain ⟨before, after, hsplit⟩ := List.append_of_mem (List.mem_finRange i)
    have hnodup := List.nodup_finRange n
    rw [hsplit, List.nodup_middle, List.nodup_cons] at hnodup
    refine ⟨"events", before.map fun j => .recorder "events" (tapeOf j),
      after.map fun j => .recorder "events" (tapeOf j), ?_, fun view hm => ?_⟩
    · simp only [recorders, hsplit, List.map_append, List.map_cons]
    · rw [← List.map_append] at hm
      obtain ⟨j, hj, rfl⟩ := List.mem_map.1 hm
      exact tapeOf_keeps (ne_of_mem_of_not_mem hj hnodup.1)
  views_accept _ view hm := by
    obtain ⟨j, -, rfl⟩ := List.mem_map.1 hm
    exact Subscriber.recorder_accepts _ _
  views_steady _ view hm := by
    obtain ⟨j, -, rfl⟩ := List.mem_map.1 hm
    exact Subscriber.recorder_steady _ _
  others_keep _ _ hm := by cases hm
  others_steady _ _ hm := by cases hm

/-- An opening that names a cause, a withdrawal of too much, a replay and a deposit: the second of two
recorders has an opening and a deposit told, and told again once the accounts are emptied. -/
theorem narrated_of_two_recorders :
    let opening := (Envelope.new (.fresh 1) (Command.create ⟨"Ada", 5⟩)
      (.new ⟨7⟩ Books.epoch)).withProperty Metadata.causationId "unknown"
    let withdrawal := Envelope.new (.existing 1) (Command.withdraw ⟨9⟩) (.new ⟨8⟩ Books.epoch)
    let deposit := Envelope.new (.existing 1) (Command.deposit ⟨2⟩) (.new ⟨9⟩ Books.epoch)
    let calls := [.publish Books.epoch opening rfl, .publish Books.epoch withdrawal rfl,
      .replay Books.epoch 1, .publish Books.epoch deposit rfl]
    let s := (recorders 2).reached { state := ({}, {}, fun _ => []) } calls
    let emptied := { s with
      state := (recorders 2).accounts.set ((recorders 2).accounts.get s.state).clear s.state }
    let replayed := exec (((recorders 2).bus Books.epoch).replay 1) emptied
    (recorders 2).Recording (tapeOf 1) ∧ (s.state.1.load 1).length = 2 ∧ replayed.1 = .ok 2 ∧
      ∃ told again, s.state.2.2 1 = told ∧ replayed.2.state.2.2 1 = told ++ again ∧
        let live := told.filter fun event => event.entity.id = 1
        Account.Narrates (s.state.1.load 1) live ∧ List.Forall₂ Account.Retold live again ∧
        ((told ++ again).map fun event => event.metadata.eventId).Nodup := by
  intro opening withdrawal deposit calls s emptied replayed
  have hr : (recorders 2).Recording (tapeOf 1) := recording_recorders 1
  have hlength : (s.state.1.load 1).length = 2 := by decide +kernel
  obtain ⟨told, htape, hnarrates, -, -, hok, again, hagain, hretold, -, hnodup⟩ :=
    hr.narrated { state := ({}, {}, fun _ => []) } calls Books.epoch 1
  have hcount : replayed.1 = .ok (s.state.1.load 1).length := hok (by decide)
  have htold : s.state.2.2 1 = told := htape
  have hon := (hr.taped_of_reached { state := ({}, {}, fun _ => []) } calls).1
  have hon' := (CommandBus.tapes_replay ((recorders 2).bus_over Books.epoch) hr.tapes_bus 1 emptied).1
  have hids : replayed.2.ids.Distinct :=
    IdSource.distinct_of_serial (hon.trans hon').nth_eq (by decide +kernel)
  refine ⟨hr, hlength, hcount.trans (congrArg _ hlength), told, again, htold, ?_, hnarrates, hretold,
    hnodup hids⟩
  rw [← htold]
  exact hagain

end Ledger

end EventSourcing
