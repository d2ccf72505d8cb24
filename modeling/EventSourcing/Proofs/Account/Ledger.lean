import EventSourcing.Proofs.Account.History
import EventSourcing.Proofs.Branches
import EventSourcing.Proofs.Compensation
import EventSourcing.Wiring

/-!
# Accounts that follow their log

The saga of accounts behind a bus, with whatever views behind the saga. A view may fail on any event,
but an account that was stored before its events failed is put back. So the accounts say at all times
what the log says.
-/

namespace EventSourcing

open EventSourcing.Sequential
open Account (Command Event)

/-- What accounts are kept with: a log, a table for the accounts, decoders that know all commands,
any views, and other subscribers that accept every command. Views and others have state of their
own. -/
structure Ledger (σ : Type) where
  log : Cell σ CommandLog
  accounts : Cell σ (SnapshotTable Account)
  log_apart : ∀ table s, log.get (accounts.set table s) = log.get s
  accounts_apart : ∀ l s, accounts.get (log.set l s) = accounts.get s
  decoders : Decoders Command
  knows : Account.Knows decoders
  views : Instant → List (Subscriber (Sequential σ) Event)
  views_keep : ∀ now, ∀ view ∈ views now, view.Keeps fun s => (log.get s, accounts.get s)
  others : Instant → List (Subscriber (Sequential σ) Command)
  others_accept : ∀ now, ∀ other ∈ others now, other.Accepts
  others_keep : ∀ now, ∀ other ∈ others now, other.Keeps fun s => (log.get s, accounts.get s)

namespace Ledger

variable {σ : Type}

def saga (ledger : Ledger σ) (events : EventQueue (Sequential σ) Event) :
    Saga (Sequential σ) Command Event Account :=
  Account.saga (SnapshotTable.store ledger.accounts) events

def wiring (ledger : Ledger σ) (now : Instant) : Wiring (Sequential σ) Command Event where
  store := CommandLog.store ledger.log
  gate := Gate.opened (Sequential σ)
  now := now
  decoders := ledger.decoders
  views := ledger.views now
  sagas := [fun events => (ledger.saga events).subscriber]
  subscribers := ledger.others now

def bus (ledger : Ledger σ) (now : Instant) : CommandBus (Sequential σ) Command :=
  (ledger.wiring now).runtime.bus

inductive Call where
  | publish (now : Instant) (command : Envelope Command) (live : command.isReplay = false)
  | replay (now : Instant) (entity : Int64)

def call (ledger : Ledger σ) (s : Session σ) : Call → Session σ
  | .publish now command _ => (exec ((ledger.bus now).publish command) s).2
  | .replay now entity => (exec ((ledger.bus now).replay entity) s).2

/-- The session after some calls, from an empty log and without accounts. -/
def reached (ledger : Ledger σ) (start : Session σ) (calls : List Call) : Session σ :=
  calls.foldl ledger.call
    { start with state := ledger.accounts.set {} (ledger.log.set {} start.state) }

/-! ## The bus and its subscribers -/

variable (ledger : Ledger σ)

theorem saga_over (events : EventQueue (Sequential σ) Event) :
    (ledger.saga events).Over Account.rule ledger.accounts := ⟨rfl, rfl⟩

theorem views_keep_log (now : Instant) :
    ∀ view ∈ ledger.views now, view.Keeps ledger.log.get :=
  fun view hv envelope s => congrArg Prod.fst (ledger.views_keep now view hv envelope s)

theorem saga_keeps_log (now : Instant) :
    (ledger.saga (ledger.wiring now).events).subscriber.Keeps ledger.log.get :=
  Saga.subscriber_keeps (ledger.saga_over _) ledger.log_apart (ledger.views_keep_log now)

theorem bus_over (now : Instant) : (ledger.bus now).Over ledger.log where
  store := rfl
  gate := rfl
  keeps subscriber hs := by
    rcases List.mem_cons.1 hs with rfl | hs
    · exact ledger.saga_keeps_log now
    · exact fun envelope s => congrArg Prod.fst (ledger.others_keep now subscriber hs envelope s)

/-- Other buses may write the log as well. -/
def branch : Branch ledger.log Command where
  dispatcher now := (ledger.bus now).dispatcher
  decoders := ledger.decoders
  keeps now := (ledger.bus_over now).keeps

theorem handling_of_handsOut {now : Instant} {command : Envelope Command} {state state' : σ}
    {result : Except DomainError Unit}
    (h : (ledger.bus now).HandsOut command state result state') :
    ∃ between, Saga.Handling (ledger.saga (ledger.wiring now).events) Account.rule ledger.accounts
        command state result between ∧
      ledger.log.get state' = ledger.log.get between ∧
      ledger.accounts.get state' = ledger.accounts.get between := by
  obtain ⟨between, hy, hk⟩ :=
    Dispatcher.Yields.of_dispatch _ (ledger.others_accept now) (ledger.others_keep now) h
  exact ⟨between, Saga.handling (ledger.saga_over _) hy, congrArg Prod.fst hk,
    congrArg Prod.snd hk⟩

/-! ## What always holds -/

structure Consistent (s : σ) : Prop where
  ordered : (ledger.log.get s).Ordered
  upToDate : ∀ entity, Account.UpToDate entity ((ledger.log.get s).load entity)
    ((ledger.accounts.get s).find entity)

variable {ledger}

theorem Consistent.of_same {s s' : σ} (h : ledger.Consistent s)
    (hl : ledger.log.get s' = ledger.log.get s)
    (ha : ∀ entity, (ledger.accounts.get s').find entity = (ledger.accounts.get s).find entity) :
    ledger.Consistent s' := by
  refine ⟨hl ▸ h.ordered, fun entity => ?_⟩
  rw [hl, ha]
  exact h.upToDate entity

theorem Consistent.of_recorded {s s' : σ} (h : ledger.Consistent s) {command : Envelope Command}
    {outcome : Outcome Account Event} {log' : CommandLog} {now : Instant}
    (hd : Account.rule ((ledger.accounts.get s).find command.entity.id) command = .ok outcome)
    (ha : (ledger.log.get s).append (Account.entry command now) = .ok log')
    (hl : ledger.log.get s' = log')
    (hf : ∀ entity, (ledger.accounts.get s').find entity =
      if command.entity.id = entity then
        some (Snapshot.stamped command.entity.id command.sequenceNo outcome.snapshot)
      else (ledger.accounts.get s).find entity) :
    ledger.Consistent s' := by
  refine ⟨hl ▸ h.ordered.append ha, fun entity => ?_⟩
  rw [hl, hf, Account.load_of_append_entry ha]
  by_cases he : command.entity.id = entity
  · subst he
    rw [if_pos rfl, if_pos rfl]
    exact (h.upToDate _).concat hd (Account.recordOf_entry command now)
  · rw [if_neg he, if_neg (Ne.symm he)]
    exact h.upToDate entity

/-! ## What the saga leaves behind -/

variable {now : Instant}

theorem views_keep_both {events : List (Envelope Event)} {s s' : σ}
    {result : Except DomainError Unit}
    (h : Yields ((ledger.saga (ledger.wiring now).events).events.publishAll events) s result s') :
    ledger.log.get s' = ledger.log.get s ∧ ledger.accounts.get s' = ledger.accounts.get s := by
  have hk := Keeps.yields (EventQueue.keeps_publishAll (ledger.views_keep now) events) h
  exact ⟨congrArg Prod.fst hk, congrArg Prod.snd hk⟩

/-- A command that fails leaves no trace, whether it was refused or an event did not get through. -/
theorem Consistent.of_failed {s s' : σ} (h : ledger.Consistent s) {command : Envelope Command}
    {failure : DomainError}
    (hh : Saga.Handling (ledger.saga (ledger.wiring now).events) Account.rule ledger.accounts command
      s (.error failure) s') : ledger.Consistent s' := by
  have hl := hh.keeps ledger.log_apart (ledger.views_keep_log now)
  cases hh with
  | refused => exact h
  | @undone outcome table' events _ between hr hd hp he hy =>
      -- What is put back goes into the table that the views were given, since they keep it.
      obtain ⟨-, ha⟩ := views_keep_both hy
      rw [ledger.accounts.get_set] at ha
      have hid := (h.upToDate command.entity.id).id?_stamped hd command.sequenceNo
      obtain ⟨table'', hb, hf⟩ := SnapshotTable.find_of_putBack hid hp
        fun previous hprev => ((h.upToDate command.entity.id).id hprev).1
      refine h.of_same hl fun entity => ?_
      simp only [Saga.restored, ha, hb, ledger.accounts.get_set, hf]

theorem Consistent.of_accepted {s s' : σ} (h : ledger.Consistent s) (command : Envelope Command)
    (live : command.isReplay = false)
    (hh : Saga.Handling (ledger.saga (ledger.wiring now).events) Account.rule ledger.accounts command
      s (.ok ()) s') :
    ∃ outcome, Account.rule ((ledger.accounts.get s).find command.entity.id) command = .ok outcome ∧
      ∀ entity, (ledger.accounts.get s').find entity =
        if command.entity.id = entity then
          some (Snapshot.stamped command.entity.id command.sequenceNo outcome.snapshot)
        else (ledger.accounts.get s).find entity := by
  cases hh with
  | ignored hh =>
      rw [saga, Account.saga_handles] at hh
      cases hh
  | skipped hr =>
      simp only [Saga.reflects, live, Bool.false_and] at hr
      cases hr
  | @applied outcome table' events _ _ hr hd hp he hy =>
      obtain ⟨-, ha⟩ := views_keep_both hy
      rw [ledger.accounts.get_set] at ha
      refine ⟨outcome, hd, fun entity => ?_⟩
      have hid := (h.upToDate command.entity.id).id?_stamped hd command.sequenceNo
      rw [ha, SnapshotTable.find_of_persist hp, hid]
      simp only [Option.some.injEq]

/-! ## What the calls leave behind -/

theorem Consistent.publication {s s' : σ} (h : ledger.Consistent s) {command : Envelope Command}
    (live : command.isReplay = false) {result : Except DomainError (Envelope Command)}
    (hp : CommandBus.Publication (ledger.bus now) ledger.log command s result s') :
    ledger.Consistent s' := by
  cases hp with
  | malformed | exhausted => exact h
  | refusedReplay _ hr | passedOn _ hr =>
      rw [live] at hr
      cases hr
  | refused hv hr hn hd =>
      obtain ⟨between, hh, hl, ha⟩ := ledger.handling_of_handsOut hd
      exact (h.of_failed hh).of_same hl fun entity => by rw [ha]
  | unwritten _ _ _ _ hw => cases hw
  | @recorded n record handed log' hv hr hn hd hw htaken =>
      obtain rfl := Account.eq_entry hw
      obtain ⟨between, hh, hl, ha⟩ := ledger.handling_of_handsOut hd
      obtain ⟨outcome, hd', hf⟩ := h.of_accepted (command.atSequenceNo n) live hh
      refine h.of_recorded hd' htaken (ledger.log.get_set _ _) fun entity => ?_
      rw [ledger.accounts_apart, ha]
      exact hf entity

theorem Consistent.of_handsOut_replayed {s s' : σ} (h : ledger.Consistent s)
    {record : StoredCommand} {entity : Int64} (hm : record ∈ (ledger.log.get s).load entity)
    {command : Envelope Command} (hc : ledger.decoders.decodeStored record = .ok command)
    {result : Except DomainError Unit} (hd : (ledger.bus now).HandsOut command s result s') :
    ledger.log.get s' = ledger.log.get s ∧ ledger.accounts.get s' = ledger.accounts.get s := by
  obtain ⟨rfl, hr⟩ := (h.upToDate entity).reflects_of_decodeStored (h.ordered entity) hm hc
  obtain ⟨between, hh, hl, ha⟩ := ledger.handling_of_handsOut hd
  obtain rfl := hh.eq_of_reflects hr
  exact ⟨hl, ha⟩

/-- A replay finds its commands reflected in the account and passes them over. -/
theorem Consistent.redelivery {s s' : σ} (h : ledger.Consistent s) {entity : Int64}
    {history : List StoredCommand} (hs : history ⊆ (ledger.log.get s).load entity)
    {result : Except DomainError Unit}
    (hr : CommandBus.Redelivery (ledger.bus now) history s result s') : ledger.Consistent s' := by
  -- The log stays the same on the way, so that what is left of the history stays in the stream.
  induction hr with
  | done | unreadable => exact h
  | refused hc hd =>
      obtain ⟨hl, ha⟩ := h.of_handsOut_replayed (hs List.mem_cons_self) hc hd
      exact h.of_same hl fun entity => by rw [ha]
  | onward hc hd _ ih =>
      obtain ⟨hl, ha⟩ := h.of_handsOut_replayed (hs List.mem_cons_self) hc hd
      refine ih (h.of_same hl fun entity => by rw [ha]) ?_
      rw [hl]
      exact fun _ hm => hs (List.mem_cons_of_mem _ hm)

theorem Consistent.replaying {s s' : σ} (h : ledger.Consistent s) {entity : Int64}
    {result : Except DomainError Nat}
    (hr : CommandBus.Replaying (ledger.bus now) ledger.log entity s result s') :
    ledger.Consistent s' := by
  cases hr with
  | malformed | nothing | disordered => exact h
  | walked _ _ hr => exact h.redelivery (fun _ hm => hm) hr

/-! ## Runs -/

theorem consistent_empty (s : σ) :
    ledger.Consistent (ledger.accounts.set {} (ledger.log.set {} s)) := by
  refine ⟨?_, fun entity => ?_⟩
  · rw [ledger.log_apart, ledger.log.get_set]
    exact CommandLog.ordered_empty
  · rw [ledger.log_apart, ledger.log.get_set, ledger.accounts.get_set]
    simpa [CommandLog.load, SnapshotTable.find] using Account.upToDate_nil entity

theorem Consistent.call {s : Session σ} (h : ledger.Consistent s.state) (c : Call) :
    ledger.Consistent (ledger.call s c).state := by
  cases c with
  | publish now command live =>
      exact h.publication live (CommandBus.publication (ledger.bus_over now) (yields_exec _ s))
  | replay now entity =>
      exact h.replaying (CommandBus.replaying (ledger.bus_over now) (yields_exec _ s))

theorem Consistent.foldl {s : Session σ} (h : ledger.Consistent s.state) (calls : List Call) :
    ledger.Consistent (calls.foldl ledger.call s).state := by
  induction calls generalizing s with
  | nil => exact h
  | cons c calls ih => exact ih (h.call c)

/-- Whatever was published and replayed, and whichever views failed, the account of an entity is the
one that its records describe, with their number as its version, and there is none without records. -/
theorem find_of_reached (ledger : Ledger σ) (start : Session σ) (calls : List Call) (entity : Int64) :
    ∃ (account : Option Account) (version : Int64),
      Account.ofHistory ((ledger.log.get (ledger.reached start calls).state).load entity) =
        .ok account ∧
      version.toInt = ((ledger.log.get (ledger.reached start calls).state).load entity).length ∧
      (ledger.accounts.get (ledger.reached start calls).state).find entity =
        account.map (Account.asOf entity version) ∧
      (account = none ↔
        (ledger.log.get (ledger.reached start calls).state).load entity = []) := by
  have h : ledger.Consistent (ledger.reached start calls).state :=
    (consistent_empty start.state).foldl calls
  obtain ⟨account, ha, hf⟩ := h.upToDate entity
  refine ⟨account, _, ha, (h.ordered entity).toInt_lastOf, hf, ?_⟩
  rw [← Option.not_isSome_iff_eq_none, Account.isSome_of_ofHistory ha, not_not]

end Ledger

end EventSourcing
