import EventSourcing.Proofs.Account.Agreement
import EventSourcing.Proofs.Compensation

/-!
# All or nothing

A saga that fails leaves its snapshots as they were, whether it refused the command or one of its
events did not get through; a saga that succeeds has changed the snapshot of the entity of the
command and no other, and every view was given every event.
-/

namespace EventSourcing

open EventSourcing.Sequential

/-! ## Tables that were only used -/

namespace SnapshotTable

variable {S : Type} [Snapshot S]

/-- A table that was empty and has since been changed by its own operations alone. -/
inductive Reachable : SnapshotTable S → Prop
  | empty : Reachable {}
  | persist {table table' : SnapshotTable S} {s stored : S} (h : Reachable table)
      (hp : table.persist s = (stored, table')) : Reachable table'
  | delete {table table' : SnapshotTable S} {s : S} (h : Reachable table)
      (hd : table.delete s = .ok table') : Reachable table'
  | clear {table : SnapshotTable S} (h : Reachable table) : Reachable table.clear

/-- What is found under an id has this id. -/
theorem Reachable.id?_of_find {table : SnapshotTable S} (h : table.Reachable) {id : Int64} {s : S}
    (hf : table.find id = some s) : Snapshot.id? s = some id := by
  induction h with
  | empty => simp [find] at hf
  | persist _ hp ih =>
      rw [find_of_persist hp] at hf
      split at hf
      · rename_i hid
        cases hf
        exact hid
      · exact ih hf
  | delete _ hd ih =>
      rw [find_of_delete hd] at hf
      split at hf
      · cases hf
      · exact ih hf
  | clear _ _ =>
      rw [find_clear] at hf
      cases hf

end SnapshotTable

/-! ## Sagas that have their table to themselves -/

namespace Saga

variable {σ C E S : Type} [PayloadKind C] [PayloadKind E] [Snapshot S]

/-- A saga keeps its snapshots in a table that neither its decisions nor its views change. What it
accepts on a snapshot of the entity, or on none, has no other id than that of the entity. -/
structure Housed (saga : Saga (Sequential σ) C E S) (table : Cell σ (SnapshotTable S)) : Prop where
  snapshots : saga.snapshots = SnapshotTable.store table
  decide_keeps : ∀ current command, Keeps table.get (saga.decide current command)
  views_keep : ∀ view ∈ saga.events.dispatcher.subscribers, view.Keeps table.get
  owned : ∀ current command s outcome id,
    (∀ snapshot, current = some snapshot → Snapshot.id? snapshot = some command.entity.id) →
    (runOn (saga.decide current command) s).1 = .ok outcome →
    Snapshot.id? outcome.snapshot = some id → id = command.entity.id

variable {saga : Saga (Sequential σ) C E S} {table : Cell σ (SnapshotTable S)}
  {command : Envelope C}

/-! ## What comes of an outcome -/

omit [PayloadKind C] [PayloadKind E] in
theorem Housed.id?_stamped (h : saga.Housed table) {current : Option S}
    (hc : ∀ snapshot, current = some snapshot → Snapshot.id? snapshot = some command.entity.id)
    {s : Session σ} {outcome : Outcome S E}
    (hd : (runOn (saga.decide current command) s).1 = .ok outcome) (version : Int64) :
    Snapshot.id? (Snapshot.stamped command.entity.id version outcome.snapshot) =
      some command.entity.id := by
  rw [Snapshot.id?_stamped]
  cases hid : Snapshot.id? outcome.snapshot with
  | none => rfl
  | some id => rw [h.owned current command s outcome id hc hd hid, Option.getD_some]

omit [PayloadKind C] in
theorem Housed.table_of_publishAll (h : saga.Housed table) {events : List (Envelope E)}
    {table' : SnapshotTable S} {state between : σ} {result : Except DomainError Unit}
    (hy : Yields (saga.events.publishAll events) (table.set table' state) result between) :
    table.get between = table' := by
  rw [Keeps.yields (EventQueue.keeps_publishAll h.views_keep events) hy, table.get_set]

omit [PayloadKind C] in
theorem find_of_application (h : saga.Housed table) {state state' : σ} {outcome : Outcome S E}
    {result : Except DomainError Unit} (hreach : (table.get state).Reachable)
    (hid : Snapshot.id? (Snapshot.stamped command.entity.id command.sequenceNo outcome.snapshot) =
      some command.entity.id)
    (ha : Application saga table command outcome state result state') (id : Int64) :
    (table.get state').find id =
      if result = .ok () ∧ id = command.entity.id then
        some (Snapshot.stamped command.entity.id command.sequenceNo outcome.snapshot)
      else (table.get state).find id := by
  cases ha with
  | undone hp _ hy =>
      obtain ⟨table'', hback, hsame⟩ := SnapshotTable.find_of_putBack hid hp
        fun previous hf => hreach.id?_of_find hf
      rw [restored_of_putBack (h.table_of_publishAll hy ▸ hback), table.get_set, hsame]
      simp
  | applied hp _ hy =>
      rw [h.table_of_publishAll hy, SnapshotTable.find_of_persist hp, hid]
      simp [eq_comm]

omit [PayloadKind C] in
/-- The events of an outcome are distributed once its snapshot is stored; putting back what was there
before changes the table alone. -/
theorem distribution_of_application {state state' : σ} {outcome : Outcome S E}
    {result : Except DomainError Unit}
    (ha : Application saga table command outcome state result state') :
    ∃ events given table' between, command.Derived outcome.events events ∧
      saga.events.Distribution events (table.set table' state) given result between ∧
      ∀ {τ : Type} (view : σ → τ), (∀ t s, view (table.set t s) = view s) →
        view state' = view between := by
  cases ha with
  | undone _ he hy =>
      obtain ⟨given, hd⟩ := EventQueue.distribution hy
      exact ⟨_, given, _, _, he, hd, fun view ht => restored_keeps ht _ _ _⟩
  | applied _ he hy =>
      obtain ⟨given, hd⟩ := EventQueue.distribution hy
      exact ⟨_, given, _, _, he, hd, fun _ _ => rfl⟩

/-! ## Handling a command, decision by decision -/

theorem handle_of_idle (h : saga.snapshots = SnapshotTable.store table) {s : Session σ}
    (hidle : saga.handles command.payloadType = false ∨
      reflects ((table.get s.state).find command.entity.id) command = true) :
    (exec (saga.handle command) s).1 = .ok () ∧ (exec (saga.handle command) s).2.state = s.state := by
  unfold handle
  split
  · rename_i hh
    have hr := hidle.resolve_left (by simp [hh])
    simp only [h, SnapshotTable.store, exec_bind, exec_sure, runOn_look, hr, if_true, exec_note]
    exact ⟨trivial, rfl⟩
  · exact ⟨rfl, rfl⟩

theorem handle_of_refusal (h : saga.snapshots = SnapshotTable.store table)
    (hh : saga.handles command.payloadType = true) {s s' : Session σ} {refusal : DomainError}
    (hr : reflects ((table.get s.state).find command.entity.id) command = false)
    (hd : runOn (saga.decide ((table.get s.state).find command.entity.id) command) s =
      (.error refusal, s')) :
    (exec (saga.handle command) s).1 = .error refusal ∧
      (exec (saga.handle command) s).2.state = s'.state := by
  simp only [handle, hh, if_true, h, SnapshotTable.store, exec_bind, exec_sure, runOn_look, hr,
    Bool.false_eq_true, if_false, hd, exec_note]
  exact ⟨rfl, rfl⟩

theorem application_of_handle (h : saga.Housed table)
    (hh : saga.handles command.payloadType = true) {s s' : Session σ} {outcome : Outcome S E}
    (hr : reflects ((table.get s.state).find command.entity.id) command = false)
    (hd : runOn (saga.decide ((table.get s.state).find command.entity.id) command) s =
      (.ok outcome, s')) :
    Application saga table command outcome s'.state (exec (saga.handle command) s).1
      (exec (saga.handle command) s).2.state := by
  have hkept : table.get s'.state = table.get s.state := by
    rw [← h.decide_keeps _ command s, hd]
  have happly : exec (saga.handle command) s =
      exec (saga.apply ((table.get s'.state).find command.entity.id) command outcome) s' := by
    rw [hkept]
    simp only [handle, hh, if_true, h.snapshots, SnapshotTable.store, exec_bind, exec_sure, runOn_look,
      hr, Bool.false_eq_true, if_false, hd]
  rw [happly]
  exact application h.snapshots (yields_exec _ s')

/-- Once a command is accepted, only its entity may be found changed, and only if all went well. -/
theorem find_of_handle (h : saga.Housed table) (hh : saga.handles command.payloadType = true)
    {s s' : Session σ} (hreach : (table.get s.state).Reachable) {outcome : Outcome S E}
    (hr : reflects ((table.get s.state).find command.entity.id) command = false)
    (hd : runOn (saga.decide ((table.get s.state).find command.entity.id) command) s =
      (.ok outcome, s')) (id : Int64) :
    (table.get (exec (saga.handle command) s).2.state).find id =
      if (exec (saga.handle command) s).1 = .ok () ∧ id = command.entity.id then
        some (Snapshot.stamped command.entity.id command.sequenceNo outcome.snapshot)
      else (table.get s.state).find id := by
  have hid := h.id?_stamped (fun _ hc => hreach.id?_of_find hc)
    (show (runOn (saga.decide _ command) s).1 = .ok outcome by rw [hd]) command.sequenceNo
  have hkept : table.get s'.state = table.get s.state := by
    rw [← h.decide_keeps _ command s, hd]
  rw [← hkept] at hreach ⊢
  exact find_of_application h hreach hid (application_of_handle h hh hr hd) id

theorem find_of_failed (h : saga.Housed table) {s : Session σ}
    (hreach : (table.get s.state).Reachable) {failure : DomainError}
    (hf : (exec (saga.handle command) s).1 = .error failure) (id : Int64) :
    (table.get (exec (saga.handle command) s).2.state).find id = (table.get s.state).find id := by
  by_cases hidle : saga.handles command.payloadType = false ∨
      reflects ((table.get s.state).find command.entity.id) command = true
  · rw [(handle_of_idle h.snapshots hidle).2]
  obtain ⟨hh, hr⟩ := not_or.1 hidle
  rw [Bool.not_eq_false] at hh
  rw [Bool.not_eq_true] at hr
  cases hd : runOn (saga.decide ((table.get s.state).find command.entity.id) command) s with
  | mk decision s' =>
      cases decision with
      | error refusal =>
          rw [(handle_of_refusal h.snapshots hh hr hd).2, ← h.decide_keeps _ command s, hd]
      | ok outcome =>
          rw [find_of_handle h hh hreach hr hd, hf, if_neg (fun he => nomatch he.1)]

/-- A saga that fails leaves all of its snapshots as they were. One that succeeds has stored the
snapshot of the entity, with its id and the number of the command, and given every event to every
view; of events that do not get through none is given after the first that fails. A command that it
does not handle or that is reflected already changes nothing. -/
theorem all_or_nothing (h : saga.Housed table) (command : Envelope C) (s : Session σ)
    (hreach : (table.get s.state).Reachable) :
    let current := (table.get s.state).find command.entity.id
    let decided := runOn (saga.decide current command) s
    let handled := exec (saga.handle command) s
    (∀ failure, handled.1 = .error failure →
      ∀ id, (table.get handled.2.state).find id = (table.get s.state).find id) ∧
    (saga.handles command.payloadType = false ∨ reflects current command = true →
      handled.1 = .ok () ∧ handled.2.state = s.state) ∧
    (saga.handles command.payloadType = true → reflects current command = false →
      (∀ refusal, decided.1 = .error refusal →
        handled.1 = .error refusal ∧ handled.2.state = decided.2.state) ∧
      ∀ outcome, decided.1 = .ok outcome →
        ∃ events given table' between, command.Derived outcome.events events ∧
          saga.events.Distribution events (table.set table' decided.2.state) given handled.1 between ∧
          (∀ tape view before after,
            saga.events.dispatcher.subscribers = before ++ view :: after → view.TakesDown tape →
            (∀ other ∈ before ++ after, other.Keeps tape.get) →
            (∀ t s, tape.get (table.set t s) = tape.get s) →
            tape.get handled.2.state = tape.get decided.2.state ++ given) ∧
          (handled.1 = .ok () → given = events ∧
            ∃ stored, stored = Snapshot.stamped command.entity.id command.sequenceNo outcome.snapshot ∧
              Snapshot.id? stored = some command.entity.id ∧
              Snapshot.version stored = command.sequenceNo ∧
              ∀ id, (table.get handled.2.state).find id =
                if id = command.entity.id then some stored else (table.get s.state).find id)) := by
  intro current decided handled
  refine ⟨fun failure hf => find_of_failed h hreach hf, handle_of_idle h.snapshots, fun hh hr => ?_⟩
  refine ⟨fun refusal hd => ?_, fun outcome hd => ?_⟩
  · have hrefused : decided = (.error refusal, decided.2) := Prod.ext hd rfl
    exact handle_of_refusal h.snapshots hh hr hrefused
  have haccepted : decided = (.ok outcome, decided.2) := Prod.ext hd rfl
  obtain ⟨events, given, table', between, he, hgiven, hview⟩ :=
    distribution_of_application (application_of_handle h hh hr haccepted)
  refine ⟨events, given, table', between, he, hgiven, ?_, fun hok => ?_⟩
  · intro tape view before after hs htape hk ht
    rw [hview tape.get ht, hgiven.takenDown hs htape hk, ht]
  · have hid := h.id?_stamped (fun _ hc => hreach.id?_of_find hc) hd command.sequenceNo
    refine ⟨?_, _, rfl, hid, Snapshot.version_withVersion _ _, fun id => ?_⟩
    · rw [hok] at hgiven
      cases hgiven
      rfl
    · rw [find_of_handle h hh hreach hr haccepted, hok]
      simp

omit [PayloadKind C] [PayloadKind E] [Snapshot S] in
theorem housed_account {accounts : Cell σ (SnapshotTable Account)}
    {events : EventQueue (Sequential σ) Account.Event}
    (hk : ∀ view ∈ events.dispatcher.subscribers, view.Keeps accounts.get) :
    (Account.saga (SnapshotTable.store accounts) events).Housed accounts where
  snapshots := rfl
  decide_keeps _ _ _ := rfl
  views_keep := hk
  owned current command s outcome id hc hd hid := by
    have hstamped := Account.id?_stamped_of_rule hc hd command.sequenceNo
    rw [Snapshot.id?_stamped, hid] at hstamped
    exact Option.some.inj hstamped

def oneAccount : SnapshotTable Account where
  entries := .insert ∅ 1 { id := some 1, version := 1, holder := "Ada", balance := 10 }
  lastId := 1

def oneDeposit : Envelope Account.Command :=
  (Envelope.new (.existing 1) (.deposit ⟨5⟩) (.new ⟨7⟩ Books.epoch)).atSequenceNo 2

/-- The saga of accounts with two views, of which the first always fails. -/
def unheard : Saga (Sequential (SnapshotTable Account × List (Envelope Account.Event)))
    Account.Command Account.Event Account :=
  Account.saga (SnapshotTable.store Cell.first)
    (.ofSubscribers [.refuser "view down", .recorder "events" Cell.second])

/-- Where one view fails the other is given the event as well, and the account is as it was. -/
theorem all_or_nothing_of_failing_view :
    (exec (unheard.handle oneDeposit) { state := (oneAccount, []) }).1 =
        .error (.ruleViolation "view down") ∧
      (∀ id, (exec (unheard.handle oneDeposit) { state := (oneAccount, []) }).2.state.1.find id =
        oneAccount.find id) ∧
      (exec (unheard.handle oneDeposit) { state := (oneAccount, []) }).2.state.2.map
        Envelope.payloadType = ["account.deposited"] := by
  have hreach : oneAccount.Reachable := .persist .empty
    (rfl : SnapshotTable.persist {} (⟨some 1, 1, "Ada", 10, false⟩ : Account) = (_, oneAccount))
  have hhoused : unheard.Housed Cell.first := by
    refine housed_account fun view hv => ?_
    rcases List.mem_pair.1 hv with rfl | rfl
    · exact fun _ _ => rfl
    · exact Subscriber.recorder_keeps _ fun _ _ => rfl
  have hfailed : (exec (unheard.handle oneDeposit) { state := (oneAccount, []) }).1 =
      .error (.ruleViolation "view down") := by decide +kernel
  obtain ⟨hnothing, -, -⟩ :=
    all_or_nothing hhoused oneDeposit { state := (oneAccount, []) } hreach
  exact ⟨hfailed, hnothing _ hfailed, by decide +kernel⟩

end Saga

end EventSourcing
