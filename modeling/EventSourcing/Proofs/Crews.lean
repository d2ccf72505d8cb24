import EventSourcing.Proofs.Causes
import EventSourcing.Proofs.FanOuts
import EventSourcing.Proofs.ReadModels
import EventSourcing.Proofs.Replays
import EventSourcing.Wiring

/-!
# Who is to blame

A runtime hands a command to its sagas and to other subscribers, and the events of the sagas to its
views. What it fails with, when they do not take the command, names all those who failed and nobody
else: saga by saga, and for a saga whose event did not get through, view by view.
-/

namespace EventSourcing

open EventSourcing.Sequential

/-! ## Members of a crew -/

/-- A saga, whatever its snapshots are. -/
structure AnySaga (σ C E : Type) where
  {S : Type}
  [form : Snapshot S]
  saga : Saga (Sequential σ) C E S

attribute [instance] AnySaga.form

namespace AnySaga

variable {σ C E : Type}

/-- The saga as it is in a runtime: its events go where all events go. -/
def on (any : AnySaga σ C E) (events : EventQueue (Sequential σ) E) :
    Saga (Sequential σ) C E any.S :=
  { any.saga with events }

end AnySaga

/-- One of those to whom a runtime hands its commands. -/
inductive Mate (σ C E : Type) where
  | saga (any : AnySaga σ C E)
  | other (subscriber : Subscriber (Sequential σ) C)

namespace Mate

variable {σ C E : Type} [PayloadKind C] [PayloadKind E]

def subscriber (events : EventQueue (Sequential σ) E) : Mate σ C E → Subscriber (Sequential σ) C
  | .saga any => (any.on events).subscriber
  | .other subscriber => subscriber

/-- A mate has no failures of its own but single ones. -/
def FailsSingly : Mate σ C E → Prop
  | .saga any => any.saga.FailsSingly
  | .other subscriber => subscriber.FailsSingly

/-- Why a mate fails at a command. Only a saga can fail for several reasons. -/
inductive Fails (events : EventQueue (Sequential σ) E) (command : Envelope C) :
    Mate σ C E → σ → List DomainError → σ → Prop
  | saga {any : AnySaga σ C E} {state state' : σ} {causes : List DomainError}
      (hf : (any.on events).Fails command state causes state') :
      Fails events command (.saga any) state causes state'
  | other {subscriber : Subscriber (Sequential σ) C} {state state' : σ} {failure : DomainError}
      (hf : Yields (subscriber.handle command) state (.error failure) state') :
      Fails events command (.other subscriber) state [failure] state'

/-- The mates are given a command one after the other, whatever the others make of it. Those who fail
are to blame, with what they fail for. -/
inductive Blames (events : EventQueue (Sequential σ) E) (command : Envelope C) :
    List (Mate σ C E) → σ → List DomainError → σ → Prop
  | nobody (state : σ) : Blames events command [] state [] state
  | served {mate : Mate σ C E} {mates : List (Mate σ C E)} {causes : List DomainError}
      {state between state' : σ}
      (ht : Yields ((mate.subscriber events).handle command) state (.ok ()) between)
      (hb : Blames events command mates between causes state') :
      Blames events command (mate :: mates) state causes state'
  | failed {mate : Mate σ C E} {mates : List (Mate σ C E)} {failure : DomainError}
      {own causes : List DomainError} {state between state' : σ}
      (ht : Yields ((mate.subscriber events).handle command) state (.error failure) between)
      (hf : mate.Fails events command state own between)
      (hb : Blames events command mates between causes state') :
      Blames events command (mate :: mates) state (own ++ causes) state'

variable {events : EventQueue (Sequential σ) E} {command : Envelope C} {state state' : σ}

/-- What a mate fails with is made of what it fails for. -/
theorem fails_of_handle (hv : ∀ view ∈ events.dispatcher.subscribers, view.FailsSingly)
    {mate : Mate σ C E} (hs : mate.FailsSingly) {failure : DomainError}
    (h : Yields ((mate.subscriber events).handle command) state (.error failure) state') :
    mate.Fails events command state failure.leaves state' ∧ failure.Forked := by
  cases mate with
  | saga any =>
      have hsaga : (any.on events).FailsSingly := ⟨hs.find, hs.persist, hs.decide⟩
      have hy : Yields ((any.on events).handle command) state (.error failure) state' := h
      obtain ⟨causes, hf, hc⟩ := Saga.fails_of_handle hy
      have hsingle := hf.isSingle hsaga hv
      rw [DomainError.leaves_of_ofFailures? hc, DomainError.leavesOf_of_isSingle hsingle]
      exact ⟨.saga hf,
        DomainError.forked_of_ofFailures? (DomainError.allForked_of_isSingle hsingle) hc⟩
  | other subscriber =>
      have hsingle := hs _ _ _ _ h
      rw [hsingle.leaves]
      exact ⟨.other h, hsingle.forked⟩

theorem blames_of_offered (hv : ∀ view ∈ events.dispatcher.subscribers, view.FailsSingly)
    {mates : List (Mate σ C E)} (hs : ∀ mate ∈ mates, mate.FailsSingly)
    {results : List (Except DomainError Unit)}
    (h : Offered command (mates.map (subscriber events)) state results state') :
    Blames events command mates state (DomainError.leavesOf (Dispatcher.failuresOf results))
        state' ∧
      DomainError.AllForked (Dispatcher.failuresOf results) := by
  induction mates generalizing state results with
  | nil =>
      cases h
      exact ⟨.nobody _, trivial⟩
  | cons mate mates ih =>
      obtain _ | @⟨_, _, result, _, _, between, _, hy, ho⟩ := h
      obtain ⟨hmate, hmates⟩ := List.forall_mem_cons.1 hs
      obtain ⟨hb, hforked⟩ := ih hmates ho
      cases result with
      | ok => exact ⟨.served hy hb, hforked⟩
      | error failure =>
          obtain ⟨hf, hown⟩ := fails_of_handle hv hmate hy
          exact ⟨.failed hy hf hb, hown, hforked⟩

end Mate

/-! ## Getting to the subscribers -/

namespace CommandBus

variable {σ C : Type} [PayloadKind C]

/-- A publication gets to the subscribers: its command is valid and has its number. Listed are the
command as it is handed to them and what is there by then. -/
inductive Publishes (bus : CommandBus (Sequential σ) C) (command : Envelope C) (s : Session σ) :
    Envelope C → Session σ → Prop
  | numbered {numbered : Envelope C} {t : Session σ} (hv : command.validate = .ok ())
      (hn : exec (bus.numbered command) (s.tell (.opened (publishSpan command))) =
        (.ok numbered, t)) :
      Publishes bus command s numbered
        (t.tell (.record "command_bus.publish" [("sequence_no", numbered.sequenceNo)]))

/-- A replay gets to the subscribers with a command: the history is in order, the commands before it
were taken, and its record can be read. -/
inductive Replays (bus : CommandBus (Sequential σ) C) (entity : Int64) (s : Session σ) :
    Envelope C → Session σ → Prop
  | next {front rest : List StoredCommand} {record : StoredCommand} {command : Envelope C}
      {loaded t : Session σ} (hv : (EntityReference.existing entity).validate = .ok ())
      (hl : exec (bus.store.load entity) (s.tell (.opened (replaySpan entity))) =
        (.ok (front ++ record :: rest), loaded))
      (hc : checkHistory entity 0 (front ++ record :: rest) = .ok ())
      (hr : exec (bus.redeliver front) loaded = (.ok (), t))
      (hd : bus.decoders.decodeStored record = .ok command) :
      Replays bus entity s command
        (t.tell (.event .debug target
          [("sequence_no", record.sequenceNo), ("command_type", record.commandType)]
          "replaying command"))

variable {bus : CommandBus (Sequential σ) C} {command numbered : Envelope C} {entity : Int64}
  {failure : DomainError} {s t given : Session σ}

theorem exec_submit_of_refused (hd : exec (bus.dispatcher.dispatch command) s = (.error failure, t)) :
    ∃ entry, exec (bus.submit command) s = (.error failure, t.tell entry) := by
  simp only [submit, exec_bind, exec_sure, runOn_attemptThis, hd]
  exact ⟨_, rfl⟩

/-- A publication fails as the subscribers do. -/
theorem exec_publish_of_refused (hg : bus.gate = Gate.opened (Sequential σ))
    (hp : bus.Publishes command s numbered given)
    (hd : exec (bus.dispatcher.dispatch numbered) given = (.error failure, t)) :
    (exec (bus.publish command) s).1 = .error failure ∧
      (exec (bus.publish command) s).2.state = t.state := by
  obtain ⟨hv, hn⟩ := hp
  obtain ⟨entry, hs⟩ := exec_submit_of_refused hd
  have halone : exec (bus.publishAlone command) (s.tell (.opened (publishSpan command))) =
      (.error failure, t.tell entry) := by
    simp only [publishAlone, exec_bind, hn, exec_note, hs]
  rw [exec_publish_of_valid hg hv, halone]
  exact ⟨rfl, rfl⟩

theorem exec_redeliver_append {front : List StoredCommand} (rest : List StoredCommand)
    (h : exec (bus.redeliver front) s = (.ok (), t)) :
    exec (bus.redeliver (front ++ rest)) s = exec (bus.redeliver rest) t := by
  induction front generalizing s with
  | nil =>
      cases h
      rfl
  | cons record front ih =>
      simp only [List.cons_append, redeliver, exec_bind, exec_settle] at h ⊢
      cases hc : bus.decoders.decodeStored record with
      | error => simp [hc] at h
      | ok command =>
          simp only [hc, exec_note, exec_sure, runOn_attemptThis] at h ⊢
          generalize exec (bus.dispatcher.dispatch command) _ = dispatched at h ⊢
          obtain ⟨_ | ⟨⟩, u⟩ := dispatched
          · cases h
          · exact ih h

/-- A replay fails as the subscribers do, at the first command that they do not take. -/
theorem exec_replay_of_refused (hg : bus.gate = Gate.opened (Sequential σ))
    (hr : bus.Replays entity s command given)
    (hd : exec (bus.dispatcher.dispatch command) given = (.error failure, t)) :
    (exec (bus.replay entity) s).1 = .error failure ∧
      (exec (bus.replay entity) s).2.state = t.state := by
  obtain @⟨front, rest, record, _, loaded, _, hv, hl, hc, hfront, hread⟩ := hr
  have hwalked : ∃ entry, exec (bus.redeliver (front ++ record :: rest)) loaded =
      (.error failure, t.tell entry) := by
    simp only [exec_redeliver_append _ hfront, redeliver, exec_bind, exec_settle, hread, exec_note,
      exec_sure, runOn_attemptThis, hd]
    exact ⟨_, rfl⟩
  obtain ⟨entry, hwalked⟩ := hwalked
  have hne : (front ++ record :: rest).isEmpty = false := by simp
  rw [exec_replay_of_valid hg hv]
  simp only [replayAlone, exec_bind, hl, hne, hc, Bool.false_eq_true, if_false, hwalked]
  exact ⟨trivial, rfl⟩

end CommandBus

/-! ## What is asked of a fan-out -/

/-- The result of a fan-out in view of the results of the subscribers: nothing goes wrong if nothing
went wrong with any of them, a single failure stays as it is, and several are put together in order. -/
structure Dispatcher.SumsUp (results : List (Except DomainError Unit))
    (result : Except DomainError Unit) : Prop where
  none : result = .ok () ↔ ∀ other ∈ results, other = .ok ()
  one : ∀ failure, results.filter (!·.isOk) = [.error failure] → result = .error failure
  several : ∀ failures, 2 ≤ failures.length →
    results.filter (!·.isOk) = failures.map Except.error → result = .error (.dispatch failures)

theorem Dispatcher.sumsUp_settled (results : List (Except DomainError Unit)) :
    SumsUp results (settled results) where
  none := settled_eq_ok_iff
  one failure h := by
    have hone : failuresOf results = [failure] := failuresOf_eq h
    rw [settled_eq_error_iff, hone]
    rfl
  several failures hl h := by
    rw [settled_eq_error_iff, failuresOf_eq h]
    match failures, hl with
    | _ :: _ :: _, _ => rfl

/-! ## Crews -/

/-- All those who have a part in a runtime. Each of them fails for one reason at a time. -/
structure Crew (σ C E : Type) where
  views : List (Subscriber (Sequential σ) E)
  sagas : List (AnySaga σ C E)
  others : List (Subscriber (Sequential σ) C)
  views_single : ∀ view ∈ views, view.FailsSingly
  sagas_single : ∀ any ∈ sagas, any.saga.FailsSingly
  others_single : ∀ other ∈ others, other.FailsSingly

namespace Crew

variable {σ C E : Type} [PayloadKind C] [PayloadKind E]

def events (crew : Crew σ C E) : EventQueue (Sequential σ) E := .ofSubscribers crew.views

/-- Those to whom commands are handed, the sagas first. -/
def mates (crew : Crew σ C E) : List (Mate σ C E) :=
  crew.sagas.map .saga ++ crew.others.map .other

/-- The runtime that is wired for a crew. -/
def runtime (crew : Crew σ C E) (store : CommandStore (Sequential σ)) (decoders : Decoders C)
    (now : Instant) : Runtime (Sequential σ) C E :=
  Wiring.runtime
    { store, now, decoders
      gate := Gate.opened (Sequential σ)
      views := crew.views
      sagas := crew.sagas.map fun any events => (any.on events).subscriber
      subscribers := crew.others }

theorem subscribers_runtime (crew : Crew σ C E) (store : CommandStore (Sequential σ))
    (decoders : Decoders C) (now : Instant) :
    (crew.runtime store decoders now).bus.dispatcher.subscribers =
      crew.mates.map (Mate.subscriber crew.events) := by
  simp only [mates, List.map_append, List.map_map]
  exact congrArg₂ (· ++ ·) List.map_map (List.map_id _).symm

omit [PayloadKind C] [PayloadKind E] in
theorem failsSingly_of_mem {crew : Crew σ C E} : ∀ mate ∈ crew.mates, mate.FailsSingly := by
  intro mate hm
  rcases List.mem_append.1 hm with hm | hm
  · obtain ⟨any, ha, rfl⟩ := List.mem_map.1 hm
    exact crew.sagas_single any ha
  · obtain ⟨other, ho, rfl⟩ := List.mem_map.1 hm
    exact crew.others_single other ho

/-- A failure tells who of a crew failed at a command, and for what: its single failures are those of
the mates who failed, in order, and it branches only where several are put together. -/
structure Explains (crew : Crew σ C E) (command : Envelope C) (state : σ) (failure : DomainError)
    (state' : σ) : Prop where
  blamed : Mate.Blames crew.events command crew.mates state failure.leaves state'
  forked : failure.Forked
  violation : failure.isRuleViolation = true ↔ ∃ text, .ruleViolation text ∈ failure.leaves

theorem explains_of_dispatch (crew : Crew σ C E) (store : CommandStore (Sequential σ))
    (decoders : Decoders C) (now : Instant) {command : Envelope C} {state state' : σ}
    {failure : DomainError}
    (h : Yields ((crew.runtime store decoders now).bus.dispatcher.dispatch command) state
      (.error failure) state') : crew.Explains command state failure state' := by
  obtain ⟨results, ho, hs⟩ := Dispatcher.offered_of_dispatch h
  rw [subscribers_runtime] at ho
  obtain ⟨hb, hforked⟩ := Mate.blames_of_offered crew.views_single failsSingly_of_mem ho
  have hsome := Dispatcher.settled_eq_error_iff.1 hs.symm
  have hleaves := DomainError.leaves_of_ofFailures? hsome
  exact ⟨hleaves ▸ hb, DomainError.forked_of_ofFailures? hforked hsome,
    DomainError.isRuleViolation_iff failure⟩

/-- A fan-out gives an envelope to every subscriber once, whoever fails, and its result says no more
and no less than theirs; so does one whose subscribers take turns, in whatever order they end. So when
the subscribers of a runtime do not take a command, be it published or replayed, the failure tells
exactly who of them failed, and for what. -/
theorem failures_accounted (crew : Crew σ C E) (store : CommandStore (Sequential σ))
    (decoders : Decoders C) (now : Instant) :
    let bus := (crew.runtime store decoders now).bus
    (∀ {τ P : Type} [PayloadKind P] (dispatcher : Dispatcher (Sequential τ) P)
      (envelope : Envelope P) (s : Session τ),
      let dispatched := exec (dispatcher.dispatch envelope) s
      (∃ results,
        Offered envelope dispatcher.subscribers s.state results dispatched.2.state ∧
          Dispatcher.SumsUp results dispatched.1) ∧
      ∀ tape subscriber before after, dispatcher.subscribers = before ++ subscriber :: after →
        subscriber.TakesDown tape → (∀ other ∈ before ++ after, other.Keeps tape.get) →
        tape.get dispatched.2.state = tape.get s.state ++ [envelope]) ∧
    (∀ {τ P : Type} [PayloadKind P] (dispatcher : Dispatcher (Interleaved τ) P)
      (envelope : Envelope P) steps result, (dispatcher.dispatch envelope).run.Ends steps result →
      ∃ results,
        OfferedTogether dispatcher.traffic envelope dispatcher.subscribers steps results ∧
          Dispatcher.SumsUp results result) ∧
    (∀ command s numbered given failure, bus.Publishes command s numbered given →
      (exec (bus.dispatcher.dispatch numbered) given).1 = .error failure →
      (exec (bus.publish command) s).1 = .error failure ∧
        crew.Explains numbered given.state failure (exec (bus.publish command) s).2.state) ∧
    ∀ entity s command given failure, bus.Replays entity s command given →
      (exec (bus.dispatcher.dispatch command) given).1 = .error failure →
      (exec (bus.replay entity) s).1 = .error failure ∧
        crew.Explains command given.state failure (exec (bus.replay entity) s).2.state := by
  intro bus
  have hexplains {command : Envelope C} {given : Session σ} {failure : DomainError}
      (hf : (exec (bus.dispatcher.dispatch command) given).1 = .error failure) :
      crew.Explains command given.state failure
        (exec (bus.dispatcher.dispatch command) given).2.state :=
    crew.explains_of_dispatch store decoders now (hf ▸ yields_exec _ given)
  refine ⟨fun dispatcher envelope s => ⟨?_, ?_⟩, ?_, ?_, ?_⟩
  · obtain ⟨results, ho, hs⟩ :=
      Dispatcher.offered_of_dispatch (yields_exec (dispatcher.dispatch envelope) s)
    rw [hs]
    exact ⟨results, ho, Dispatcher.sumsUp_settled results⟩
  · intro tape subscriber before after hs ht hk
    exact Dispatcher.tape_of_dispatch hs ht hk (yields_exec _ s)
  · intro τ P _ dispatcher envelope steps result h
    obtain ⟨results, ho, hs⟩ := Dispatcher.offeredTogether_of_dispatch h
    rw [hs]
    exact ⟨results, ho, Dispatcher.sumsUp_settled results⟩
  · intro command s numbered given failure hp hf
    obtain ⟨hresult, hstate⟩ := CommandBus.exec_publish_of_refused rfl hp (Prod.ext hf rfl)
    rw [hstate]
    exact ⟨hresult, hexplains hf⟩
  · intro entity s command given failure hr hf
    obtain ⟨hresult, hstate⟩ := CommandBus.exec_replay_of_refused rfl hr (Prod.ext hf rfl)
    rw [hstate]
    exact ⟨hresult, hexplains hf⟩

end Crew

/-! ## The crew of the account service -/

theorem Account.isSingle_of_rule {current : Option Account} {command : Envelope Account.Command}
    {refusal : DomainError} (h : Account.rule current command = .error refusal) :
    refusal.IsSingle := by
  unfold Account.rule at h
  split at h
  · cases h
  · rename_i reason _
    cases h
    cases reason <;> trivial

/-- The failures of a registration's own, those of its function, are single ones. -/
def Registration.FailsSingly {E M : Type} : Registration E M → Prop
  | .create _ make => ∀ event payload failure, make event payload = .error failure → failure.IsSingle
  | .update _ change => ∀ model event payload failure,
    change model event payload = .error failure → failure.IsSingle

theorem Registration.FailsSingly.isSingle {E M : Type} [Snapshot M] {registration : Registration E M}
    (hr : registration.FailsSingly) {current : Option M} {event : Envelope E} {failure : DomainError}
    (h : registration.transform current event = .error failure) : failure.IsSingle := by
  have ha := registration.answers_transform current event
  generalize registration.transform current event = answer at h ha
  cases ha with
  | created => exact hr _ _ _ h
  | updated => exact hr _ _ _ _ h
  | notCreated | unmodelled | notUpdated =>
      cases h
      trivial

theorem View.MadeBy.failsSingly {σ E M : Type} [PayloadKind E] [Snapshot M]
    {view : View (Sequential σ) E M} {table : Cell σ (SnapshotTable M)}
    {registrations : List (Registration E M)} (hv : view.MadeBy table registrations)
    (hr : ∀ registration ∈ registrations, registration.FailsSingly) :
    view.subscriber.FailsSingly := by
  intro event state failure state' hy
  cases handling hv.models hy with
  | failed ht hf =>
      rw [hv.transforms, Option.map_eq_some_iff] at ht
      obtain ⟨registration, hl, rfl⟩ := ht
      exact (hr registration (Registration.mem_of_last? hl)).isSingle hf

theorem AccountSummary.failsSingly_registrations :
    ∀ registration ∈ registrations, registration.FailsSingly := by
  simp [registrations, Registration.FailsSingly]

namespace Crew

variable {σ : Type}

/-- The one saga and the one view of the account service. -/
def ofBooks (books : Cell σ Books) : Crew σ Account.Command Account.Event where
  views := [(AccountSummary.view (SnapshotTable.store (books.within Books.summariesCell))).subscriber]
  sagas := [⟨Account.saga (SnapshotTable.store (books.within Books.accountsCell)) (.ofSubscribers [])⟩]
  others := []
  views_single := List.forall_mem_singleton.2 <|
    (View.madeBy_registered "account-summary" _ AccountSummary.owned_registrations).failsSingly
      AccountSummary.failsSingly_registrations
  sagas_single := List.forall_mem_singleton.2 <|
    Saga.Over.failsSingly ⟨rfl, rfl⟩ fun _ _ _ => Account.isSingle_of_rule
  others_single := nofun

/-- The account service is the runtime of its crew. -/
theorem bus_service (books : Cell σ Books) (now : Instant) :
    (Books.service books (Gate.opened (Sequential σ)) now).bus =
      ((ofBooks books).runtime (Books.stores books).commands
        (AccountService.wiring (Books.stores books) (Gate.opened (Sequential σ)) now).decoders
        now).bus := rfl

/-! ## A crew at odds -/

/-- A saga that refuses every command that is sent to an account. -/
def limits : Saga (Sequential (SnapshotTable Account × List (Envelope Account.Event)))
    Account.Command Account.Event Account :=
  { Saga.ofRule "limits" (fun _ _ => .error (.ruleViolation "limit reached"))
      (SnapshotTable.store Cell.first) (.ofSubscribers []) with
    subscriptions := Account.commandTypes }

/-- The saga of accounts and one that refuses everything; of three views one takes events. -/
def atOdds : Crew (SnapshotTable Account × List (Envelope Account.Event)) Account.Command
    Account.Event where
  views := [.refuser "ledger down", .recorder "events" Cell.second, .refuser "mail down"]
  sagas := [⟨Account.saga (SnapshotTable.store Cell.first) (.ofSubscribers [])⟩, ⟨limits⟩]
  others := []
  views_single := List.forall_mem_cons.2 ⟨Subscriber.refuser_failsSingly _,
    List.forall_mem_cons.2 ⟨Subscriber.recorder_failsSingly _ _,
      List.forall_mem_singleton.2 (Subscriber.refuser_failsSingly _)⟩⟩
  sagas_single := List.forall_mem_cons.2
    ⟨Saga.Over.failsSingly ⟨rfl, rfl⟩ fun _ _ _ => Account.isSingle_of_rule,
      List.forall_mem_singleton.2 <|
        Saga.Over.failsSingly ⟨rfl, rfl⟩ fun _ _ _ h => Except.error.inj h ▸ trivial⟩
  others_single := nofun

/-- A store in which an account has one command. -/
def oneRecord : CommandStore (Sequential (SnapshotTable Account × List (Envelope Account.Event))) where
  append _ := pure ()
  load _ := pure [Account.entry Saga.oneDeposit Books.epoch]
  nextSequenceNo _ := pure 2

/-- Three subscribers that take turns. The first one fails later than the last one does. -/
def turnTakers : Dispatcher (Interleaved (List (Envelope Account.Command))) Account.Command where
  traffic := .commands
  subscribers :=
    [{ name := "slow"
       handle _ := do
         Host.sure Host.giveWay
         throw (.ruleViolation "ledger down") },
      .recorder "commands" (Cell.whole _), .refuser "mail down"]

/-- The failures of two views are one failure of the first saga, beside that of the second. Those of
subscribers that take turns are in the order of the subscribers. -/
theorem failures_accounted_of_two_sagas :
    let bus := (atOdds.runtime oneRecord Account.commandDecoders Books.epoch).bus
    let start : Session (SnapshotTable Account × List (Envelope Account.Event)) :=
      { state := (Saga.oneAccount, []) }
    let views : DomainError := .dispatch [.ruleViolation "ledger down", .ruleViolation "mail down"]
    let refusal : DomainError := .dispatch [views, .ruleViolation "limit reached"]
    (exec (bus.publish Saga.oneDeposit) start).1 = .error refusal ∧
      (exec (bus.replay 1) start).1 = .error refusal ∧
      (exec (bus.replay 1) start).2.state.2.map Envelope.payloadType = ["account.deposited"] ∧
      (∃ state', Mate.Blames atOdds.events Saga.oneDeposit atOdds.mates start.state
        [.ruleViolation "ledger down", .ruleViolation "mail down", .ruleViolation "limit reached"]
        state') ∧
      (Interleaved.run (turnTakers.dispatch Saga.oneDeposit).run { state := [] }).1 =
        some (.error views) ∧
      ∃ steps results, OfferedTogether .commands Saga.oneDeposit turnTakers.subscribers steps results ∧
        Dispatcher.SumsUp results (.error views) := by
  intro bus start views refusal
  obtain ⟨-, htogether, hpublish, hreplay⟩ :=
    atOdds.failures_accounted oneRecord Account.commandDecoders Books.epoch
  have hp : bus.Publishes Saga.oneDeposit start _ _ := .numbered rfl rfl
  obtain ⟨hpublished, hexplains⟩ := hpublish _ _ _ _ refusal hp (by decide +kernel)
  have hr : bus.Replays 1 start Saga.oneDeposit.intoReplay _ :=
    @CommandBus.Replays.next _ _ _ _ _ _ [] [] (Account.entry Saga.oneDeposit Books.epoch) _ _ _
      rfl rfl rfl rfl (by decide +kernel)
  obtain ⟨hreplayed, -⟩ := hreplay _ _ _ _ refusal hr (by decide +kernel)
  have hrun : (Interleaved.run (turnTakers.dispatch Saga.oneDeposit).run { state := [] }).1 =
      some (.error views) := by decide +kernel
  obtain ⟨steps, hends⟩ := Interleaved.ends_of_run (Prod.ext hrun rfl)
  obtain ⟨results, ho, hsum⟩ := htogether turnTakers Saga.oneDeposit steps _ hends
  exact ⟨hpublished, hreplayed, by decide +kernel, ⟨_, hexplains.blamed⟩, hrun, steps, results, ho,
    hsum⟩

end Crew

end EventSourcing
