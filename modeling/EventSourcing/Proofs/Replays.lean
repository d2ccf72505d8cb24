import EventSourcing.Proofs.Publishing
import EventSourcing.Proofs.Reading
import Mathlib.Data.List.Forall2

/-!
# Replays of any history

What a replay does with the records that a store gives it, whatever store it is. Records that are not
in order are turned away before anything is handed out; of those in order each is read only when the
commands before it were taken.
-/

namespace EventSourcing

open EventSourcing.Sequential

/-! ## Handing out commands -/

namespace CommandBus

variable {σ C : Type} [PayloadKind C]

/-- Commands are handed out one after the other, up to the first that a subscriber refuses. -/
inductive HandsOutAll (bus : CommandBus (Sequential σ) C) :
    List (Envelope C) → σ → Except DomainError Unit → σ → Prop
  | done (state : σ) : HandsOutAll bus [] state (.ok ()) state
  | refused {command : Envelope C} {commands : List (Envelope C)} {failure : DomainError}
      {state state' : σ} (hd : bus.HandsOut command state (.error failure) state') :
      HandsOutAll bus (command :: commands) state (.error failure) state'
  | onward {command : Envelope C} {commands : List (Envelope C)} {result : Except DomainError Unit}
      {state state' state'' : σ} (hd : bus.HandsOut command state (.ok ()) state')
      (ha : HandsOutAll bus commands state' result state'') :
      HandsOutAll bus (command :: commands) state result state''

variable {bus : CommandBus (Sequential σ) C}

theorem handsOutAll_of_redelivery {records : List StoredCommand} {commands : List (Envelope C)}
    (hc : List.Forall₂ (fun record command => bus.decoders.decodeStored record = .ok command)
      records commands)
    {state state' : σ} {result : Except DomainError Unit}
    (hr : Redelivery bus records state result state') :
    HandsOutAll bus commands state result state' := by
  induction hr generalizing commands with
  | done =>
      cases hc
      exact .done _
  | unreadable _ hf =>
      obtain _ | ⟨hread, -⟩ := hc
      cases hf.symm.trans hread
  | refused hcommand hd =>
      obtain _ | ⟨hread, -⟩ := hc
      cases hcommand.symm.trans hread
      exact .refused hd
  | onward hcommand hd _ ih =>
      obtain _ | ⟨hread, hrest⟩ := hc
      cases hcommand.symm.trans hread
      exact .onward hd (ih hrest)

theorem HandsOutAll.ok_of_accepting {commands : List (Envelope C)}
    (ha : ∀ command ∈ commands, ∀ subscriber ∈ bus.dispatcher.subscribers, ∀ s,
      (exec (subscriber.handle command) s).1 = .ok ())
    {state state' : σ} {result : Except DomainError Unit}
    (h : bus.HandsOutAll commands state result state') : result = .ok () := by
  induction h with
  | done => rfl
  | refused hd => exact Dispatcher.Yields.ok_of_dispatch (ha _ List.mem_cons_self) hd
  | onward _ _ ih => exact ih fun command hc => ha command (List.mem_cons_of_mem _ hc)

end CommandBus

/-! ## What is taken down -/

section

variable {σ P : Type} [PayloadKind P] {bus : CommandBus (Sequential σ) P}
  {tape : Cell σ (List (Envelope P))} {name : String}
  {before after : List (Subscriber (Sequential σ) P)}

theorem CommandBus.HandsOutAll.takenDownBy {subscriber : Subscriber (Sequential σ) P}
    (hs : bus.dispatcher.subscribers = before ++ subscriber :: after)
    (ht : subscriber.TakesDown tape) (hk : ∀ other ∈ before ++ after, other.Keeps tape.get)
    {commands : List (Envelope P)} {state state' : σ} {result : Except DomainError Unit}
    (h : bus.HandsOutAll commands state result state') :
    ∃ given, given <+: commands ∧ tape.get state' = tape.get state ++ given ∧
      (result = .ok () → given = commands) := by
  induction h with
  | done => exact ⟨[], List.nil_prefix, (List.append_nil _).symm, fun _ => rfl⟩
  | @refused command commands _ _ _ hd =>
      exact ⟨[command], List.prefix_append [command] commands,
        Dispatcher.tape_of_dispatch hs ht hk hd, nofun⟩
  | @onward command _ _ _ _ _ hd _ ih =>
      obtain ⟨given, hp, hrest, hall⟩ := ih
      refine ⟨command :: given, List.cons_prefix_cons.2 ⟨rfl, hp⟩, ?_, fun hr => by rw [hall hr]⟩
      rw [hrest, Dispatcher.tape_of_dispatch hs ht hk hd, List.append_assoc]
      rfl

theorem CommandBus.HandsOutAll.takenDown
    (hs : bus.dispatcher.subscribers = before ++ .recorder name tape :: after)
    (hk : ∀ other ∈ before ++ after, other.Keeps tape.get) {commands : List (Envelope P)}
    {state state' : σ} {result : Except DomainError Unit}
    (h : bus.HandsOutAll commands state result state') :
    ∃ given, given <+: commands ∧ tape.get state' = tape.get state ++ given ∧
      (result = .ok () → given = commands) :=
  h.takenDownBy hs (Subscriber.recorder_takesDown name tape) hk

end

/-! ## Histories in order -/

/-- Records of one entity whose numbers rise, from above 0. -/
structure StoredCommand.InOrder (entity : Int64) (history : List StoredCommand) : Prop where
  owned : ∀ record ∈ history, record.entityId = entity
  rising : (0 :: history.map fun record => record.sequenceNo.toInt).Pairwise (· < ·)

theorem checkHistory_eq_ok_iff {entity last : Int64} {history : List StoredCommand} :
    checkHistory entity last history = .ok () ↔
      (∀ record ∈ history, record.entityId = entity) ∧
        (last.toInt :: history.map fun record => record.sequenceNo.toInt).IsChain (· < ·) := by
  induction history generalizing last with
  | nil => simp [checkHistory]
  | cons record history ih =>
      by_cases he : record.entityId = entity
      · by_cases hn : record.sequenceNo.toInt ≤ last.toInt
        · simp [checkHistory, he, hn, Int.not_lt.2 hn]
        · simp [checkHistory, he, hn, ih, Int.not_le.1 hn]
      · simp [checkHistory, he]

theorem StoredCommand.inOrder_iff {entity : Int64} {history : List StoredCommand} :
    InOrder entity history ↔ checkHistory entity 0 history = .ok () := by
  rw [checkHistory_eq_ok_iff, List.isChain_iff_pairwise]
  exact ⟨fun h => ⟨h.owned, h.rising⟩, fun h => ⟨h.1, h.2⟩⟩

/-! ## Walks through a history -/

namespace CommandBus

variable {σ C : Type} [PayloadKind C]

/-- A command is what a record is read as: one of a replay, for an entity and in the place of the
record, whatever else the record says. -/
structure ReadAs (bus : CommandBus (Sequential σ) C) (entity : Int64) (record : StoredCommand)
    (command : Envelope C) : Prop where
  decoded : bus.decoders.decodeStored record = .ok command
  entity : command.entity.id = entity
  replayed : command.isReplay = true
  placed : command.sequenceNo = record.sequenceNo

/-- How far a walk through a history gets: to its end, to a record that cannot be read, or to one
whose command a subscriber refuses. The commands are those that are handed out. -/
inductive Walk (bus : CommandBus (Sequential σ) C) (entity : Int64) (history : List StoredCommand)
    (state : σ) : List (Envelope C) → Except DomainError Unit → σ → Prop
  | through {commands : List (Envelope C)} {state' : σ}
      (hread : List.Forall₂ (bus.ReadAs entity) history commands)
      (hd : bus.HandsOutAll commands state (.ok ()) state') :
      Walk bus entity history state commands (.ok ()) state'
  | unreadable {front rest : List StoredCommand} {record : StoredCommand}
      {commands : List (Envelope C)} {failure : DomainError} {state' : σ}
      (hh : history = front ++ record :: rest)
      (hread : List.Forall₂ (bus.ReadAs entity) front commands)
      (hd : bus.HandsOutAll commands state (.ok ()) state')
      (hf : bus.decoders.decodeStored record = .error failure) :
      Walk bus entity history state commands (.error failure) state'
  | refused {front rest : List StoredCommand} {record : StoredCommand}
      {commands : List (Envelope C)} {command : Envelope C} {failure : DomainError}
      {between state' : σ} (hh : history = front ++ record :: rest)
      (hread : List.Forall₂ (bus.ReadAs entity) front commands)
      (hd : bus.HandsOutAll commands state (.ok ()) between) (hc : bus.ReadAs entity record command)
      (hf : bus.HandsOut command between (.error failure) state') :
      Walk bus entity history state (commands ++ [command]) (.error failure) state'

variable {bus : CommandBus (Sequential σ) C} {entity : Int64} {history : List StoredCommand}

omit [PayloadKind C] in
theorem readAs_of_decodeStored {record : StoredCommand} {command : Envelope C}
    (he : record.entityId = entity) (hc : bus.decoders.decodeStored record = .ok command) :
    bus.ReadAs entity record command := by
  have hr := Decoders.eq_replayed_of_decodeStored hc
  refine ⟨hc, ?_, ?_, ?_⟩
  · rw [hr]
    exact he
  · rw [hr]
    rfl
  · rw [hr]
    rfl

theorem walk_of_redelivery (ho : ∀ record ∈ history, record.entityId = entity) {state state' : σ}
    {result : Except DomainError Unit} (h : Redelivery bus history state result state') :
    ∃ commands, bus.Walk entity history state commands result state' := by
  induction h with
  | done => exact ⟨[], .through .nil (.done _)⟩
  | unreadable _ hc => exact ⟨[], .unreadable (List.nil_append _).symm .nil (.done _) hc⟩
  | refused hc hd =>
      have hread := readAs_of_decodeStored (ho _ List.mem_cons_self) hc
      exact ⟨_, .refused (List.nil_append _).symm .nil (.done _) hread hd⟩
  | @onward record _ _ _ _ _ _ hc hd _ ih =>
      have hread := readAs_of_decodeStored (ho _ List.mem_cons_self) hc
      obtain ⟨commands, hw⟩ := ih fun other hm => ho other (List.mem_cons_of_mem _ hm)
      cases hw with
      | through hrest hall => exact ⟨_, .through (.cons hread hrest) (.onward hd hall)⟩
      | unreadable hh hrest hall hf =>
          exact ⟨_, .unreadable (congrArg (record :: ·) hh) (.cons hread hrest) (.onward hd hall) hf⟩
      | refused hh hrest hall hc hf =>
          exact ⟨_, .refused (congrArg (record :: ·) hh) (.cons hread hrest) (.onward hd hall) hc hf⟩

/-- Whoever takes down what it is given has the commands of a walk, and no others. -/
theorem Walk.takenDown {tape : Cell σ (List (Envelope C))} {subscriber : Subscriber (Sequential σ) C}
    {before after : List (Subscriber (Sequential σ) C)}
    (hs : bus.dispatcher.subscribers = before ++ subscriber :: after)
    (ht : subscriber.TakesDown tape) (hk : ∀ other ∈ before ++ after, other.Keeps tape.get)
    {commands : List (Envelope C)}
    {state state' : σ} {result : Except DomainError Unit}
    (h : bus.Walk entity history state commands result state') :
    tape.get state' = tape.get state ++ commands := by
  have hall {commands : List (Envelope C)} {state' : σ}
      (hd : bus.HandsOutAll commands state (.ok ()) state') :
      tape.get state' = tape.get state ++ commands := by
    obtain ⟨given, -, htape, hgiven⟩ := hd.takenDownBy hs ht hk
    rw [htape, hgiven rfl]
  cases h with
  | through _ hd | unreadable _ _ hd => exact hall hd
  | refused _ _ hd _ hf => rw [Dispatcher.tape_of_dispatch hs ht hk hf, hall hd, List.append_assoc]

/-! ## Any store -/

theorem exec_replay_of_malformed {failure : DomainError}
    (hv : (EntityReference.existing entity).validate = .error failure) (s : Session σ) :
    exec (bus.replay entity) s = (.error failure, s) := by
  simp only [replay, exec_bind, exec_settle, hv]

theorem exec_publish_of_valid {command : Envelope C}
    (hg : bus.gate = Gate.opened (Sequential σ))
    (hv : command.validate = .ok ()) (s : Session σ) :
    exec (bus.publish command) s =
      ((exec (bus.publishAlone command) (s.tell (.opened (publishSpan command)))).1,
        (exec (bus.publishAlone command) (s.tell (.opened (publishSpan command)))).2.tell
          (.closed (publishSpan command).name)) := by
  simp only [publish, exec_bind, exec_settle, hv, exec_during, hg]
  rfl

theorem exec_replay_of_valid (hg : bus.gate = Gate.opened (Sequential σ))
    (hv : (EntityReference.existing entity).validate = .ok ()) (s : Session σ) :
    exec (bus.replay entity) s =
      ((exec (bus.replayAlone entity) (s.tell (.opened (replaySpan entity)))).1,
        (exec (bus.replayAlone entity) (s.tell (.opened (replaySpan entity)))).2.tell
          (.closed (replaySpan entity).name)) := by
  simp only [replay, exec_bind, exec_settle, hv, exec_during, hg]
  rfl

theorem exec_replayAlone_of_unloaded {failure : DomainError} {s s' : Session σ}
    (hl : exec (bus.store.load entity) s = (.error failure, s')) :
    exec (bus.replayAlone entity) s = (.error failure, s') := by
  simp only [replayAlone, exec_bind, hl]

theorem exec_replayAlone_of_nil {s s' : Session σ}
    (hl : exec (bus.store.load entity) s = (.ok [], s')) :
    ∃ entry, exec (bus.replayAlone entity) s = (.ok 0, s'.tell entry) := by
  simp only [replayAlone, exec_bind, hl]
  exact ⟨_, rfl⟩

theorem exec_replayAlone_of_disordered {s s' : Session σ}
    (hl : exec (bus.store.load entity) s = (.ok history, s'))
    (hn : ¬ StoredCommand.InOrder entity history) :
    ∃ text, exec (bus.replayAlone entity) s = (.error (.store text), s') := by
  rw [StoredCommand.inOrder_iff] at hn
  cases hc : checkHistory entity 0 history with
  | ok => exact absurd hc hn
  | error fault =>
      cases history with
      | nil => cases hc
      | cons record history =>
          simp only [replayAlone, exec_bind, hl, hc]
          exact ⟨fault.message, rfl⟩

theorem redelivery_of_replayAlone {s s' : Session σ}
    (hl : exec (bus.store.load entity) s = (.ok history, s'))
    (hc : checkHistory entity 0 history = .ok ()) :
    ∃ result, Redelivery bus history s'.state result (exec (bus.replayAlone entity) s).2.state ∧
      (exec (bus.replayAlone entity) s).1 = result.map fun _ => history.length := by
  cases history with
  | nil =>
      obtain ⟨entry, he⟩ := exec_replayAlone_of_nil hl
      rw [he]
      exact ⟨.ok (), .done _, rfl⟩
  | cons record history =>
      have hr := redelivery (yields_exec (bus.redeliver (record :: history)) s')
      simp only [replayAlone, exec_bind, hl, hc, List.isEmpty_cons, Bool.false_eq_true, if_false]
      generalize exec (bus.redeliver (record :: history)) s' = walked at hr ⊢
      obtain ⟨result | result, s''⟩ := walked
      · exact ⟨_, hr, rfl⟩
      · exact ⟨_, hr, rfl⟩

theorem walk_of_replayAlone {s s' : Session σ}
    (hl : exec (bus.store.load entity) s = (.ok history, s'))
    (ho : StoredCommand.InOrder entity history) :
    ∃ commands result,
      bus.Walk entity history s'.state commands result (exec (bus.replayAlone entity) s).2.state ∧
        (exec (bus.replayAlone entity) s).1 = result.map fun _ => history.length := by
  obtain ⟨result, hr, hresult⟩ := redelivery_of_replayAlone hl (StoredCommand.inOrder_iff.1 ho)
  obtain ⟨commands, hw⟩ := walk_of_redelivery ho.owned hr
  exact ⟨commands, result, hw, hresult⟩

theorem redeliver_with_store (store : CommandStore (Sequential σ)) (history : List StoredCommand) :
    CommandBus.redeliver { bus with store } history = bus.redeliver history := by
  induction history with
  | nil => simp only [redeliver]
  | cons record history ih => simp only [redeliver, ih]

/-- Only how a store loads makes a difference to a replay. -/
theorem replay_with_store (bus : CommandBus (Sequential σ) C) (store : CommandStore (Sequential σ))
    (hl : store.load = bus.store.load) (entity : Int64) :
    CommandBus.replay { bus with store } entity = bus.replay entity := by
  simp only [replay, replayAlone, hl, redeliver_with_store]

/-- A replay asks its store for the history of the entity, once it is known to be valid, and for
nothing else. What could not be loaded, and records that are not in order, reach no subscriber. Those
in order are walked through, each being read when the commands before it were taken, and the result
is the number of all records or the failure at which the walk stopped. -/
theorem replay_of_any_store (store : CommandStore (Sequential σ))
    (dispatcher : Dispatcher (Sequential σ) C) (decoders : Decoders C) (now : Instant)
    (entity : Int64) (s : Session σ) :
    let bus : CommandBus (Sequential σ) C :=
      ⟨store, dispatcher, decoders, now, Gate.opened (Sequential σ)⟩
    let replayed := exec (bus.replay entity) s
    let loaded := exec (store.load entity) (s.tell (.opened (replaySpan entity)))
    (entity.toInt ≤ 0 → replayed =
      (.error (.validation s!"entity id must be positive, got {Word.text entity}"), s)) ∧
    (∀ failure, 0 < entity.toInt → loaded.1 = .error failure →
      replayed.1 = .error failure ∧ replayed.2.state = loaded.2.state) ∧
    (0 < entity.toInt → loaded.1 = .ok [] →
      replayed.1 = .ok 0 ∧ replayed.2.state = loaded.2.state) ∧
    (∀ history, 0 < entity.toInt → loaded.1 = .ok history →
      ¬ StoredCommand.InOrder entity history →
      (∃ text, replayed.1 = .error (.store text)) ∧ replayed.2.state = loaded.2.state) ∧
    (∀ history, 0 < entity.toInt → loaded.1 = .ok history → StoredCommand.InOrder entity history →
      ∃ commands result, bus.Walk entity history loaded.2.state commands result replayed.2.state ∧
        replayed.1 = result.map (fun _ => history.length) ∧
        ∀ tape subscriber before after, dispatcher.subscribers = before ++ subscriber :: after →
          subscriber.TakesDown tape → (∀ other ∈ before ++ after, other.Keeps tape.get) →
          tape.get replayed.2.state = tape.get loaded.2.state ++ commands) ∧
    ∀ append nextSequenceNo,
      CommandBus.replay { bus with store := { store with append, nextSequenceNo } } entity =
        bus.replay entity := by
  intro bus replayed loaded
  have hvalid (hpos : 0 < entity.toInt) :
      replayed = ((exec (bus.replayAlone entity) (s.tell (.opened (replaySpan entity)))).1,
        (exec (bus.replayAlone entity) (s.tell (.opened (replaySpan entity)))).2.tell
          (.closed (replaySpan entity).name)) :=
    exec_replay_of_valid rfl (EntityReference.validate_eq_ok_iff.2 hpos) s
  have hload (result : Except DomainError (List StoredCommand)) (hl : loaded.1 = result) :
      exec (bus.store.load entity) (s.tell (.opened (replaySpan entity))) = (result, loaded.2) :=
    Prod.ext hl rfl
  refine ⟨fun hneg => ?_, fun failure hpos hl => ?_, fun hpos hl => ?_,
    fun history hpos hl hn => ?_, fun history hpos hl ho => ?_, fun append next => ?_⟩
  · exact exec_replay_of_malformed (if_neg (Int.not_lt.2 hneg)) s
  · rw [hvalid hpos, exec_replayAlone_of_unloaded (hload _ hl)]
    exact ⟨rfl, rfl⟩
  · obtain ⟨entry, he⟩ := exec_replayAlone_of_nil (hload _ hl)
    rw [hvalid hpos, he]
    exact ⟨rfl, rfl⟩
  · obtain ⟨text, he⟩ := exec_replayAlone_of_disordered (hload _ hl) hn
    rw [hvalid hpos, he]
    exact ⟨⟨text, rfl⟩, rfl⟩
  · obtain ⟨commands, result, hw, hresult⟩ := walk_of_replayAlone (hload _ hl) ho
    rw [hvalid hpos]
    refine ⟨commands, result, hw, hresult, ?_⟩
    intro tape subscriber before after hs ht hk
    exact hw.takenDown hs ht hk
  · exact bus.replay_with_store { store with append := append, nextSequenceNo := next } rfl entity

end CommandBus

end EventSourcing
