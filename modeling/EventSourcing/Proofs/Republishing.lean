import EventSourcing.Proofs.Account.Archive
import EventSourcing.Proofs.Matching

/-!
# Publishing a history again

The commands of a history can be handed out once more in two ways: the bus replays the history, or its
records are read and what they are read as is published, command by command. Both do the same, since a
command that was recorded is never turned away for its form, and neither numbered nor recorded again.
-/

namespace EventSourcing

open EventSourcing.Sequential

/-! ## Ending alike -/

section

variable {σ τ α β : Type}

/-- Two runs come to the same result, in the same state and with the same ids to come. -/
structure EndsAlike (x y : α × Session (σ × τ)) : Prop where
  result : x.1 = y.1
  session : Session.Alike Eq x.2 y.2

theorem EndsAlike.symm {x y : α × Session (σ × τ)} (h : EndsAlike x y) : EndsAlike y x :=
  ⟨h.result.symm, h.session.own.symm, h.session.ids.symm, h.session.rest.symm⟩

theorem EndsAlike.trans {x y z : α × Session (σ × τ)} (h : EndsAlike x y) (h' : EndsAlike y z) :
    EndsAlike x z :=
  ⟨h.result.trans h'.result, h.session.own.trans h'.session.own,
    h.session.ids.trans h'.session.ids, h.session.rest.trans h'.session.rest⟩

theorem EndsAlike.map {x y : α × Session (σ × τ)} (h : EndsAlike x y) (f : α → β) :
    EndsAlike (f x.1, x.2) (f y.1, y.2) := ⟨congrArg f h.result, h.session⟩

theorem Session.Alike.refl (s : Session (σ × τ)) : Alike Eq s s := ⟨rfl, rfl, rfl⟩

theorem EndsAlike.of_inStepOr {p q : Fallible (Sequential (σ × τ)) α}
    (h : InStepOr Eq Eq p q fun _ => Eq) {s t : Session (σ × τ)} (ha : Session.Alike Eq s t) :
    EndsAlike (exec p s) (exec q t) := by
  obtain ⟨he, hend⟩ := h s t ha
  rw [runOn_run] at he hend
  cases hp : exec p s with
  | mk result u =>
      rw [hp] at he hend
      cases result with
      | ok a => exact ⟨he, hend.own, hend.ids, hend.rest⟩
      | error failure => exact ⟨he, hend.own, hend.ids, hend.rest⟩

end

/-- Only its name and the id of its entity decide whether an envelope is well formed. -/
theorem Envelope.validate_congr {P Q : Type} [PayloadKind P] [PayloadKind Q] {a : Envelope P}
    {b : Envelope Q} (hn : a.name = b.name) (hi : a.entity.id = b.entity.id)
    (h : a.validate = .ok ()) : b.validate = .ok () := by
  unfold validate at h ⊢
  rw [hn] at h
  split at h
  · cases h
  · rename_i hb
    rw [if_neg hb, EntityReference.validate_eq_ok_iff, ← hi]
    exact EntityReference.validate_eq_ok_iff.1 h

/-! ## Publishing what is recorded -/

namespace CommandBus

section

variable {σ : Type} {m : Type → Type} [Host σ m] {C : Type} [PayloadKind C]

/-- Publishes commands one after the other, up to the first failure. -/
def publishEach (bus : CommandBus m C) : List (Envelope C) → Fallible m Unit
  | [] => pure ()
  | command :: commands => do
    let _ ← bus.publish command
    bus.publishEach commands

/-- Publishes what the records of a history are read as, up to the first failure. -/
def republish (bus : CommandBus m C) : List StoredCommand → Fallible m Unit
  | [] => pure ()
  | stored :: history => do
    let command ← Host.settle (bus.decoders.decodeStored stored)
    let _ ← bus.publish command
    bus.republish history

/-- Publishes the history of an entity again and gives the number of its commands. -/
def reissue (bus : CommandBus m C) (entity : Int64) : Fallible m Nat := do
  let history ← bus.store.load entity
  bus.republish history
  pure history.length

end

/-! ## Commands of a replay -/

section

variable {σ C : Type} [PayloadKind C] {bus : CommandBus (Sequential σ) C} {command : Envelope C}

/-- A command of a replay is neither numbered nor recorded. -/
theorem exec_publishAlone_of_replay (hr : command.isReplay = true) (s : Session σ) :
    ∃ before after, exec (bus.publishAlone command) s =
      ((exec (bus.dispatcher.dispatch command) (s.tell before)).1.map fun _ => command,
        (exec (bus.dispatcher.dispatch command) (s.tell before)).2.tell after) := by
  refine ⟨.record "command_bus.publish" [("sequence_no", command.sequenceNo)], ?_⟩
  simp only [publishAlone, numbered, record, submit, hr, if_true, pure_bind, exec_bind, exec_note,
    exec_sure, runOn_attemptThis]
  cases exec (bus.dispatcher.dispatch command)
      (s.tell (.record "command_bus.publish" [("sequence_no", command.sequenceNo)])) with
  | mk result t =>
      cases result with
      | ok => exact ⟨_, rfl⟩
      | error failure => exact ⟨_, rfl⟩

end

variable {σ τ C : Type} [PayloadKind C] {store : CommandStore (Sequential (σ × τ))}
  {dispatcher : Dispatcher (Sequential σ) C} {decoders : Decoders C} {now : Instant}
  {s t : Session (σ × τ)}

/-- A valid command of a replay is handed out as it is, and that is all that its publication does. -/
theorem endsAlike_publish {command : Envelope C} (hv : command.validate = .ok ())
    (hr : command.isReplay = true) (ha : Session.Alike Eq s t) :
    let bus := staffed store dispatcher decoders now
    let handed := exec (bus.dispatcher.dispatch command) s
    EndsAlike (handed.1.map fun _ => command, handed.2) (exec (bus.publish command) t) := by
  intro bus handed
  obtain ⟨before, after, hrun⟩ :=
    bus.exec_publishAlone_of_replay hr (t.tell (.opened (publishSpan command)))
  rw [exec_publish_of_valid rfl hv, hrun]
  obtain ⟨hresult, hsession⟩ := EndsAlike.of_inStepOr (dispatcher.inStep_dispatch command)
    (show Session.Alike Eq s ((t.tell (.opened (publishSpan command))).tell before) from
      ⟨ha.own, ha.ids, ha.rest⟩)
  exact ⟨congrArg (Except.map fun _ => command) hresult, hsession.own, hsession.ids, hsession.rest⟩

/-! ## Histories -/

theorem exec_redeliver_cons {σ : Type} {bus : CommandBus (Sequential σ) C} {stored : StoredCommand}
    {command : Envelope C} (hc : bus.decoders.decodeStored stored = .ok command)
    (history : List StoredCommand) (s : Session σ) :
    ∃ (entry : Trace.Entry) (warning : DomainError → Trace.Entry),
      exec (bus.redeliver (stored :: history)) s =
      match exec (bus.dispatcher.dispatch command) (s.tell entry) with
      | (.ok (), s) => exec (bus.redeliver history) s
      | (.error failure, s) => (.error failure, s.tell (warning failure)) := by
  refine ⟨.event .debug target [("sequence_no", stored.sequenceNo),
    ("command_type", stored.commandType)] "replaying command", fun failure => .event .warn target
      [("sequence_no", stored.sequenceNo), ("error", failure.message)] "replay aborted", ?_⟩
  simp only [redeliver, exec_bind, exec_settle, exec_note, exec_sure, runOn_attemptThis, hc]
  cases exec (bus.dispatcher.dispatch command) (s.tell (.event .debug target
      [("sequence_no", stored.sequenceNo), ("command_type", stored.commandType)]
      "replaying command")) with
  | mk result t =>
      cases result with
      | ok => rfl
      | error failure => rfl

theorem endsAlike_republish {history : List StoredCommand}
    (hv : ∀ record ∈ history, ∀ command, decoders.decodeStored record = .ok command →
      command.validate = .ok ()) (ha : Session.Alike Eq s t) :
    let bus := staffed store dispatcher decoders now
    EndsAlike (exec (bus.redeliver history) s) (exec (bus.republish history) t) := by
  intro bus
  induction history generalizing s t with
  | nil => exact ⟨rfl, ha⟩
  | cons stored history ih =>
      simp only [republish, exec_bind, exec_settle]
      cases hc : bus.decoders.decodeStored stored with
      | error failure =>
          simp only [redeliver, exec_bind, exec_settle, hc]
          exact ⟨rfl, ha⟩
      | ok command =>
          have hr : command.isReplay = true := (readAs_of_decodeStored rfl hc).replayed
          obtain ⟨entry, warning, hrun⟩ := exec_redeliver_cons hc history s
          have htold : Session.Alike Eq (s.tell entry) t := ⟨ha.own, ha.ids, ha.rest⟩
          have hp : EndsAlike
              ((exec (bus.dispatcher.dispatch command) (s.tell entry)).1.map fun _ => command,
                (exec (bus.dispatcher.dispatch command) (s.tell entry)).2)
              (exec (bus.publish command) t) :=
            endsAlike_publish (hv stored List.mem_cons_self command hc) hr htold
          rw [hrun]
          dsimp only
          -- The publication ends as the handing out does; the rest follows only if both go well.
          generalize exec (bus.dispatcher.dispatch command) (s.tell entry) = handed at hp ⊢
          generalize exec (bus.publish command) t = published at hp ⊢
          obtain ⟨result, u⟩ := handed
          obtain ⟨result', v⟩ := published
          obtain ⟨hresult, hsession⟩ := hp
          obtain rfl : result.map (fun _ => command) = result' := hresult
          cases result with
          | ok => exact ih (fun record hm => hv record (List.mem_cons_of_mem _ hm)) hsession
          | error failure => exact ⟨rfl, hsession.own, hsession.ids, hsession.rest⟩

theorem exec_reissue {σ : Type} {bus : CommandBus (Sequential σ) C} {entity : Int64}
    {history : List StoredCommand} {s : Session σ}
    (hl : exec (bus.store.load entity) s = (.ok history, s)) :
    exec (bus.reissue entity) s =
      ((exec (bus.republish history) s).1.map fun _ => history.length,
        (exec (bus.republish history) s).2) := by
  simp only [reissue, exec_bind, hl]
  cases exec (bus.republish history) s with
  | mk result t => cases result <;> rfl

theorem republish_eq_publishEach {bus : CommandBus (Sequential σ) C} {history : List StoredCommand}
    {commands : List (Envelope C)}
    (h : List.Forall₂ (fun record command => bus.decoders.decodeStored record = .ok command) history
      commands) : bus.republish history = bus.publishEach commands := by
  induction h with
  | nil => rfl
  | cons hc _ ih =>
      rw [republish, publishEach, hc, ih]
      rfl

/-- The replay of an orderly history hands out all of it and counts it. -/
theorem endsAlike_replay {entity : Int64} {history : List StoredCommand}
    (hv : (EntityReference.existing entity).validate = .ok ())
    (hl : exec (store.load entity) (s.tell (.opened (replaySpan entity))) =
      (.ok history, s.tell (.opened (replaySpan entity))))
    (hc : checkHistory entity 0 history = .ok ()) :
    let bus := staffed store dispatcher decoders now
    let handed := exec (bus.redeliver history) s
    EndsAlike (exec (bus.replay entity) s) (handed.1.map fun _ => history.length, handed.2) := by
  intro bus handed
  have hstep : InStepOr Eq Eq (bus.redeliver history) (bus.redeliver history) fun _ => Eq :=
    inStep_redeliver history
  have hd : EndsAlike
      (exec (bus.redeliver history) (s.tell (.opened (replaySpan entity)))) handed :=
    .of_inStepOr hstep ⟨rfl, rfl, rfl⟩
  have hload : exec (bus.store.load entity) (s.tell (.opened (replaySpan entity))) =
      (.ok history, s.tell (.opened (replaySpan entity))) := hl
  rw [exec_replay_of_valid rfl hv]
  generalize handed = handed at hd ⊢
  obtain ⟨result', u⟩ := handed
  cases history with
  | nil =>
      obtain ⟨entry, hnil⟩ := exec_replayAlone_of_nil hload
      obtain ⟨hresult, hsession⟩ := hd
      obtain rfl : .ok () = result' := hresult
      rw [hnil]
      exact ⟨rfl, hsession.own, hsession.ids, hsession.rest⟩
  | cons record history =>
      simp only [replayAlone, exec_bind, hload, hc, List.isEmpty_cons, Bool.false_eq_true, if_false]
      generalize exec (bus.redeliver (record :: history)) (s.tell (.opened (replaySpan entity))) =
        redelivered at hd ⊢
      obtain ⟨result, v⟩ := redelivered
      obtain ⟨hresult, hsession⟩ := hd
      obtain rfl : result = result' := hresult
      cases result with
      | ok | error => exact ⟨rfl, hsession.own, hsession.ids, hsession.rest⟩

end CommandBus

/-! ## Logs that buses have written -/

namespace Branch

open CommandBus (staffed)

variable {ω ι C : Type} [PayloadKind C] {cell : Cell ω CommandLog}

/-- The commands that some calls to the buses of an empty log accept for an entity, as a replay brings
them back. -/
def recalled (branches : ι → Branch cell C) (begun : Session ω)
    (calls : List (Call fun _ : ι => C)) (entity : Int64) : List (Envelope C) :=
  (accepted branches entity { begun with state := cell.set {} begun.state } calls).map
    Envelope.asReplayed

/-- What is read from a record is as well formed as the command that was recorded. -/
theorem valid_of_decodeStored {branches : ι → Branch cell C} {begun : Session ω}
    {calls : List (Call fun _ : ι => C)} {entity : Int64} {record : StoredCommand}
    (hm : record ∈ (cell.get (reached branches begun calls).state).load entity)
    {decoders : Decoders C} {command : Envelope C}
    (hc : decoders.decodeStored record = .ok command) : command.validate = .ok () := by
  obtain ⟨recorded, ha, now, hw⟩ := (recordsOf_reached branches begun calls entity).exists_of_mem hm
  obtain ⟨json, -, rfl⟩ := StoredCommand.exists_payload_of_ofCommand hw
  rw [Decoders.eq_replayed_of_decodeStored hc]
  exact Envelope.validate_congr (a := recorded) rfl rfl (valid_of_mem_accepted ha).1

variable {σ τ : Type}

/-- The history of an entity, as buses have written it, is replayed just as it is published again: the
subscribers and the stores end alike, with the same result, whoever is subscribed and wherever it
stops. What is read from a record is always valid, and its publication hands it out as it is and does
nothing else. -/
theorem replay_as_republished (branches : ι → Branch cell C) (begun : Session ω)
    (calls : List (Call fun _ : ι => C)) (log : Cell (σ × τ) CommandLog)
    (dispatcher : Dispatcher (Sequential σ) C) (decoders : Decoders C) (now : Instant)
    (s : Session (σ × τ)) (hs : log.get s.state = cell.get (reached branches begun calls).state)
    (entity : Int64) (he : 0 < entity.toInt) :
    let bus := staffed (CommandLog.store log) dispatcher decoders now
    let history := (log.get s.state).load entity
    let commands := recalled branches begun calls entity
    let replayed := exec (bus.replay entity) s
    EndsAlike replayed (exec (bus.reissue entity) s) ∧
    (∀ record ∈ history, ∀ command, decoders.decodeStored record = .ok command →
      command.validate = .ok () ∧ command.sequenceNo = record.sequenceNo ∧
      ∀ t : Session (σ × τ),
        let handed := exec (bus.dispatcher.dispatch command) t
        EndsAlike (exec (bus.publish command) t) (handed.1.map fun _ => command, handed.2)) ∧
    (decoders.ReadBack →
      List.Forall₂ (fun record command => decoders.decodeStored record = .ok command) history
        commands ∧
      let published := exec (bus.publishEach commands) s
      EndsAlike replayed (published.1.map fun _ => commands.length, published.2)) := by
  intro bus history commands replayed
  have hh : history = (cell.get (reached branches begun calls).state).load entity :=
    congrArg (fun log => log.load entity) hs
  have hvalid : ∀ record ∈ history, ∀ command, decoders.decodeStored record = .ok command →
      command.validate = .ok () := fun record hm command => valid_of_decodeStored (hh ▸ hm)
  have hc : checkHistory entity 0 history = .ok () := by
    rw [hh]
    exact (ordered_reached branches begun calls entity).checkHistory
  have hagree : EndsAlike replayed ((exec (bus.republish history) s).1.map fun _ => history.length,
      (exec (bus.republish history) s).2) :=
    (CommandBus.endsAlike_replay (EntityReference.validate_eq_ok_iff.2 he) rfl hc).trans
      ((CommandBus.endsAlike_republish hvalid (.refl s)).map _)
  have hreissued : exec (bus.reissue entity) s =
      ((exec (bus.republish history) s).1.map fun _ => history.length,
        (exec (bus.republish history) s).2) := CommandBus.exec_reissue rfl
  refine ⟨hreissued ▸ hagree, fun record hm command hd => ?_, fun hb => ?_⟩
  · have hread : bus.ReadAs record.entityId record command :=
      CommandBus.readAs_of_decodeStored rfl hd
    exact ⟨hvalid record hm command hd, hread.placed, fun t =>
      (CommandBus.endsAlike_publish (hvalid record hm command hd) hread.replayed (.refl t)).symm⟩
  · have hread : List.Forall₂ (fun record command => decoders.decodeStored record = .ok command)
        history commands := by
      rw [hh]
      exact (recordsOf_reached branches begun calls entity).decoded hb
    rw [CommandBus.republish_eq_publishEach hread, hread.length_eq] at hagree
    exact ⟨hread, hagree⟩

open Account (Command)

/-- A subscriber that takes no deposits. -/
def full : Subscriber (Sequential (List (Envelope Command))) Command where
  name := "full"
  handle command :=
    if command.payloadType = "account.deposit" then throw (.ruleViolation "nothing is taken in")
    else pure ()

/-- Both ways stop at the deposit, which has been given to all subscribers by then. -/
theorem replay_as_republished_of_full :
    let opening := Envelope.new (.fresh 1) (Command.create ⟨"Ada", 5⟩) (.new ⟨7⟩ .epoch)
    let deposit := Envelope.new (.existing 1) (Command.deposit ⟨2⟩) (.new ⟨8⟩ .epoch)
    let withdrawal := Envelope.new (.existing 1) (Command.withdraw ⟨1⟩) (.new ⟨9⟩ .epoch)
    let calls := [.publish () .epoch opening, .publish () .epoch deposit,
      .publish () .epoch withdrawal]
    let written := reached (fun _ : Unit => recording) { state := ({}, []) } calls
    let bus := staffed (CommandLog.store Cell.second)
      ⟨.commands, [full, .recorder "commands" (Cell.whole _)]⟩ Account.commandDecoders .epoch
    let s : Session (List (Envelope Command) × CommandLog) := { state := ([], written.state.1) }
    let replayed := exec (bus.replay 1) s
    replayed.1 = .error (.ruleViolation "nothing is taken in") ∧
      replayed.2.state.1 = [(opening.atSequenceNo 1).asReplayed, (deposit.atSequenceNo 2).asReplayed] ∧
      EndsAlike replayed (exec (bus.reissue 1) s) := by
  intro opening deposit withdrawal calls written bus s replayed
  obtain ⟨hreissued, -⟩ := replay_as_republished (fun _ : Unit => recording) { state := ({}, []) }
    calls Cell.second ⟨.commands, [full, .recorder "commands" (Cell.whole _)]⟩
    Account.commandDecoders .epoch s rfl 1 (by decide)
  have hresult : (exec (bus.reissue 1) s).1 = .error (.ruleViolation "nothing is taken in") := by
    decide +kernel
  have htape : (exec (bus.reissue 1) s).2.state.1 =
      [(opening.atSequenceNo 1).asReplayed, (deposit.atSequenceNo 2).asReplayed] := by
    decide +kernel
  exact ⟨hreissued.result.trans hresult, hreissued.session.own.trans htape, hreissued⟩

end Branch

end EventSourcing
