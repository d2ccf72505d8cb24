import EventSourcing.Proofs.Delivery
import EventSourcing.Proofs.Streams

/-!
# What a bus can do

The ways in which the publication of a command and the replay of a history can end, for a bus over a
log that its subscribers leave alone. All later statements about buses are read off these cases.
-/

namespace EventSourcing

open EventSourcing.Sequential

namespace CommandBus

variable {σ C : Type} [PayloadKind C]

/-- A bus keeps its records in a log that its subscribers leave alone, while nothing else goes
on. -/
structure Over (bus : CommandBus (Sequential σ) C) (log : Cell σ CommandLog) : Prop where
  store : bus.store = CommandLog.store log
  gate : bus.gate = Gate.opened (Sequential σ)
  keeps : ∀ subscriber ∈ bus.dispatcher.subscribers, subscriber.Keeps log.get

/-- The subscribers of a bus are given a command in a state; they end with a result in another
one. -/
def HandsOut (bus : CommandBus (Sequential σ) C) (command : Envelope C) (state : σ)
    (result : Except DomainError Unit) (state' : σ) : Prop :=
  Yields (bus.dispatcher.dispatch command) state result state'

/-- How the publication of a command in a state can end: with which result, in which state. -/
inductive Publication (bus : CommandBus (Sequential σ) C) (log : Cell σ CommandLog)
    (command : Envelope C) (state : σ) : Except DomainError (Envelope C) → σ → Prop
  | malformed {failure : DomainError} (hv : command.validate = .error failure) :
      Publication bus log command state (.error failure) state
  | exhausted (hv : command.validate = .ok ()) (hr : command.isReplay = false)
      (hn : (log.get state).nextSequenceNo? command.entity.id = none) :
      Publication bus log command state (.error (.store (exhaustedText command.entity.id))) state
  | refusedReplay {failure : DomainError} {state' : σ} (hv : command.validate = .ok ())
      (hr : command.isReplay = true) (hd : bus.HandsOut command state (.error failure) state') :
      Publication bus log command state (.error failure) state'
  | refused {n : Int64} {failure : DomainError} {state' : σ} (hv : command.validate = .ok ())
      (hr : command.isReplay = false)
      (hn : (log.get state).nextSequenceNo? command.entity.id = some n)
      (hd : bus.HandsOut (command.atSequenceNo n) state (.error failure) state') :
      Publication bus log command state (.error failure) state'
  | unwritten {n : Int64} {failure : DomainError} {state' : σ} (hv : command.validate = .ok ())
      (hr : command.isReplay = false)
      (hn : (log.get state).nextSequenceNo? command.entity.id = some n)
      (hd : bus.HandsOut (command.atSequenceNo n) state (.ok ()) state')
      (hs : StoredCommand.ofCommand (command.atSequenceNo n) bus.now = .error failure) :
      Publication bus log command state (.error failure) state'
  | passedOn {state' : σ} (hv : command.validate = .ok ()) (hr : command.isReplay = true)
      (hd : bus.HandsOut command state (.ok ()) state') :
      Publication bus log command state (.ok command) state'
  | recorded {n : Int64} {record : StoredCommand} {state' : σ} {log' : CommandLog}
      (hv : command.validate = .ok ()) (hr : command.isReplay = false)
      (hn : (log.get state).nextSequenceNo? command.entity.id = some n)
      (hd : bus.HandsOut (command.atSequenceNo n) state (.ok ()) state')
      (hs : StoredCommand.ofCommand (command.atSequenceNo n) bus.now = .ok record)
      (ha : (log.get state).append record = .ok log') :
      Publication bus log command state (.ok (command.atSequenceNo n)) (log.set log' state')

/-- How the records of a history are handed to the subscribers, one after the other. -/
inductive Redelivery (bus : CommandBus (Sequential σ) C) :
    List StoredCommand → σ → Except DomainError Unit → σ → Prop
  | done (state : σ) : Redelivery bus [] state (.ok ()) state
  | unreadable {stored : StoredCommand} {history : List StoredCommand} {failure : DomainError}
      (state : σ) (hc : bus.decoders.decodeStored stored = .error failure) :
      Redelivery bus (stored :: history) state (.error failure) state
  | refused {stored : StoredCommand} {history : List StoredCommand} {command : Envelope C}
      {failure : DomainError} {state state' : σ}
      (hc : bus.decoders.decodeStored stored = .ok command)
      (hd : bus.HandsOut command state (.error failure) state') :
      Redelivery bus (stored :: history) state (.error failure) state'
  | onward {stored : StoredCommand} {history : List StoredCommand} {command : Envelope C}
      {result : Except DomainError Unit} {state state' state'' : σ}
      (hc : bus.decoders.decodeStored stored = .ok command)
      (hd : bus.HandsOut command state (.ok ()) state')
      (hr : Redelivery bus history state' result state'') :
      Redelivery bus (stored :: history) state result state''

/-- How the replay of an entity in a state can end: with which result, in which state. -/
inductive Replaying (bus : CommandBus (Sequential σ) C) (log : Cell σ CommandLog) (entity : Int64)
    (state : σ) : Except DomainError Nat → σ → Prop
  | malformed {failure : DomainError}
      (hv : (EntityReference.existing entity).validate = .error failure) :
      Replaying bus log entity state (.error failure) state
  | nothing (hv : (EntityReference.existing entity).validate = .ok ())
      (hh : (log.get state).load entity = []) : Replaying bus log entity state (.ok 0) state
  | disordered {fault : HistoryFault} (hv : (EntityReference.existing entity).validate = .ok ())
      (hc : checkHistory entity 0 ((log.get state).load entity) = .error fault) :
      Replaying bus log entity state (.error (.store fault.message)) state
  | walked {result : Except DomainError Unit} {state' : σ}
      (hv : (EntityReference.existing entity).validate = .ok ())
      (hc : checkHistory entity 0 ((log.get state).load entity) = .ok ())
      (hr : Redelivery bus ((log.get state).load entity) state result state') :
      Replaying bus log entity state
        (result.map fun _ => ((log.get state).load entity).length) state'

variable {bus : CommandBus (Sequential σ) C} {log : Cell σ CommandLog}

theorem HandsOut.keeps {τ : Type} {view : σ → τ} {command : Envelope C} {state state' : σ}
    {result : Except DomainError Unit} (hd : bus.HandsOut command state result state')
    (h : ∀ subscriber ∈ bus.dispatcher.subscribers, subscriber.Keeps view) :
    view state' = view state :=
  Keeps.yields (Dispatcher.keeps_dispatch h command) hd

/-! ## Publishing -/

theorem Yields.of_submit {command : Envelope C} {state state' : σ}
    {result : Except DomainError Unit} (h : Yields (bus.submit command) state result state') :
    bus.HandsOut command state result state' := by
  obtain ⟨r, between, hd, hr⟩ := h.of_attempt_bind
  cases r with
  | ok =>
      obtain ⟨rfl, rfl⟩ := yields_pure.1 hr
      exact hd
  | error failure =>
      obtain ⟨rfl, rfl⟩ := yields_throw.1 hr.of_note
      exact hd

omit [PayloadKind C] in
theorem Yields.of_numbered (h : bus.Over log) {command : Envelope C} {state state' : σ}
    {result : Except DomainError (Envelope C)}
    (hn : Yields (bus.numbered command) state result state') :
    state' = state ∧
      ((command.isReplay = true ∧ result = .ok command) ∨
        (command.isReplay = false ∧
          ((∃ n, (log.get state).nextSequenceNo? command.entity.id = some n ∧
              result = .ok (command.atSequenceNo n)) ∨
            ((log.get state).nextSequenceNo? command.entity.id = none ∧
              result = .error (.store (exhaustedText command.entity.id)))))) := by
  unfold numbered at hn
  split at hn
  · rename_i hr
    obtain ⟨rfl, rfl⟩ := yields_pure.1 hn
    exact ⟨rfl, .inl ⟨hr, rfl⟩⟩
  · rename_i hr
    rw [h.store] at hn
    rcases hn.of_bind with ⟨failure, rfl, hf⟩ | ⟨n, between, hs, hp⟩
    · obtain ⟨rfl, ⟨n, -, hf⟩ | ⟨hnone, hf⟩⟩ := CommandLog.yields_nextSequenceNo hf
      · cases hf
      · cases hf
        exact ⟨rfl, .inr ⟨by simpa using hr, .inr ⟨hnone, rfl⟩⟩⟩
    · obtain ⟨rfl, ⟨m, hm, hf⟩ | ⟨-, hf⟩⟩ := CommandLog.yields_nextSequenceNo hs
      · cases hf
        obtain ⟨rfl, rfl⟩ := yields_pure.1 hp
        exact ⟨rfl, .inr ⟨by simpa using hr, .inl ⟨n, hm, rfl⟩⟩⟩
      · cases hf

/-- A command with the next number is recorded if its payload can be written, whatever the subscribers
did. -/
theorem Yields.of_record (h : bus.Over log) {command : Envelope C} {n : Int64}
    {state handed state' : σ} {result : Except DomainError Unit}
    (hr : command.isReplay = false)
    (hn : (log.get state).nextSequenceNo? command.entity.id = some n)
    (hk : log.get handed = log.get state)
    (hy : Yields (bus.record (command.atSequenceNo n)) handed result state') :
    (∃ failure, StoredCommand.ofCommand (command.atSequenceNo n) bus.now = .error failure ∧
      result = .error failure ∧ state' = handed) ∨
    ∃ stored log', StoredCommand.ofCommand (command.atSequenceNo n) bus.now = .ok stored ∧
      (log.get state).append stored = .ok log' ∧ result = .ok () ∧ state' = log.set log' handed := by
  have hlive : (command.atSequenceNo n).isReplay = false := hr
  simp only [record, hlive, Bool.false_eq_true, if_false, h.store] at hy
  rcases hy.of_settle_bind with ⟨failure, hs, rfl, rfl⟩ | ⟨stored, hs, hy⟩
  · exact .inl ⟨failure, hs, rfl, rfl⟩
  obtain ⟨json, -, rfl⟩ := StoredCommand.exists_payload_of_ofCommand hs
  obtain ⟨log', ha⟩ := CommandLog.append_of_next
    (.holding (command.atSequenceNo n) json bus.now) hn
  obtain ⟨hres, hst⟩ := CommandLog.yields_append (hk ▸ ha) hy
  exact .inr ⟨_, log', hs, ha, hres, hst⟩

theorem publication (h : bus.Over log) {command : Envelope C} {state state' : σ}
    {result : Except DomainError (Envelope C)}
    (hp : Yields (bus.publish command) state result state') :
    Publication bus log command state result state' := by
  rcases hp.of_settle_bind with ⟨failure, hv, rfl, rfl⟩ | ⟨⟨⟩, hv, hd⟩
  · exact .malformed hv
  have ha : Yields (bus.publishAlone command) state result state' := by
    have := hd.of_during
    rwa [h.gate] at this
  rcases ha.of_bind with ⟨failure, rfl, hs⟩ | ⟨numbered, _, hs, hrest⟩
  · obtain ⟨rfl, ⟨-, hf⟩ | ⟨hr, ⟨n, -, hf⟩ | ⟨hnone, hf⟩⟩⟩ := Yields.of_numbered h hs
    · cases hf
    · cases hf
    · cases hf
      exact .exhausted hv hr hnone
  obtain ⟨rfl, hn⟩ := Yields.of_numbered h hs
  rcases hrest.of_note.of_bind with ⟨failure, rfl, hs⟩ | ⟨⟨⟩, handed, hs, hrest⟩
  · replace hs := Yields.of_submit hs
    rcases hn with ⟨hr, hf⟩ | ⟨hr, ⟨n, hn, hf⟩ | ⟨-, hf⟩⟩ <;> cases hf
    · exact .refusedReplay hv hr hs
    · exact .refused hv hr hn hs
  replace hs := Yields.of_submit hs
  rcases hn with ⟨hr, hf⟩ | ⟨hr, ⟨n, hn, hf⟩ | ⟨-, hf⟩⟩ <;> cases hf
  · simp only [record, hr, if_true, pure_bind] at hrest
    obtain ⟨rfl, rfl⟩ := yields_pure.1 hrest.of_note
    exact .passedOn hv hr hs
  -- The subscribers left the log alone, so that the number is still the next one.
  · have hk := hs.keeps h.keeps
    rcases hrest.of_bind with ⟨_, rfl, hu⟩ | ⟨⟨⟩, _, hu, hrest⟩
    · rcases Yields.of_record h hr hn hk hu with ⟨_, hw, hf, rfl⟩ | ⟨_, _, _, _, hf, _⟩
      · obtain rfl := Except.error.inj hf
        exact .unwritten hv hr hn hs hw
      · cases hf
    · rcases Yields.of_record h hr hn hk hu with ⟨_, _, hf, _⟩ | ⟨_, _, hw, htaken, -, rfl⟩
      · cases hf
      obtain ⟨rfl, rfl⟩ := yields_pure.1 hrest.of_note
      exact .recorded hv hr hn hs hw htaken

/-- A new command differs from others of its kind by its id alone. -/
theorem Yields.of_command {entity : EntityReference} {payload : C} {state state' : σ}
    {f : Envelope C → Fallible (Sequential σ) (Envelope C)}
    {result : Except DomainError (Envelope C)}
    (h : Yields (Host.sure (bus.command entity payload) >>= f) state result state') :
    ∃ id, Yields (f (.new entity payload (.new id bus.now))) state result state' := by
  obtain ⟨s, rfl, hf⟩ := h.of_sure_bind
  exact ⟨_, hf⟩

/-! ## Replaying -/

theorem redelivery {history : List StoredCommand} {state state' : σ}
    {result : Except DomainError Unit}
    (h : Yields (bus.redeliver history) state result state') :
    Redelivery bus history state result state' := by
  induction history generalizing state with
  | nil =>
      obtain ⟨rfl, rfl⟩ := yields_pure.1 h
      exact .done _
  | cons stored history ih =>
      rcases h.of_settle_bind with ⟨failure, hc, rfl, rfl⟩ | ⟨command, hc, hrest⟩
      · exact .unreadable _ hc
      obtain ⟨r, between, hd, hrest⟩ := hrest.of_note.of_attempt_bind
      cases r with
      | ok => exact .onward hc hd (ih hrest)
      | error failure =>
          obtain ⟨rfl, rfl⟩ := yields_throw.1 hrest.of_note
          exact .refused hc hd

theorem replaying (h : bus.Over log) {entity : Int64} {state state' : σ}
    {result : Except DomainError Nat} (hp : Yields (bus.replay entity) state result state') :
    Replaying bus log entity state result state' := by
  rcases hp.of_settle_bind with ⟨failure, hv, rfl, rfl⟩ | ⟨⟨⟩, hv, hd⟩
  · exact .malformed hv
  have ha : Yields (bus.replayAlone entity) state result state' := by
    have := hd.of_during
    rwa [h.gate] at this
  simp only [replayAlone, h.store] at ha
  rcases ha.of_bind with ⟨_, -, hl⟩ | ⟨history, _, hl, hrest⟩
  · cases (CommandLog.yields_load hl).1
  obtain ⟨hl, rfl⟩ := CommandLog.yields_load hl
  obtain rfl := Except.ok.inj hl
  split at hrest
  · rename_i he
    obtain ⟨rfl, rfl⟩ := yields_pure.1 hrest.of_note
    exact .nothing hv (by simpa using he)
  split at hrest
  · rename_i hc
    obtain ⟨rfl, rfl⟩ := yields_throw.1 hrest
    exact .disordered hv hc
  · rename_i hc
    rcases hrest.of_bind with ⟨failure, rfl, hr⟩ | ⟨⟨⟩, _, hr, hrest⟩
    · exact .walked hv hc (redelivery hr)
    · obtain ⟨rfl, rfl⟩ := yields_pure.1 hrest.of_note.of_note
      exact .walked hv hc (redelivery hr)

/-! ## What is refused at once -/

theorem Publication.of_malformed {command : Envelope C} {state state' : σ}
    {result : Except DomainError (Envelope C)}
    (h : Publication bus log command state result state') {failure : DomainError}
    (hv : command.validate = .error failure) : result = .error failure ∧ state' = state := by
  cases h with
  | malformed hf =>
      cases hf.symm.trans hv
      exact ⟨rfl, rfl⟩
  | exhausted hok | refusedReplay hok | refused hok | unwritten hok | passedOn hok | recorded hok =>
      cases hok.symm.trans hv

theorem Replaying.of_malformed {entity : Int64} {state state' : σ} {result : Except DomainError Nat}
    (h : Replaying bus log entity state result state') {failure : DomainError}
    (hv : (EntityReference.existing entity).validate = .error failure) :
    result = .error failure ∧ state' = state := by
  cases h with
  | malformed hf =>
      cases hf.symm.trans hv
      exact ⟨rfl, rfl⟩
  | nothing hok | disordered hok | walked hok => cases hok.symm.trans hv

/-! ## What is left of the log -/

theorem Publication.ordered (h : bus.Over log) {command : Envelope C} {state state' : σ}
    {result : Except DomainError (Envelope C)} (ho : (log.get state).Ordered)
    (hp : Publication bus log command state result state') : (log.get state').Ordered := by
  cases hp with
  | malformed | exhausted => exact ho
  | refusedReplay _ _ hd | refused _ _ _ hd | unwritten _ _ _ hd | passedOn _ _ hd =>
      rwa [hd.keeps h.keeps]
  | recorded _ _ _ _ _ ha =>
      rw [log.get_set]
      exact ho.append ha

theorem Publication.load (h : bus.Over log) {command : Envelope C} {state state' : σ}
    {result : Except DomainError (Envelope C)}
    (hp : Publication bus log command state result state') (entity : Int64) :
    ∃ more, (log.get state').load entity = (log.get state).load entity ++ more ∧
      more.length ≤ 1 := by
  cases hp with
  | malformed | exhausted => exact ⟨[], (List.append_nil _).symm, Nat.zero_le 1⟩
  | refusedReplay _ _ hd | refused _ _ _ hd | unwritten _ _ _ hd | passedOn _ _ hd =>
      rw [hd.keeps h.keeps]
      exact ⟨[], (List.append_nil _).symm, Nat.zero_le 1⟩
  | recorded _ _ _ _ hs ha =>
      rw [log.get_set, CommandLog.load_of_append_ofCommand hs ha]
      split
      · exact ⟨_, rfl, Nat.le_refl 1⟩
      · exact ⟨[], (List.append_nil _).symm, Nat.zero_le 1⟩

/-- A history is handed out to its end only after each beginning of it. -/
theorem Redelivery.of_append {front rest : List StoredCommand} {state state' : σ}
    {result : Except DomainError Unit} (h : Redelivery bus (front ++ rest) state result state') :
    (∃ failure, result = .error failure ∧ Redelivery bus front state result state') ∨
      ∃ between, Redelivery bus front state (.ok ()) between ∧
        Redelivery bus rest between result state' := by
  induction front generalizing state with
  | nil => exact .inr ⟨state, .done state, h⟩
  | cons record front ih =>
      cases h with
      | unreadable _ hc => exact .inl ⟨_, rfl, .unreadable _ hc⟩
      | refused hc hd => exact .inl ⟨_, rfl, .refused hc hd⟩
      | onward hc hd hr =>
          rcases ih hr with ⟨failure, hf, hr⟩ | ⟨between, hfront, hrest⟩
          · exact .inl ⟨failure, hf, .onward hc hd hr⟩
          · exact .inr ⟨between, .onward hc hd hfront, hrest⟩

theorem Redelivery.keeps {τ : Type} {view : σ → τ}
    (h : ∀ subscriber ∈ bus.dispatcher.subscribers, subscriber.Keeps view)
    {history : List StoredCommand} {state state' : σ} {result : Except DomainError Unit}
    (hr : Redelivery bus history state result state') : view state' = view state := by
  induction hr with
  | done | unreadable => rfl
  | refused _ hd => exact hd.keeps h
  | onward _ hd _ ih => rw [ih, hd.keeps h]

theorem Replaying.keeps {τ : Type} {view : σ → τ}
    (h : ∀ subscriber ∈ bus.dispatcher.subscribers, subscriber.Keeps view) {entity : Int64}
    {state state' : σ} {result : Except DomainError Nat}
    (hr : Replaying bus log entity state result state') : view state' = view state := by
  cases hr with
  | malformed | nothing | disordered => rfl
  | walked _ _ hr => exact hr.keeps h

end CommandBus

end EventSourcing
