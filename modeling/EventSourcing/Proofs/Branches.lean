import EventSourcing.Proofs.Publishing

/-!
# Buses that share a log

Any number of buses may write one log, each with payloads, subscribers and decoders of its own. As
long as the calls come one after the other, every stream of the log stays without a gap, and a stream
grows by what was published live without a failure, and by nothing else.
-/

namespace EventSourcing

open EventSourcing.Sequential

/-! ## Branches -/

/-- A bus among those that share a log. What its subscribers do may depend on the time, but they
leave the log alone. -/
structure Branch {σ : Type} (log : Cell σ CommandLog) (C : Type) where
  dispatcher : Instant → Dispatcher (Sequential σ) C
  decoders : Decoders C
  keeps : ∀ now, ∀ subscriber ∈ (dispatcher now).subscribers, subscriber.Keeps log.get

namespace Branch

/-- A call to one of several buses, at a time. -/
inductive Call {ι : Type} (C : ι → Type) where
  | publish (i : ι) (now : Instant) (command : Envelope (C i))
  | replay (i : ι) (now : Instant) (entity : Int64)

variable {σ : Type} {log : Cell σ CommandLog}

def bus {C : Type} (branch : Branch log C) (now : Instant) : CommandBus (Sequential σ) C where
  store := CommandLog.store log
  dispatcher := branch.dispatcher now
  decoders := branch.decoders
  now := now
  gate := Gate.opened (Sequential σ)

theorem bus_over {C : Type} (branch : Branch log C) (now : Instant) :
    (branch.bus now).Over log := ⟨rfl, rfl, branch.keeps now⟩

variable {ι : Type} {C : ι → Type} [∀ i, PayloadKind (C i)]

def call (branches : ∀ i, Branch log (C i)) (s : Session σ) : Call C → Session σ
  | .publish i now command => (exec (((branches i).bus now).publish command) s).2
  | .replay i now entity => (exec (((branches i).bus now).replay entity) s).2

/-- The session after some calls, one after the other, on a log that was empty. -/
def reached (branches : ∀ i, Branch log (C i)) (start : Session σ) (calls : List (Call C)) :
    Session σ :=
  calls.foldl (call branches) { start with state := log.set {} start.state }

end Branch

namespace CommandBus

variable {σ C : Type} [PayloadKind C] {bus : CommandBus (Sequential σ) C} {log : Cell σ CommandLog}

/-! ## What a call does to the log -/

/-- A live command is on record: it has the next number of its entity, all subscribers were given it
as it is, and it is the one record that is new. -/
structure OnRecord (bus : CommandBus (Sequential σ) C) (log : Cell σ CommandLog)
    (command : Envelope C) (state : σ) (numbered : Envelope C) (state' : σ) : Prop where
  stamped : numbered = command.atSequenceNo numbered.sequenceNo
  next : numbered.sequenceNo.toInt = ((log.get state).load numbered.entity.id).length + 1
  served : ∃ handed, Served numbered bus.dispatcher.subscribers state handed ∧
    state' = log.set (log.get state') handed
  added : ∃ record, StoredCommand.ofCommand numbered bus.now = .ok record ∧
    ∀ entity, (log.get state').load entity =
      if entity = numbered.entity.id then (log.get state).load entity ++ [record]
      else (log.get state).load entity

structure Accounted (bus : CommandBus (Sequential σ) C) (log : Cell σ CommandLog)
    (command : Envelope C) (state : σ) (result : Except DomainError (Envelope C)) (state' : σ) :
    Prop where
  recorded : ∀ numbered, command.isReplay = false → result = .ok numbered →
    bus.OnRecord log command state numbered state'
  /-- A replay and a failure leave nothing behind. -/
  unchanged : command.isReplay = true ∨ (∃ failure, result = .error failure) →
    log.get state' = log.get state
  /-- A live command fails before it is handed out, in the hands of the subscribers, or because its
  payload cannot be written; the log takes every record that is appended. -/
  failed : ∀ failure, command.isReplay = false → result = .error failure →
    command.validate = .error failure ∨
      ((log.get state).nextSequenceNo? command.entity.id = none ∧
        failure = .store (exhaustedText command.entity.id)) ∨
      ∃ n, (log.get state).nextSequenceNo? command.entity.id = some n ∧
        (bus.HandsOut (command.atSequenceNo n) state (.error failure) state' ∨
          (bus.HandsOut (command.atSequenceNo n) state (.ok ()) state' ∧
            StoredCommand.ofCommand (command.atSequenceNo n) bus.now = .error failure))

theorem Publication.accounted (h : bus.Over log) {command : Envelope C} {state state' : σ}
    {result : Except DomainError (Envelope C)} (ho : (log.get state).Ordered)
    (hp : Publication bus log command state result state') :
    bus.Accounted log command state result state' := by
  cases hp with
  | malformed hv =>
      refine ⟨fun _ _ hf => (by cases hf), fun _ => rfl, fun _ _ hf => .inl ?_⟩
      rw [hv, ← Except.error.inj hf]
  | exhausted hv hr hn =>
      exact ⟨fun _ _ hf => (by cases hf), fun _ => rfl,
        fun _ _ hf => .inr (.inl ⟨hn, (Except.error.inj hf).symm⟩)⟩
  | refusedReplay hv hr hd =>
      refine ⟨fun _ _ hf => (by cases hf), fun _ => hd.keeps h.keeps, fun _ hl => ?_⟩
      rw [hr] at hl
      cases hl
  | refused hv hr hn hd =>
      refine ⟨fun _ _ hf => (by cases hf), fun _ => hd.keeps h.keeps, fun _ _ hf => .inr (.inr ?_)⟩
      cases hf
      exact ⟨_, hn, .inl hd⟩
  | unwritten hv hr hn hd hs =>
      refine ⟨fun _ _ hf => (by cases hf), fun _ => hd.keeps h.keeps, fun _ _ hf => .inr (.inr ?_)⟩
      cases hf
      exact ⟨_, hn, .inr ⟨hd, hs⟩⟩
  | passedOn hv hr hd =>
      refine ⟨fun _ hl => ?_, fun _ => hd.keeps h.keeps, fun _ _ hf => (by cases hf)⟩
      rw [hr] at hl
      cases hl
  | @recorded n record handed log' hv hr hn hd hs ha =>
      refine ⟨fun _ _ hc => ?_, fun hs => ?_, fun _ _ hf => (by cases hf)⟩
      · cases hc
        refine ⟨rfl, ho.nextSequenceNo?_eq_some_iff.1 hn,
          ⟨handed, Dispatcher.served_of_dispatch hd, by rw [log.get_set]⟩, record, hs,
          fun entity => ?_⟩
        rw [log.get_set]
        exact CommandLog.load_of_append_ofCommand hs ha entity
      · rcases hs with hs | ⟨_, hs⟩
        · rw [hr] at hs
          cases hs
        · cases hs

end CommandBus

/-! ## What some calls do to the log -/

namespace Branch

variable {σ : Type} {log : Cell σ CommandLog} {ι : Type} {C : ι → Type} [∀ i, PayloadKind (C i)]

theorem publication (branches : ∀ i, Branch log (C i)) (i : ι) (now : Instant)
    (command : Envelope (C i)) (s : Session σ) :
    CommandBus.Publication ((branches i).bus now) log command s.state
      (exec (((branches i).bus now).publish command) s).1
      (exec (((branches i).bus now).publish command) s).2.state :=
  CommandBus.publication ((branches i).bus_over now) (yields_exec _ s)

theorem log_of_replay (branches : ∀ i, Branch log (C i)) (i : ι) (now : Instant) (entity : Int64)
    (s : Session σ) :
    log.get (exec (((branches i).bus now).replay entity) s).2.state = log.get s.state :=
  (CommandBus.replaying ((branches i).bus_over now) (yields_exec _ s)).keeps ((branches i).keeps now)

theorem ordered_call (branches : ∀ i, Branch log (C i)) {s : Session σ}
    (h : (log.get s.state).Ordered) (c : Call C) :
    (log.get (call branches s c).state).Ordered := by
  cases c with
  | publish i now command =>
      exact (publication branches i now command s).ordered ((branches i).bus_over now) h
  | replay i now entity =>
      rw [call, log_of_replay]
      exact h

theorem ordered_foldl (branches : ∀ i, Branch log (C i)) (calls : List (Call C)) {s : Session σ}
    (h : (log.get s.state).Ordered) : (log.get (calls.foldl (call branches) s).state).Ordered := by
  induction calls generalizing s with
  | nil => exact h
  | cons c calls ih => exact ih (ordered_call branches h c)

theorem ordered_reached (branches : ∀ i, Branch log (C i)) (start : Session σ)
    (calls : List (Call C)) : (log.get (reached branches start calls).state).Ordered := by
  refine ordered_foldl branches calls ?_
  rw [log.get_set]
  exact CommandLog.ordered_empty

/-- Whatever the buses were called for, all streams are without a gap, a publication adds what it is
accounted for, and a replay adds nothing. -/
theorem streams_of_reached (branches : ∀ i, Branch log (C i)) (start : Session σ)
    (calls : List (Call C)) :
    (log.get (reached branches start calls).state).Ordered ∧
      (∀ i now command, CommandBus.Accounted ((branches i).bus now) log command
        (reached branches start calls).state
        (exec (((branches i).bus now).publish command) (reached branches start calls)).1
        (exec (((branches i).bus now).publish command) (reached branches start calls)).2.state) ∧
      ∀ i now entity,
        log.get (exec (((branches i).bus now).replay entity)
          (reached branches start calls)).2.state =
          log.get (reached branches start calls).state := by
  have ho := ordered_reached branches start calls
  exact ⟨ho, fun i now command =>
    (publication branches i now command _).accounted ((branches i).bus_over now) ho,
    fun i now entity => log_of_replay branches i now entity _⟩

/-- Commands that have no form as JSON. -/
inductive Mute where
  | nod

instance : PayloadKind Mute where
  typeName _ := "mute.nod"
  payloadJson _ := written (.error "no form")

/-- A bus for such commands, with a subscriber that takes them all down. -/
def nods : Branch (σ := CommandLog × List (Envelope Mute)) Cell.first Mute where
  dispatcher _ := ⟨.commands, [.recorder "all" Cell.second]⟩
  decoders := {}
  keeps _ := List.forall_mem_singleton.2 fun _ _ => rfl

/-- What comes of a nod. -/
def nodded : Except DomainError (Envelope Mute) × Session (CommandLog × List (Envelope Mute)) :=
  exec ((nods.bus .epoch).publish (Envelope.new (.fresh 1) .nod (.new ⟨7⟩ .epoch)))
    { state := ({}, []) }

/-- A command that cannot be written fails after it was handed out, and there is no record of it. -/
example : nodded.1 = .error (.store "payload serialization failed: no form") ∧
    nodded.2.state.1.load 1 = [] ∧ nodded.2.state.2.length = 1 := by
  refine ⟨rfl, ?_, ?_⟩ <;> decide +kernel

end Branch

end EventSourcing
