import EventSourcing.Proofs.Account.Agreement
import EventSourcing.Proofs.Replays

/-!
# What a replay hands out

The records of an entity are those of the commands that were accepted for it, one for one. A replay
hands these commands out again, each as it was but for being one of a replay.
-/

namespace EventSourcing

open EventSourcing.Sequential

/-- A command as a replay brings it back: it creates its entity if it is the first of it. -/
def Envelope.asReplayed {P : Type} (command : Envelope P) : Envelope P :=
  { command.intoReplay with entity := ⟨command.entity.id, command.sequenceNo = 1⟩ }

theorem Decoders.replayed_of_ofCommand {C : Type} [PayloadKind C] {command : Envelope C}
    {now : Instant} {record : StoredCommand}
    (hw : StoredCommand.ofCommand command now = .ok record) :
    replayed record command.payload = command.asReplayed := by
  obtain ⟨json, -, rfl⟩ := StoredCommand.exists_payload_of_ofCommand hw
  rfl

/-! ## Accepted commands and their records -/

namespace Branch

variable {σ : Type} {log : Cell σ CommandLog} {ι : Type}

section

variable {C : Type} [PayloadKind C]

/-- The commands for an entity that a call accepts: what a live publication gives back. -/
def acceptedBy (branches : ι → Branch log C) (entity : Int64) (s : Session σ) :
    Call (fun _ : ι => C) → List (Envelope C)
  | .publish i now command =>
    match (exec (((branches i).bus now).publish command) s).1 with
    | .ok published =>
      if command.isReplay = false ∧ command.entity.id = entity then [published] else []
    | .error _ => []
  | .replay .. => []

/-- The commands for an entity that some calls accept, one after the other. -/
def accepted (branches : ι → Branch log C) (entity : Int64) (s : Session σ) :
    List (Call fun _ : ι => C) → List (Envelope C)
  | [] => []
  | c :: calls => acceptedBy branches entity s c ++ accepted branches entity (call branches s c) calls

/-- Records are those of some commands, one for one; when they were recorded is left open. -/
def RecordsOf (records : List StoredCommand) (commands : List (Envelope C)) : Prop :=
  List.Forall₂ (fun record command => ∃ now, StoredCommand.ofCommand command now = .ok record)
    records commands

theorem RecordsOf.exists_of_mem {records : List StoredCommand} {commands : List (Envelope C)}
    (h : RecordsOf records commands) {record : StoredCommand} (hm : record ∈ records) :
    ∃ command ∈ commands, ∃ now, StoredCommand.ofCommand command now = .ok record := by
  induction h with
  | nil => cases hm
  | cons hr _ ih =>
      rcases List.mem_cons.1 hm with rfl | hm
      · exact ⟨_, List.mem_cons_self, hr⟩
      · obtain ⟨command, hc, hrecord⟩ := ih hm
        exact ⟨command, List.mem_cons_of_mem _ hc, hrecord⟩

theorem load_call (branches : ι → Branch log C) (entity : Int64) (s : Session σ)
    (c : Call fun _ : ι => C) :
    ∃ more, RecordsOf more (acceptedBy branches entity s c) ∧
      (log.get (call branches s c).state).load entity = (log.get s.state).load entity ++ more := by
  cases c with
  | replay i now other =>
      exact ⟨[], .nil, by rw [List.append_nil, call, log_of_replay]⟩
  | publish i now command =>
      have hp := publication branches i now command s
      simp only [acceptedBy, call]
      generalize (exec (((branches i).bus now).publish command) s).1 = result at hp ⊢
      generalize (exec (((branches i).bus now).publish command) s).2.state = state' at hp ⊢
      have hnone {state : σ} (hk : log.get state = log.get s.state) :
          ∃ more, RecordsOf more ([] : List (Envelope C)) ∧
            (log.get state).load entity = (log.get s.state).load entity ++ more :=
        ⟨[], .nil, by rw [List.append_nil, hk]⟩
      cases hp with
      | malformed | exhausted => exact hnone rfl
      | refusedReplay _ _ hd | refused _ _ _ hd | unwritten _ _ _ hd =>
          exact hnone (hd.keeps ((branches i).keeps now))
      | passedOn _ hr hd =>
          simp only [hr, Bool.true_eq_false, false_and, if_false]
          exact hnone (hd.keeps ((branches i).keeps now))
      | @recorded n record handed log' _ hr _ hd hw ha =>
          have hload : log'.load entity = if entity = command.entity.id then
              (log.get s.state).load entity ++ [record]
            else (log.get s.state).load entity := CommandLog.load_of_append_ofCommand hw ha entity
          rw [log.get_set, hload]
          simp only [hr, true_and]
          by_cases he : command.entity.id = entity
          · rw [if_pos he, if_pos he.symm]
            exact ⟨_, .cons ⟨now, hw⟩ .nil, rfl⟩
          · rw [if_neg he, if_neg (Ne.symm he)]
            exact ⟨[], .nil, (List.append_nil _).symm⟩

theorem valid_of_mem_acceptedBy {branches : ι → Branch log C} {entity : Int64} {s : Session σ}
    {c : Call fun _ : ι => C} {accepted : Envelope C}
    (h : accepted ∈ acceptedBy branches entity s c) :
    accepted.validate = .ok () ∧ accepted.entity.id = entity := by
  cases c with
  | replay => cases h
  | publish i now command =>
      have hp := publication branches i now command s
      simp only [acceptedBy] at h
      generalize (exec (((branches i).bus now).publish command) s).1 = result at hp h
      generalize (exec (((branches i).bus now).publish command) s).2.state = state' at hp
      cases hp with
      | malformed | exhausted | refusedReplay | refused | unwritten => cases h
      | passedOn _ hr => simp [hr] at h
      | recorded hv =>
          dsimp only at h
          obtain ⟨he, hm⟩ := List.mem_ite_nil_right.1 h
          obtain rfl := List.mem_singleton.1 hm
          exact ⟨hv, he.2⟩

/-- What is accepted for an entity is valid, and it is for this entity. -/
theorem valid_of_mem_accepted {branches : ι → Branch log C} {entity : Int64} {s : Session σ}
    {calls : List (Call fun _ : ι => C)} {command : Envelope C}
    (h : command ∈ accepted branches entity s calls) :
    command.validate = .ok () ∧ command.entity.id = entity := by
  induction calls generalizing s with
  | nil => cases h
  | cons c calls ih =>
      rcases List.mem_append.1 h with h | h
      · exact valid_of_mem_acceptedBy h
      · exact ih h

/-- Nothing is accepted for an entity without a valid id. -/
theorem accepted_of_malformed (branches : ι → Branch log C) {entity : Int64} {failure : DomainError}
    (hv : (EntityReference.existing entity).validate = .error failure) (s : Session σ)
    (calls : List (Call fun _ : ι => C)) : accepted branches entity s calls = [] := by
  refine List.eq_nil_iff_forall_not_mem.2 fun command hm => ?_
  obtain ⟨hok, rfl⟩ := valid_of_mem_accepted hm
  rw [EntityReference.validate_existing_iff.2 (Envelope.validate_entity hok)] at hv
  cases hv

theorem load_foldl (branches : ι → Branch log C) (entity : Int64) (calls : List (Call fun _ : ι => C))
    (s : Session σ) :
    ∃ more, RecordsOf more (accepted branches entity s calls) ∧
      (log.get (calls.foldl (call branches) s).state).load entity =
        (log.get s.state).load entity ++ more := by
  induction calls generalizing s with
  | nil => exact ⟨[], .nil, (List.append_nil _).symm⟩
  | cons c calls ih =>
      obtain ⟨more, hm, hl⟩ := load_call branches entity s c
      obtain ⟨rest, hr, hrest⟩ := ih (call branches s c)
      exact ⟨more ++ rest, List.rel_append hm hr, by
        rw [List.foldl_cons, hrest, hl, List.append_assoc]⟩

/-- The records of an entity are those of what was accepted for it. -/
theorem recordsOf_reached (branches : ι → Branch log C) (start : Session σ)
    (calls : List (Call fun _ : ι => C)) (entity : Int64) :
    RecordsOf ((log.get (reached branches start calls).state).load entity)
      (accepted branches entity { start with state := log.set {} start.state } calls) := by
  obtain ⟨records, hr, hl⟩ := load_foldl branches entity calls
    { start with state := log.set {} start.state }
  have hempty : (log.get (log.set {} start.state)).load entity = [] := by
    rw [log.get_set]
    rfl
  rw [reached, hl, hempty]
  exact hr

end

end Branch

/-! ## Replaying what was accepted -/

namespace Branch

theorem RecordsOf.decoded {C : Type} [PayloadKind C] {decoders : Decoders C}
    (h : decoders.ReadBack) {records : List StoredCommand} {commands : List (Envelope C)}
    (hr : RecordsOf records commands) :
    List.Forall₂ (fun record command => decoders.decodeStored record = .ok command) records
      (commands.map Envelope.asReplayed) := by
  rw [List.forall₂_map_right_iff]
  refine hr.imp fun record command => ?_
  rintro ⟨now, hw⟩
  rw [h.decodeStored_ofCommand hw, Decoders.replayed_of_ofCommand hw]

open Account (Command)

variable {σ : Type} {log : Cell σ CommandLog} {ι : Type}

theorem handsOutAll_of_replaying (branches : ι → Branch log Command) {i : ι}
    (hd : Account.Knows (branches i).decoders) {now : Instant} {entity : Int64}
    {records : List StoredCommand} {commands : List (Envelope Command)}
    (hr : RecordsOf records commands) (hg : CommandLog.Gapless entity records)
    (hvalid : ∀ failure, (EntityReference.existing entity).validate = .error failure →
      commands = [])
    {state state' : σ} (hl : (log.get state).load entity = records)
    {outcome : Except DomainError Nat}
    (h : CommandBus.Replaying ((branches i).bus now) log entity state outcome state') :
    ∃ result, ((branches i).bus now).HandsOutAll (commands.map Envelope.asReplayed) state result
        state' ∧
      (0 < entity.toInt → outcome = result.map fun _ => commands.length) := by
  have hlen : records.length = commands.length := hr.length_eq
  cases h with
  | malformed hv =>
      rw [hvalid _ hv]
      refine ⟨.ok (), .done _, fun hpos => ?_⟩
      rw [EntityReference.validate_eq_ok_iff.2 hpos] at hv
      cases hv
  | nothing _ hnone =>
      rw [← hl, hnone] at hlen
      rw [List.eq_nil_of_length_eq_zero hlen.symm]
      exact ⟨.ok (), .done _, fun _ => rfl⟩
  | disordered _ hc =>
      rw [hl, hg.checkHistory] at hc
      cases hc
  | @walked result _ _ _ hwalk =>
      rw [hl] at hwalk
      refine ⟨result, CommandBus.handsOutAll_of_redelivery (hr.decoded hd.readBack) hwalk, fun _ => ?_⟩
      rw [hl, hlen]

/-- Whatever the buses of a log were called for, a replay hands out what was accepted for the entity,
in order and up to the first command that a subscriber refuses: each command as it was, but for being
one of a replay and for creating its entity if its number is 1. A recorder among the subscribers takes
down just these commands. -/
theorem replay_hands_out_accepted (branches : ι → Branch log Command) (start : Session σ)
    (calls : List (Call fun _ : ι => Command)) (i : ι) (hd : Account.Knows (branches i).decoders)
    (now : Instant) (entity : Int64) :
    let s := reached branches start calls
    let commands := (accepted branches entity { start with state := log.set {} start.state }
      calls).map Envelope.asReplayed
    let bus := (branches i).bus now
    let replayed := exec (bus.replay entity) s
    (∀ command at_, ∃ record, StoredCommand.ofCommand command at_ = .ok record ∧
      bus.decoders.decodeStored record = .ok command.asReplayed) ∧
    ∃ result, bus.HandsOutAll commands s.state result replayed.2.state ∧
      (0 < entity.toInt → replayed.1 = result.map fun _ => commands.length) ∧
      ((∀ command ∈ commands, ∀ subscriber ∈ bus.dispatcher.subscribers, ∀ s,
        (exec (subscriber.handle command) s).1 = .ok ()) → result = .ok ()) ∧
      ∀ name tape before after,
        bus.dispatcher.subscribers = before ++ .recorder name tape :: after →
        (∀ other ∈ before ++ after, other.Keeps tape.get) →
        ∃ given, given <+: commands ∧
          tape.get replayed.2.state = tape.get s.state ++ given ∧
          (result = .ok () → given = commands) := by
  intro s commands bus replayed
  have hreplaying := CommandBus.replaying ((branches i).bus_over now)
    (yields_exec (bus.replay entity) s)
  obtain ⟨result, hall, hcount⟩ := handsOutAll_of_replaying branches hd
    (recordsOf_reached branches start calls entity) (ordered_reached branches start calls entity)
    (fun failure hv => accepted_of_malformed branches hv _ calls) rfl hreplaying
  refine ⟨fun command at_ => ⟨_, rfl, hd.decodeStored_entry command at_⟩, result, hall,
    fun hpos => ?_, hall.ok_of_accepting, fun name tape before after hs hk => hall.takenDown hs hk⟩
  rw [List.length_map]
  exact hcount hpos

/-- A branch with one subscriber, which takes every command down. -/
def recording :
    Branch (Cell.first : Cell (CommandLog × List (Envelope Command)) CommandLog) Command where
  dispatcher _ := ⟨.commands, [.recorder "commands" Cell.second]⟩
  decoders := Account.commandDecoders
  keeps _ subscriber hs := by
    rw [List.mem_singleton.1 hs]
    exact Subscriber.recorder_keeps _ fun _ _ => rfl

/-- Of an opening, a copy that comes from a replay and a deposit, two are accepted, and these a
replay hands out. -/
theorem replay_hands_out_two :
    let opening := Envelope.new (.fresh 1) (Command.create ⟨"Ada", 5⟩) (.new ⟨7⟩ Books.epoch)
    let deposit := Envelope.new (.existing 1) (Command.deposit ⟨2⟩) (.new ⟨8⟩ Books.epoch)
    let calls := [.publish () Books.epoch opening, .publish () Books.epoch opening.intoReplay,
      .publish () Books.epoch deposit]
    let s := reached (fun _ : Unit => recording) { state := ({}, []) } calls
    (exec ((recording.bus Books.epoch).replay 1) s).2.state.2 =
      s.state.2 ++ [(opening.atSequenceNo 1).asReplayed, (deposit.atSequenceNo 2).asReplayed] := by
  intro opening deposit calls s
  have haccepted : accepted (fun _ : Unit => recording) 1 { state := ({}, []) } calls =
      [opening.atSequenceNo 1, deposit.atSequenceNo 2] := by decide +kernel
  obtain ⟨-, result, -, -, haccepting, htape⟩ := replay_hands_out_accepted (fun _ : Unit => recording)
    { state := ({}, []) } calls () Account.knows_commandDecoders Books.epoch 1
  obtain ⟨given, -, htape, hall⟩ := htape "commands" Cell.second [] [] rfl nofun
  have hok : result = .ok () := haccepting fun command _ subscriber hs s => by
    rw [List.mem_singleton.1 hs]
    exact Subscriber.recorder_accepts _ _ command s
  rw [hall hok] at htape
  exact htape.trans
    (congrArg (fun commands => s.state.2 ++ commands.map Envelope.asReplayed) haccepted)

end Branch

end EventSourcing
