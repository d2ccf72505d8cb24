import EventSourcing.Proofs.Compensation
import EventSourcing.Proofs.Publishing
import Mathlib.Algebra.Group.Nat.Defs
import Mathlib.Data.List.Nodup

/-!
# Envelopes with ids of their own

The events of a command get ids that are drawn for them, one for each. Whatever a bus does, the
envelopes that come onto the tape of a recorder in the meantime have ids that were drawn in the
meantime.
-/

namespace EventSourcing

open EventSourcing.Sequential

/-! ## Ids that were drawn -/

namespace Uuid

theorem eq_and_eq_of_append_eq {m n : Nat} {x x' : BitVec m} {y y' : BitVec n}
    (h : x ++ y = x' ++ y') : x = x' ∧ y = y' := by
  have hy := congrArg (BitVec.setWidth n) h
  rw [BitVec.setWidth_append_eq_right, BitVec.setWidth_append_eq_right] at hy
  subst hy
  exact ⟨(BitVec.append_left_inj y).1 h, rfl⟩

/-- Of the bits of an identifier 122 are free, which hold the bits of its serial number. -/
theorem eq_of_ofSerial_eq {m n : Nat} (hm : m < 2 ^ 122) (hn : n < 2 ^ 122)
    (h : ofSerial m = ofSerial n) : m = n := by
  obtain ⟨h, hlow⟩ := eq_and_eq_of_append_eq (congrArg Uuid.value h)
  obtain ⟨hmiddle, -⟩ := eq_and_eq_of_append_eq h
  obtain ⟨h, hmiddle⟩ := eq_and_eq_of_append_eq hmiddle
  obtain ⟨hhigh, -⟩ := eq_and_eq_of_append_eq h
  replace hlow := congrArg BitVec.toNat hlow
  replace hmiddle := congrArg BitVec.toNat hmiddle
  replace hhigh := congrArg BitVec.toNat hhigh
  simp only [BitVec.toNat_ofNat, Nat.shiftRight_eq_div_pow] at hlow hmiddle hhigh
  omega

end Uuid

namespace IdSource

/-- No two of the ids that were drawn are equal. -/
def Distinct (source : IdSource) : Prop :=
  ∀ m n, m < source.drawn → n < source.drawn → source.nth m = source.nth n → m = n

/-- The same source later on; what was drawn is not taken back. -/
structure GoesOn (earlier later : IdSource) : Prop where
  nth_eq : later.nth = earlier.nth
  drawn_le : earlier.drawn ≤ later.drawn

theorem GoesOn.refl (source : IdSource) : source.GoesOn source := ⟨rfl, Nat.le_refl _⟩

theorem GoesOn.trans {a b c : IdSource} (h : a.GoesOn b) (h' : b.GoesOn c) : a.GoesOn c :=
  ⟨h'.nth_eq.trans h.nth_eq, Nat.le_trans h.drawn_le h'.drawn_le⟩

theorem goesOn_draw (source : IdSource) : source.GoesOn source.draw.2 := ⟨rfl, Nat.le_succ _⟩

/-- The ids that are drawn from a source in the meantime. -/
def between (earlier later : IdSource) : List Uuid :=
  (List.range' earlier.drawn (later.drawn - earlier.drawn)).map later.nth

theorem between_self (source : IdSource) : between source source = [] := by
  simp [between]

theorem between_draw (source : IdSource) : between source source.draw.2 = [source.draw.1] := by
  simp [between, draw]

theorem between_append {a b c : IdSource} (h : a.GoesOn b) (h' : b.GoesOn c) :
    between a b ++ between b c = between a c := by
  have hab := h.drawn_le
  have hbc := h'.drawn_le
  have hlast : c.drawn - a.drawn = (b.drawn - a.drawn) + (c.drawn - b.drawn) := by omega
  have hmiddle : b.drawn = a.drawn + 1 * (b.drawn - a.drawn) := by omega
  rw [between, between, between, h'.nth_eq, ← List.map_append, hlast, ← List.range'_append,
    ← hmiddle]

theorem Distinct.nodup_between {later : IdSource} (h : later.Distinct) (earlier : IdSource) :
    (between earlier later).Nodup := by
  refine List.Nodup.map_on (fun m hm n hn he => ?_) (List.nodup_range' ..)
  rw [List.mem_range'_1] at hm hn
  exact h m n (by omega) (by omega) he

/-- The ids are distinct as long as their serial numbers fit into the bits that are free. -/
theorem distinct_of_serial {source : IdSource} (hs : source.nth = Uuid.ofSerial)
    (hd : source.drawn ≤ 2 ^ 122) : source.Distinct := by
  intro m n hm hn he
  rw [hs] at he
  exact Uuid.eq_of_ofSerial_eq (by omega) (by omega) he

end IdSource

/-! ## Programs that only add to a tape -/

section

variable {σ α β P : Type} {tape : σ → List (Envelope P)}

/-- Between two sessions envelopes came onto a tape, with ids that were drawn in the meantime. -/
def Taped (tape : σ → List (Envelope P)) (s s' : Session σ) : Prop :=
  s.ids.GoesOn s'.ids ∧ ∃ more, tape s'.state = tape s.state ++ more ∧
    (more.map fun envelope => envelope.metadata.eventId).Sublist (s.ids.between s'.ids)

theorem Taped.of_kept {s s' : Session σ} (hi : s.ids.GoesOn s'.ids)
    (ht : tape s'.state = tape s.state) : Taped tape s s' :=
  ⟨hi, [], ht.trans (List.append_nil _).symm, List.nil_sublist _⟩

theorem Taped.trans {s s' s'' : Session σ} (h : Taped tape s s') (h' : Taped tape s' s'') :
    Taped tape s s'' := by
  obtain ⟨hi, more, ht, hm⟩ := h
  obtain ⟨hi', more', ht', hm'⟩ := h'
  refine ⟨hi.trans hi', more ++ more', by rw [ht', ht, List.append_assoc], ?_⟩
  rw [List.map_append, ← IdSource.between_append hi hi']
  exact hm.append hm'

/-- A program adds only such envelopes to a tape. -/
def Tapes (tape : σ → List (Envelope P)) (p : Sequential σ α) : Prop :=
  ∀ s, Taped tape s (runOn p s).2

namespace Tapes

theorem pure (a : α) : Tapes tape (Pure.pure a : Sequential σ α) :=
  fun _ => .of_kept (.refl _) rfl

theorem onState {f : σ → α × σ} (h : ∀ s, tape (f s).2 = tape s) :
    Tapes tape (Host.onState f : Sequential σ α) := fun s => .of_kept (.refl _) (h s.state)

theorem look {τ : Type} (cell : Cell σ τ) (f : τ → α) :
    Tapes tape (cell.look f : Sequential σ α) := onState fun _ => rfl

theorem visit {τ : Type} {cell : Cell σ τ} (h : ∀ v s, tape (cell.set v s) = tape s)
    (f : τ → α × τ) : Tapes tape (cell.visit f : Sequential σ α) := onState fun s => h _ s

theorem attempt {ε τ : Type} {cell : Cell σ τ} (h : ∀ v s, tape (cell.set v s) = tape s)
    (f : τ → Except ε (α × τ)) : Tapes tape (cell.attempt f : Sequential σ (Except ε α)) := by
  refine onState fun s => ?_
  split
  · exact h _ s
  · rfl

theorem emit (entry : Trace.Entry) : Tapes tape (Host.emit entry : Sequential σ Unit) :=
  fun _ => .of_kept (.refl _) rfl

theorem bind {p : Sequential σ α} {f : α → Sequential σ β} (hp : Tapes tape p)
    (hf : ∀ a, Tapes tape (f a)) : Tapes tape (p >>= f) := fun s => (hp s).trans (hf _ _)

theorem together {ps : List (Sequential σ α)} (hps : ∀ p ∈ ps, Tapes tape p) :
    Tapes tape (Host.together ps) := by
  induction ps with
  | nil => exact fun _ => .of_kept (.refl _) rfl
  | cons p ps ih =>
      intro s
      rw [runOn_together_cons]
      exact (hps p List.mem_cons_self s).trans (ih (fun q hq => hps q (List.mem_cons_of_mem _ hq)) _)

theorem andThen {p : Fallible (Sequential σ) α} {f : α → Fallible (Sequential σ) β}
    (hp : Tapes tape p.run) (hf : ∀ a, Tapes tape (f a).run) : Tapes tape (p >>= f).run := by
  intro s
  have hs := hp s
  simp only [runOn_run] at hs
  rw [runOn_run, exec_bind]
  rcases h : exec p s with ⟨failure | a, s'⟩
  · rwa [h] at hs
  · rw [h] at hs
    exact hs.trans (hf a s')

theorem settle (result : Except DomainError α) :
    Tapes tape (Host.settle result : Fallible (Sequential σ) α).run :=
  fun _ => .of_kept (.refl _) rfl

theorem note (entry : Trace.Entry) :
    Tapes tape (Host.note entry : Fallible (Sequential σ) Unit).run :=
  fun _ => .of_kept (.refl _) rfl

theorem sure {p : Sequential σ α} (h : Tapes tape p) : Tapes tape (Host.sure p).run := h

theorem tried {p : Fallible (Sequential σ) α} (h : Tapes tape p.run) :
    Tapes tape (Host.sure (Host.attempt p)).run := h

theorem during {span : Trace.Span} {p : Fallible (Sequential σ) α} (h : Tapes tape p.run) :
    Tapes tape (Host.during span p).run := fun s => h (s.tell (.opened span))

end Tapes

/-! ## Subscribers -/

def Subscriber.Tapes {Q : Type} (tape : σ → List (Envelope P))
    (subscriber : Subscriber (Sequential σ) Q) : Prop :=
  ∀ envelope, EventSourcing.Tapes tape (subscriber.handle envelope).run

/-- The source of ids stays the same and never goes back. -/
def Subscriber.Steady (subscriber : Subscriber (Sequential σ) P) : Prop :=
  ∀ envelope (s : Session σ), s.ids.GoesOn (exec (subscriber.handle envelope) s).2.ids

theorem Subscriber.recorder_steady (name : String) (received : Cell σ (List (Envelope P))) :
    (Subscriber.recorder name received : Subscriber (Sequential σ) P).Steady :=
  fun _ s => .refl s.ids

theorem Subscriber.Steady.tapes {Q : Type} {subscriber : Subscriber (Sequential σ) Q}
    (h : subscriber.Steady) (hk : subscriber.Keeps tape) : subscriber.Tapes tape :=
  fun envelope s => .of_kept (h envelope s) (hk envelope s)

variable {Q : Type} [PayloadKind Q]

theorem tapes_dispatch {dispatcher : Dispatcher (Sequential σ) Q}
    (h : ∀ subscriber ∈ dispatcher.subscribers, subscriber.Tapes tape) (envelope : Envelope Q) :
    Tapes tape (dispatcher.dispatch envelope).run := by
  unfold Dispatcher.dispatch
  split
  · exact .note _
  refine .andThen (.during (.sure (.together fun p hp => ?_))) fun _ => .settle _
  obtain ⟨subscriber, hs, rfl⟩ := List.mem_map.1 hp
  refine .bind (h subscriber hs envelope) fun result => ?_
  cases result with
  | ok => exact .pure _
  | error => exact .bind (.emit _) fun _ => .pure _

theorem tapes_publishAll {queue : EventQueue (Sequential σ) Q}
    (h : ∀ subscriber ∈ queue.dispatcher.subscribers, subscriber.Tapes tape) :
    ∀ events, Tapes tape (queue.publishAll events).run
  | [] => .settle (.ok ())
  | event :: events =>
    .andThen (.andThen (.settle _) fun _ => .andThen (.note _) fun _ => tapes_dispatch h event)
      fun _ => tapes_publishAll h events

end

/-! ## Events that are taken down -/

section

variable {σ C E S : Type} [PayloadKind C] [PayloadKind E] [Snapshot S]
  {tape : Cell σ (List (Envelope E))} {name : String}
  {before after : List (Subscriber (Sequential σ) E)}

omit [PayloadKind C] in
theorem ids_of_deriveEvents (command : Envelope C) (payloads : List E) (s : Session σ) :
    let derived := runOn (command.deriveEvents payloads : Sequential σ (List (Envelope E))) s
    s.ids.GoesOn derived.2.ids ∧
      derived.1.map (fun event => event.metadata.eventId) = s.ids.between derived.2.ids := by
  unfold Envelope.deriveEvents
  induction payloads generalizing s with
  | nil => exact ⟨.refl s.ids, s.ids.between_self.symm⟩
  | cons payload payloads ih =>
      rw [List.mapM_cons]
      simp only [runOn_bind, runOn_freshId, runOn_pure]
      obtain ⟨hon, hids⟩ := ih { s with ids := s.ids.draw.2 }
      refine ⟨s.ids.goesOn_draw.trans hon, ?_⟩
      rw [List.map_cons, hids, ← IdSource.between_append s.ids.goesOn_draw hon, IdSource.between_draw]
      rfl

namespace Saga

variable {saga : Saga (Sequential σ) C E S} {rule : Rule C E S} {table : Cell σ (SnapshotTable S)}

omit [PayloadKind C] [Snapshot S] in
/-- The events of a command come onto the tape with the ids that were drawn for them. -/
theorem taped_of_deriveEvents
    (hs : saga.events.dispatcher.subscribers = before ++ .recorder name tape :: after)
    (hk : ∀ other ∈ before ++ after, other.Keeps tape.get)
    (hsteady : ∀ subscriber ∈ saga.events.dispatcher.subscribers, subscriber.Steady)
    (command : Envelope C) (payloads : List E) (s : Session σ) :
    let derived := runOn (command.deriveEvents payloads : Sequential σ (List (Envelope E))) s
    Taped tape.get s (exec (saga.events.publishAll derived.1) derived.2).2 := by
  intro derived
  have hsilent : Tapes (fun _ => ([] : List (Envelope E))) (saga.events.publishAll derived.1).run :=
    tapes_publishAll (fun subscriber hm => (hsteady subscriber hm).tapes fun _ _ => rfl) _
  obtain ⟨hon, hids⟩ := ids_of_deriveEvents command payloads s
  have hstate := (command.derived_deriveEvents payloads s).2
  have hon' := (hsilent derived.2).1
  obtain ⟨given, hg, ht, -⟩ := EventQueue.taken_of_publishAll hs hk
    (yields_exec (saga.events.publishAll derived.1) derived.2)
  refine ⟨hon.trans hon', given, ht.trans (by rw [hstate]), ?_⟩
  rw [runOn_run] at hon'
  rw [← IdSource.between_append hon hon', ← hids]
  exact (hg.sublist.map _).trans (List.sublist_append_left _ _)

omit [PayloadKind C] [PayloadKind E] in
theorem tapes_restore (h : saga.Over rule table)
    (ht : ∀ v s, tape.get (table.set v s) = tape.get s) (previous : Option S) (persisted : S) :
    Tapes tape.get (saga.restore previous persisted) := by
  unfold restore
  rw [h.snapshots]
  refine .bind ?_ fun result => ?_
  · cases previous with
    | none => exact .andThen (.sure (.attempt ht _)) fun _ => .settle _
    | some previous => exact .andThen (.sure (.visit ht _)) fun _ => .settle (.ok ())
  · cases result with
    | ok => exact .pure _
    | error => exact .emit _

theorem tapes_apply (h : saga.Over rule table)
    (ht : ∀ v s, tape.get (table.set v s) = tape.get s)
    (hs : saga.events.dispatcher.subscribers = before ++ .recorder name tape :: after)
    (hk : ∀ other ∈ before ++ after, other.Keeps tape.get)
    (hsteady : ∀ subscriber ∈ saga.events.dispatcher.subscribers, subscriber.Steady)
    (current : Option S) (command : Envelope C) (outcome : Outcome S E) :
    Tapes tape.get (saga.apply current command outcome).run := by
  unfold apply
  rw [h.snapshots]
  refine .andThen (.sure (.visit ht _)) fun persisted s => ?_
  -- Drawing ids and publishing go together: the publishing by itself draws no id that it puts down.
  rw [runOn_run, exec_bind, exec_sure]
  simp only [exec_bind, exec_sure, runOn_attemptThis]
  refine (taped_of_deriveEvents hs hk hsteady command outcome.events s).trans ?_
  split
  · exact Tapes.andThen (.sure (tapes_restore h ht current persisted)) (fun _ => .settle _) _
  · exact Tapes.note _ _

theorem tapes_subscriber (h : saga.Over rule table)
    (ht : ∀ v s, tape.get (table.set v s) = tape.get s)
    (hs : saga.events.dispatcher.subscribers = before ++ .recorder name tape :: after)
    (hk : ∀ other ∈ before ++ after, other.Keeps tape.get)
    (hsteady : ∀ subscriber ∈ saga.events.dispatcher.subscribers, subscriber.Steady) :
    saga.subscriber.Tapes tape.get := by
  intro command
  unfold subscriber handle
  simp only
  split
  · rw [h.snapshots, h.decide]
    refine .andThen (.sure (.look _ _)) fun current => ?_
    split
    · exact .note _
    refine .andThen (.sure (.pure _)) fun decision => ?_
    split
    · exact .andThen (.note _) fun _ => .settle _
    · exact tapes_apply h ht hs hk hsteady _ _ _
  · exact .settle (.ok ())

end Saga

end

/-! ## The bus -/

namespace CommandBus

variable {σ C P : Type} [PayloadKind C] {tape : σ → List (Envelope P)}
  {bus : CommandBus (Sequential σ) C} {log : Cell σ CommandLog}

theorem tapes_submit
    (hs : ∀ subscriber ∈ bus.dispatcher.subscribers, subscriber.Tapes tape) (command : Envelope C) :
    Tapes tape (bus.submit command).run := by
  refine .andThen (.tried (tapes_dispatch hs command)) fun result => ?_
  cases result with
  | ok => exact .settle (.ok ())
  | error failure => exact .andThen (.note _) fun _ => .settle (.error failure)

theorem tapes_publishAlone (h : bus.Over log) (ht : ∀ l s, tape (log.set l s) = tape s)
    (hs : ∀ subscriber ∈ bus.dispatcher.subscribers, subscriber.Tapes tape)
    (command : Envelope C) : Tapes tape (bus.publishAlone command).run := by
  refine .andThen ?_ fun numbered => .andThen (.note _) fun _ =>
    .andThen (tapes_submit hs numbered) fun _ => .andThen ?_ fun _ =>
    .andThen (.note _) fun _ => .settle (.ok numbered)
  · unfold CommandBus.numbered
    split
    · exact .settle (.ok command)
    · rw [h.store]
      refine .andThen (.andThen (.sure (.look _ _)) fun next => ?_) fun _ => .settle (.ok _)
      split
      · exact .settle (.ok _)
      · exact .settle (.error _)
  · unfold CommandBus.record
    split
    · exact .settle (.ok ())
    · rw [h.store]
      exact .andThen (.settle _) fun _ =>
        .andThen (.sure (.attempt ht _)) fun _ => .andThen (.settle _) fun _ => .note _

theorem tapes_publish (h : bus.Over log) (ht : ∀ l s, tape (log.set l s) = tape s)
    (hs : ∀ subscriber ∈ bus.dispatcher.subscribers, subscriber.Tapes tape)
    (command : Envelope C) : Tapes tape (bus.publish command).run := by
  unfold publish
  rw [h.gate]
  exact .andThen (.settle _) fun _ => .during (tapes_publishAlone h ht hs command)

theorem tapes_redeliver
    (hs : ∀ subscriber ∈ bus.dispatcher.subscribers, subscriber.Tapes tape)
    (history : List StoredCommand) : Tapes tape (bus.redeliver history).run := by
  induction history with
  | nil => exact .settle (.ok ())
  | cons record history ih =>
      refine .andThen (.settle _) fun command => .andThen (.note _) fun _ =>
        .andThen (.tried (tapes_dispatch hs command)) fun result => ?_
      cases result with
      | ok => exact ih
      | error failure => exact .andThen (.note _) fun _ => .settle (.error failure)

theorem tapes_replay (h : bus.Over log)
    (hs : ∀ subscriber ∈ bus.dispatcher.subscribers, subscriber.Tapes tape)
    (entity : Int64) : Tapes tape (bus.replay entity).run := by
  unfold replay
  rw [h.gate]
  refine .andThen (.settle _) fun _ => .during ?_
  change Tapes tape (bus.replayAlone entity).run
  unfold replayAlone
  rw [h.store]
  refine .andThen (.sure (.look _ _)) fun history => ?_
  split
  · exact .andThen (.note _) fun _ => .settle (.ok 0)
  split
  · exact .settle (.error _)
  · exact .andThen (tapes_redeliver hs history) fun _ => .andThen (.note _) fun _ =>
      .andThen (.note _) fun _ => .settle (.ok _)

end CommandBus

end EventSourcing
