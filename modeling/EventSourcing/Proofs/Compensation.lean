import EventSourcing.Proofs.Delivery
import EventSourcing.Saga
import EventSourcing.Store.SnapshotTable
import Mathlib.Data.List.Forall2

/-!
# Sagas over a table

The ways in which a saga can be done with a command, for a saga that follows a rule and keeps its
snapshots in a table. A snapshot is stored before its events are published; if they do not get
through, what is put back leaves the table as it was.
-/

namespace EventSourcing

open EventSourcing.Sequential

/-! ## Storing and putting back -/

theorem Snapshot.id?_stamped {S : Type} [Snapshot S] (entity version : Int64) (s : S) :
    id? (stamped entity version s) = some ((id? s).getD entity) := by
  rw [stamped, id?_withVersion, withDefaultId]
  split
  · rename_i id hid
    rw [hid]
    rfl
  · rename_i hid
    rw [id?_withId, hid]
    rfl

namespace SnapshotTable

variable {S : Type} [Snapshot S] {table table' : SnapshotTable S}

theorem persist_of_id? (table : SnapshotTable S) {s : S} {id : Int64}
    (h : Snapshot.id? s = some id) : ∃ table', table.persist s = (s, table') := by
  unfold persist
  rw [h]
  exact ⟨_, rfl⟩

theorem delete_of_find {s found : S} {id : Int64} (h : Snapshot.id? s = some id)
    (hf : table.find id = some found) : ∃ table', table.delete s = .ok table' := by
  unfold find at hf
  simp only [delete, h, hf]
  exact ⟨_, rfl⟩

/-- Puts back what was there before a snapshot was stored. -/
def putBack (table : SnapshotTable S) (previous : Option S) (persisted : S) :
    Except SnapshotFault (SnapshotTable S) :=
  match previous with
  | some previous => .ok (table.persist previous).2
  | none => table.delete persisted

/-- With what was there before put back, the same is found as before, under every id. -/
theorem find_of_putBack {stored : S} {id : Int64} (hi : Snapshot.id? stored = some id)
    (hp : table.persist stored = (stored, table'))
    (hf : ∀ previous, table.find id = some previous → Snapshot.id? previous = some id) :
    ∃ table'', table'.putBack (table.find id) stored = .ok table'' ∧
      ∀ key, table''.find key = table.find key := by
  -- Where nothing was, the new snapshot is deleted; where something was, it is stored over it.
  cases hprev : table.find id with
  | none =>
      have hthere : table'.find id = some stored := by
        rw [find_of_persist hp, if_pos hi]
      obtain ⟨table'', hd⟩ := delete_of_find hi hthere
      refine ⟨table'', hd, fun key => ?_⟩
      simp only [find_of_delete hd, find_of_persist hp, hi, Option.some.injEq]
      split
      · rename_i he
        rw [← he, hprev]
      · rfl
  | some previous =>
      have hid := hf previous hprev
      obtain ⟨table'', ha⟩ := table'.persist_of_id? hid
      refine ⟨table'', by rw [putBack, ha], fun key => ?_⟩
      simp only [find_of_persist ha, find_of_persist hp, hi, hid, Option.some.injEq]
      split
      · rename_i he
        rw [← he, hprev]
      · rfl

/-! ## The store over a table -/

variable {σ : Type} {cell : Cell σ (SnapshotTable S)} {state state' : σ}

theorem yields_find {id : Int64} {result : Except DomainError (Option S)}
    (h : Yields ((store cell).find id) state result state') :
    result = .ok ((cell.get state).find id) ∧ state' = state := by
  obtain ⟨s, rfl, rfl, rfl⟩ := h.of_sure
  exact ⟨rfl, rfl⟩

theorem yields_persist {s : S} {table' : SnapshotTable S} {result : Except DomainError S}
    (hp : (cell.get state).persist s = (s, table'))
    (h : Yields ((store cell).persist s) state result state') :
    result = .ok s ∧ state' = cell.set table' state := by
  obtain ⟨t, rfl, rfl, rfl⟩ := h.of_sure
  simp only [runOn_visit, hp, and_self]

end SnapshotTable

/-! ## Events that follow from a command -/

namespace Envelope

variable {σ C E : Type} [PayloadKind E]

/-- Events follow from a command for some payloads, in order; their ids are left open. -/
def Derived (command : Envelope C) (payloads : List E) (events : List (Envelope E)) : Prop :=
  List.Forall₂ (fun payload event => ∃ id, event = command.deriveEvent payload id) payloads events

theorem derived_deriveEvents (command : Envelope C) (payloads : List E) (s : Session σ) :
    command.Derived payloads
        (runOn (command.deriveEvents payloads : Sequential σ (List (Envelope E))) s).1 ∧
      (runOn (command.deriveEvents payloads : Sequential σ (List (Envelope E))) s).2.state =
        s.state := by
  unfold deriveEvents
  induction payloads generalizing s with
  | nil => exact ⟨.nil, rfl⟩
  | cons payload payloads ih =>
      rw [List.mapM_cons]
      simp only [runOn_bind, runOn_freshId, runOn_pure]
      obtain ⟨hd, hs⟩ := ih { s with ids := s.ids.draw.2 }
      exact ⟨.cons ⟨_, rfl⟩ hd, hs⟩

end Envelope

/-! ## Handling a command -/

namespace Saga

variable {σ C E S : Type} [PayloadKind C] [PayloadKind E] [Snapshot S]

abbrev Rule (C E S : Type) : Type := Option S → Envelope C → Except DomainError (Outcome S E)

structure Over (saga : Saga (Sequential σ) C E S) (rule : Rule C E S)
    (table : Cell σ (SnapshotTable S)) : Prop where
  decide : saga.decide = fun current command => pure (rule current command)
  snapshots : saga.snapshots = SnapshotTable.store table

/-- The state in which a saga has put back what was there before, if that is possible. -/
def restored (table : Cell σ (SnapshotTable S)) (previous : Option S) (persisted : S) (state : σ) :
    σ :=
  match (table.get state).putBack previous persisted with
  | .ok table' => table.set table' state
  | .error _ => state

omit [PayloadKind C] [PayloadKind E] in
theorem restored_of_putBack {table : Cell σ (SnapshotTable S)} {previous : Option S} {persisted : S}
    {state : σ} {table' : SnapshotTable S}
    (h : (table.get state).putBack previous persisted = .ok table') :
    restored table previous persisted state = table.set table' state := by
  rw [restored, h]

/-- How a saga can be done with a command in a state: with which result, in which state. -/
inductive Handling (saga : Saga (Sequential σ) C E S) (rule : Rule C E S)
    (table : Cell σ (SnapshotTable S)) (command : Envelope C) (state : σ) :
    Except DomainError Unit → σ → Prop
  | ignored (hh : saga.handles command.payloadType = false) :
      Handling saga rule table command state (.ok ()) state
  | skipped (hr : reflects ((table.get state).find command.entity.id) command = true) :
      Handling saga rule table command state (.ok ()) state
  | refused {refusal : DomainError}
      (hr : reflects ((table.get state).find command.entity.id) command = false)
      (hd : rule ((table.get state).find command.entity.id) command = .error refusal) :
      Handling saga rule table command state (.error refusal) state
  | undone {outcome : Outcome S E} {table' : SnapshotTable S} {events : List (Envelope E)}
      {failure : DomainError} {between : σ}
      (hr : reflects ((table.get state).find command.entity.id) command = false)
      (hd : rule ((table.get state).find command.entity.id) command = .ok outcome)
      (hp : (table.get state).persist
          (Snapshot.stamped command.entity.id command.sequenceNo outcome.snapshot) =
        (Snapshot.stamped command.entity.id command.sequenceNo outcome.snapshot, table'))
      (he : command.Derived outcome.events events)
      (hy : Yields (saga.events.publishAll events) (table.set table' state) (.error failure)
        between) :
      Handling saga rule table command state (.error failure)
        (restored table ((table.get state).find command.entity.id)
          (Snapshot.stamped command.entity.id command.sequenceNo outcome.snapshot) between)
  | applied {outcome : Outcome S E} {table' : SnapshotTable S} {events : List (Envelope E)}
      {state' : σ}
      (hh : saga.handles command.payloadType = true)
      (hr : reflects ((table.get state).find command.entity.id) command = false)
      (hd : rule ((table.get state).find command.entity.id) command = .ok outcome)
      (hp : (table.get state).persist
          (Snapshot.stamped command.entity.id command.sequenceNo outcome.snapshot) =
        (Snapshot.stamped command.entity.id command.sequenceNo outcome.snapshot, table'))
      (he : command.Derived outcome.events events)
      (hy : Yields (saga.events.publishAll events) (table.set table' state) (.ok ()) state') :
      Handling saga rule table command state (.ok ()) state'

variable {saga : Saga (Sequential σ) C E S} {rule : Rule C E S} {table : Cell σ (SnapshotTable S)}

omit [PayloadKind C] [PayloadKind E] in
theorem state_restore (h : saga.snapshots = SnapshotTable.store table) (previous : Option S)
    (persisted : S) (s : Session σ) :
    (runOn (saga.restore previous persisted) s).2.state =
      restored table previous persisted s.state := by
  cases previous with
  | none =>
      simp only [restore, h, SnapshotTable.store, runOn_bind, runOn_attemptThis, exec_bind, exec_sure,
        runOn_attempt, restored, SnapshotTable.putBack]
      cases hd : (table.get s.state).delete persisted <;> rfl
  | some previous =>
      simp only [restore, h, SnapshotTable.store, runOn_bind, runOn_attemptThis, exec_bind, exec_sure,
        runOn_visit, restored, SnapshotTable.putBack]
      rfl

/-- How a saga can be done with an outcome that it accepted in a state: its events get through, or
what was there before is put back. -/
inductive Application (saga : Saga (Sequential σ) C E S) (table : Cell σ (SnapshotTable S))
    (command : Envelope C) (outcome : Outcome S E) (state : σ) : Except DomainError Unit → σ → Prop
  | undone {table' : SnapshotTable S} {events : List (Envelope E)} {failure : DomainError}
      {between : σ}
      (hp : (table.get state).persist
          (Snapshot.stamped command.entity.id command.sequenceNo outcome.snapshot) =
        (Snapshot.stamped command.entity.id command.sequenceNo outcome.snapshot, table'))
      (he : command.Derived outcome.events events)
      (hy : Yields (saga.events.publishAll events) (table.set table' state) (.error failure)
        between) :
      Application saga table command outcome state (.error failure)
        (restored table ((table.get state).find command.entity.id)
          (Snapshot.stamped command.entity.id command.sequenceNo outcome.snapshot) between)
  | applied {table' : SnapshotTable S} {events : List (Envelope E)} {state' : σ}
      (hp : (table.get state).persist
          (Snapshot.stamped command.entity.id command.sequenceNo outcome.snapshot) =
        (Snapshot.stamped command.entity.id command.sequenceNo outcome.snapshot, table'))
      (he : command.Derived outcome.events events)
      (hy : Yields (saga.events.publishAll events) (table.set table' state) (.ok ()) state') :
      Application saga table command outcome state (.ok ()) state'

theorem application (h : saga.snapshots = SnapshotTable.store table) {command : Envelope C}
    {state state' : σ} {outcome : Outcome S E} {result : Except DomainError Unit}
    (hy : Yields (saga.apply ((table.get state).find command.entity.id) command outcome) state result
      state') :
    Application saga table command outcome state result state' := by
  -- A stamped snapshot has an id, so that the table takes it.
  obtain ⟨table', hp⟩ := (table.get state).persist_of_id?
    (Snapshot.id?_stamped command.entity.id command.sequenceNo outcome.snapshot)
  unfold apply at hy
  rw [h] at hy
  rcases hy.of_bind with ⟨_, rfl, hs⟩ | ⟨stored, _, hs, hy⟩
  · cases (SnapshotTable.yields_persist hp hs).1
  obtain ⟨hok, rfl⟩ := SnapshotTable.yields_persist hp hs
  obtain rfl := Except.ok.inj hok
  obtain ⟨s, hstart, hy⟩ := hy.of_sure_bind
  obtain ⟨hevents, hstate⟩ := command.derived_deriveEvents outcome.events s
  rw [hstate, hstart] at hy
  obtain ⟨published, between, hpub, hy⟩ := hy.of_attempt_bind
  cases published with
  | ok =>
      obtain ⟨rfl, rfl⟩ := yields_note.1 hy
      exact .applied hp hevents hpub
  | error failure =>
      obtain ⟨t, rfl, ht⟩ := hy.of_sure_bind
      obtain ⟨rfl, rfl⟩ := yields_throw.1 ht
      rw [state_restore h]
      exact .undone hp hevents hpub

theorem handling (h : saga.Over rule table) {command : Envelope C} {state state' : σ}
    {result : Except DomainError Unit} (hy : Yields (saga.handle command) state result state') :
    Handling saga rule table command state result state' := by
  unfold handle at hy
  split at hy
  · rename_i hh
    rw [h.snapshots] at hy
    rcases hy.of_bind with ⟨_, -, hf⟩ | ⟨current, _, hf, hy⟩
    · cases (SnapshotTable.yields_find hf).1
    obtain ⟨hc, rfl⟩ := SnapshotTable.yields_find hf
    obtain rfl := Except.ok.inj hc
    split at hy
    · rename_i hr
      obtain ⟨rfl, rfl⟩ := yields_note.1 hy
      exact .skipped hr
    rename_i hr
    rw [Bool.not_eq_true] at hr
    rw [h.decide] at hy
    obtain ⟨_, rfl, hdecided⟩ := hy.of_sure_bind
    simp only [runOn_pure] at hdecided
    split at hdecided
    · rename_i refusal hd
      obtain ⟨rfl, rfl⟩ := yields_throw.1 hdecided.of_note
      exact .refused hr hd
    · rename_i outcome hd
      cases application h.snapshots hdecided with
      | undone hp he hpub => exact .undone hr hd hp he hpub
      | applied hp he hpub => exact .applied hh hr hd hp he hpub
  · rename_i hh
    obtain ⟨rfl, rfl⟩ := yields_pure.1 hy
    exact .ignored (by simpa using hh)

theorem restored_keeps {τ : Type} {view : σ → τ}
    (ht : ∀ table' s, view (table.set table' s) = view s) (previous : Option S) (persisted : S)
    (state : σ) : view (restored table previous persisted state) = view state := by
  unfold restored
  split
  · exact ht _ state
  · rfl

theorem Handling.keeps {τ : Type} {view : σ → τ}
    (ht : ∀ table' s, view (table.set table' s) = view s)
    (hv : ∀ subscriber ∈ saga.events.dispatcher.subscribers, subscriber.Keeps view)
    {command : Envelope C} {state state' : σ} {result : Except DomainError Unit}
    (h : Handling saga rule table command state result state') : view state' = view state := by
  cases h with
  | ignored | skipped | refused => rfl
  | undone _ _ _ _ hy =>
      rw [restored_keeps ht, Keeps.yields (EventQueue.keeps_publishAll hv _) hy, ht]
  | applied _ _ _ _ _ hy => rw [Keeps.yields (EventQueue.keeps_publishAll hv _) hy, ht]

/-- What is reflected already is passed over. -/
theorem Handling.eq_of_reflects {command : Envelope C} {state state' : σ}
    {result : Except DomainError Unit} (h : Handling saga rule table command state result state')
    (hr : reflects ((table.get state).find command.entity.id) command = true) : state' = state := by
  cases h with
  | ignored | skipped => rfl
  | refused hf | undone hf | applied _ hf => simp [hr] at hf

theorem subscriber_keeps {τ : Type} {view : σ → τ} (h : saga.Over rule table)
    (ht : ∀ table' s, view (table.set table' s) = view s)
    (hv : ∀ subscriber ∈ saga.events.dispatcher.subscribers, subscriber.Keeps view) :
    saga.subscriber.Keeps view :=
  fun _ s => (handling h (yields_exec _ s)).keeps ht hv

end Saga

end EventSourcing
