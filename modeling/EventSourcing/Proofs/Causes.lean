import EventSourcing.Proofs.Compensation
import EventSourcing.Proofs.Failures

/-!
# Why a saga fails

The events of a saga go to views. What a saga fails with is made of single failures: one of its own, or
those of the views that did not take an event, view by view.
-/

namespace EventSourcing

open EventSourcing.Sequential

theorem Envelope.isSingle_of_validate {P : Type} [PayloadKind P] {envelope : Envelope P}
    {failure : DomainError} (h : envelope.validate = .error failure) : failure.IsSingle := by
  unfold Envelope.validate EntityReference.validate at h
  split at h
  · cases h
    trivial
  split at h
  · cases h
  · cases h
    trivial

theorem SnapshotTable.isSingle_of_persist {σ S : Type} [Snapshot S] {cell : Cell σ (SnapshotTable S)}
    {s : S} {state state' : σ} {failure : DomainError}
    (h : Yields ((store cell).persist s) state (.error failure) state') : failure.IsSingle := by
  obtain ⟨_, -, hresult, -⟩ := h.of_sure
  cases hresult

/-! ## Why events do not get through -/

namespace EventQueue

variable {σ E : Type} [PayloadKind E] {queue : EventQueue (Sequential σ) E}
  {events : List (Envelope E)} {state state' : σ}

/-- Events stop at one that is malformed, or at one that was given to all subscribers and not taken by
all of them. What they stop for is listed, subscriber by subscriber. -/
inductive Loss (queue : EventQueue (Sequential σ) E) (events : List (Envelope E)) (state : σ) :
    List DomainError → σ → Prop
  | malformed {front rest : List (Envelope E)} {event : Envelope E} {failure : DomainError}
      {state' : σ} (he : events = front ++ event :: rest)
      (hr : Rounds queue.dispatcher.subscribers front state state')
      (hv : event.validate = .error failure) :
      Loss queue events state [failure] state'
  | refused {front rest : List (Envelope E)} {event : Envelope E}
      {results : List (Except DomainError Unit)} {between state' : σ}
      (he : events = front ++ event :: rest)
      (hr : Rounds queue.dispatcher.subscribers front state between)
      (ho : Offered event queue.dispatcher.subscribers between results state')
      (hf : Dispatcher.failuresOf results ≠ []) :
      Loss queue events state (Dispatcher.failuresOf results) state'

theorem loss_of_publishAll {failure : DomainError}
    (h : Yields (queue.publishAll events) state (.error failure) state') :
    ∃ causes, queue.Loss events state causes state' ∧
      DomainError.ofFailures? causes = some failure := by
  obtain ⟨given, hd⟩ := distribution h
  cases hd with
  | malformed he hr hv => exact ⟨_, .malformed he hr hv, rfl⟩
  | refused he hr ho hf =>
      have hsome := Dispatcher.settled_eq_error_iff.1 hf
      exact ⟨_, .refused he hr ho (DomainError.ne_nil_of_ofFailures? hsome), hsome⟩

theorem Loss.isSingle (hs : ∀ view ∈ queue.dispatcher.subscribers, view.FailsSingly)
    {causes : List DomainError} (h : queue.Loss events state causes state') :
    ∀ cause ∈ causes, cause.IsSingle := by
  cases h with
  | malformed _ _ hv => exact List.forall_mem_singleton.2 (Envelope.isSingle_of_validate hv)
  | refused _ _ ho _ => exact Dispatcher.isSingle_of_mem_failuresOf hs ho

end EventQueue

/-! ## Why a saga fails -/

namespace Saga

variable {σ C E S : Type} [PayloadKind C] [PayloadKind E] [Snapshot S]

/-- Neither the snapshots nor the decisions of a saga fail with several failures at once. -/
structure FailsSingly (saga : Saga (Sequential σ) C E S) : Prop where
  find : ∀ id state failure state',
    Yields (saga.snapshots.find id) state (.error failure) state' → failure.IsSingle
  persist : ∀ snapshot state failure state',
    Yields (saga.snapshots.persist snapshot) state (.error failure) state' → failure.IsSingle
  decide : ∀ current command s refusal,
    (runOn (saga.decide current command) s).1 = .error refusal → refusal.IsSingle

omit [PayloadKind C] [PayloadKind E] in
/-- Over a table a saga fails singly if its rule does. -/
theorem Over.failsSingly {saga : Saga (Sequential σ) C E S} {rule : Rule C E S}
    {table : Cell σ (SnapshotTable S)} (h : saga.Over rule table)
    (hr : ∀ current command refusal, rule current command = .error refusal → refusal.IsSingle) :
    saga.FailsSingly where
  find id state failure state' hy := by
    rw [h.snapshots] at hy
    cases (SnapshotTable.yields_find hy).1
  persist snapshot state failure state' hy := by
    rw [h.snapshots] at hy
    exact SnapshotTable.isSingle_of_persist hy
  decide current command s refusal hd := by
    rw [h.decide] at hd
    exact hr current command refusal hd

/-- Why a saga fails at a command: its snapshot cannot be read, it refuses the command, the new
snapshot cannot be stored, or an event is lost, and it puts back what was there before. -/
inductive Fails (saga : Saga (Sequential σ) C E S) (command : Envelope C) (state : σ) :
    List DomainError → σ → Prop
  | unread {failure : DomainError} {state' : σ}
      (hf : Yields (saga.snapshots.find command.entity.id) state (.error failure) state') :
      Fails saga command state [failure] state'
  | refused {current : Option S} {s : Session σ} {refusal : DomainError}
      (hf : Yields (saga.snapshots.find command.entity.id) state (.ok current) s.state)
      (hd : (runOn (saga.decide current command) s).1 = .error refusal) :
      Fails saga command state [refusal] (runOn (saga.decide current command) s).2.state
  | unstored {current : Option S} {s : Session σ} {outcome : Outcome S E} {failure : DomainError}
      {state' : σ} (hf : Yields (saga.snapshots.find command.entity.id) state (.ok current) s.state)
      (hd : (runOn (saga.decide current command) s).1 = .ok outcome)
      (hp : Yields (saga.snapshots.persist
          (Snapshot.stamped command.entity.id command.sequenceNo outcome.snapshot))
        (runOn (saga.decide current command) s).2.state (.error failure) state') :
      Fails saga command state [failure] state'
  | undone {current : Option S} {s t : Session σ} {outcome : Outcome S E} {persisted : S}
      {events : List (Envelope E)} {causes : List DomainError} {stored : σ}
      (hf : Yields (saga.snapshots.find command.entity.id) state (.ok current) s.state)
      (hd : (runOn (saga.decide current command) s).1 = .ok outcome)
      (hp : Yields (saga.snapshots.persist
          (Snapshot.stamped command.entity.id command.sequenceNo outcome.snapshot))
        (runOn (saga.decide current command) s).2.state (.ok persisted) stored)
      (he : command.Derived outcome.events events)
      (hl : saga.events.Loss events stored causes t.state) :
      Fails saga command state causes (runOn (saga.restore current persisted) t).2.state

variable {saga : Saga (Sequential σ) C E S} {command : Envelope C} {state state' : σ}

theorem fails_of_apply {current : Option S} {s : Session σ} {outcome : Outcome S E}
    {failure : DomainError}
    (hf : Yields (saga.snapshots.find command.entity.id) state (.ok current) s.state)
    (hd : (runOn (saga.decide current command) s).1 = .ok outcome)
    (h : Yields (saga.apply current command outcome) (runOn (saga.decide current command) s).2.state
      (.error failure) state') :
    ∃ causes, saga.Fails command state causes state' ∧
      DomainError.ofFailures? causes = some failure := by
  unfold apply at h
  rcases h.of_bind with ⟨_, hfailure, hp⟩ | ⟨persisted, stored, hp, h⟩
  · cases hfailure
    exact ⟨_, .unstored hf hd hp, rfl⟩
  obtain ⟨u, hu, h⟩ := h.of_sure_bind
  obtain ⟨hderived, hstate⟩ := command.derived_deriveEvents outcome.events u
  rw [hstate, hu] at h
  obtain ⟨published, between, hpub, h⟩ := h.of_attempt_bind
  cases published with
  | ok => exact nomatch (yields_note.1 h).1
  | error lost =>
      obtain ⟨t, rfl, ht⟩ := h.of_sure_bind
      obtain ⟨hthrown, rfl⟩ := yields_throw.1 ht
      cases hthrown
      obtain ⟨causes, hl, hc⟩ := EventQueue.loss_of_publishAll hpub
      exact ⟨causes, .undone hf hd hp hderived hl, hc⟩

theorem fails_of_handle {failure : DomainError}
    (h : Yields (saga.handle command) state (.error failure) state') :
    ∃ causes, saga.Fails command state causes state' ∧
      DomainError.ofFailures? causes = some failure := by
  unfold handle at h
  split at h
  swap
  · exact nomatch (yields_pure.1 h).1
  rcases h.of_bind with ⟨_, hfailure, hf⟩ | ⟨current, found, hf, h⟩
  · cases hfailure
    exact ⟨_, .unread hf, rfl⟩
  split at h
  · exact nomatch (yields_note.1 h).1
  obtain ⟨s, rfl, hdecided⟩ := h.of_sure_bind
  cases hd : (runOn (saga.decide current command) s).1 with
  | error refusal =>
      rw [hd] at hdecided
      obtain ⟨hr, rfl⟩ := yields_throw.1 hdecided.of_note
      cases hr
      exact ⟨_, .refused hf hd, rfl⟩
  | ok outcome =>
      rw [hd] at hdecided
      exact fails_of_apply hf hd hdecided

omit [PayloadKind C] in
theorem Fails.isSingle (hs : saga.FailsSingly)
    (hv : ∀ view ∈ saga.events.dispatcher.subscribers, view.FailsSingly) {causes : List DomainError}
    (h : saga.Fails command state causes state') : ∀ cause ∈ causes, cause.IsSingle := by
  cases h with
  | unread hf => exact List.forall_mem_singleton.2 (hs.find _ _ _ _ hf)
  | refused _ hd => exact List.forall_mem_singleton.2 (hs.decide _ _ _ _ hd)
  | unstored _ _ hp => exact List.forall_mem_singleton.2 (hs.persist _ _ _ _ hp)
  | undone _ _ _ _ hl => exact hl.isSingle hv

end Saga

end EventSourcing
