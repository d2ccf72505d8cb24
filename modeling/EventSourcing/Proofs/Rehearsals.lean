import EventSourcing.Proofs.Matching
import EventSourcing.Proofs.Streams
import EventSourcing.Store.Journal
import Mathlib.Data.List.Induction

/-!
# Rehearsals

A bus over a journal does as it would over a log. The journal takes every record as it comes and
counts on from the greatest number, where the log counts on from the last one and refuses what does
not follow; as a bus numbers what it records, the two never come to differ.
-/

namespace EventSourcing

open EventSourcing.Sequential

/-! ## Journals -/

namespace Journal

theorem load_append (journal : Journal) (record : StoredCommand) (entity : Int64) :
    (journal.append record).load entity =
      if entity = record.entityId then journal.load entity ++ [record] else journal.load entity := by
  simp only [load, append, List.filter_append]
  by_cases he : entity = record.entityId
  · simp [he]
  · simp [he, Ne.symm he]

theorem greatestOf_concat {records : List StoredCommand} {record : StoredCommand}
    (h : (greatestOf records).toInt < record.sequenceNo.toInt) :
    greatestOf (records ++ [record]) = record.sequenceNo := by
  cases records with
  | nil => rfl
  | cons first records =>
      simp only [greatestOf] at h
      simp only [List.cons_append, greatestOf, List.foldl_append, List.foldl_cons, List.foldl_nil]
      rw [if_pos h]

end Journal

/-- In a stream without a gap the last number is the greatest. -/
theorem CommandLog.Gapless.greatestOf {entity : Int64} {stream : List StoredCommand}
    (h : Gapless entity stream) : Journal.greatestOf stream = lastOf stream := by
  induction stream using List.reverseRecOn with
  | nil => rfl
  | append_singleton front record ih =>
      have hfront := h.front
      have hnumber := h.last.2
      have hgreatest : (Journal.greatestOf front).toInt = front.length := by
        rw [ih hfront, hfront.toInt_lastOf]
      rw [lastOf_concat, Journal.greatestOf_concat (by omega)]

/-! ## A log and a journal -/

/-- A journal holds the histories of a log, which have no gap. -/
structure Journal.Mirrors (log : CommandLog) (journal : Journal) : Prop where
  ordered : log.Ordered
  load : ∀ entity, log.load entity = journal.load entity

/-- The number is the next one of an entity, in the log and in the journal that mirrors it. -/
structure Journal.Due (entity n : Int64) (log : CommandLog) (journal : Journal) : Prop where
  mirrors : Mirrors log journal
  next : log.nextSequenceNo? entity = some n

namespace Journal

variable {log : CommandLog} {journal : Journal}

theorem mirrors_empty : Mirrors {} {} :=
  ⟨CommandLog.ordered_empty, fun entity => by simp [CommandLog.load, load]⟩

theorem Mirrors.nextSequenceNo? (h : Mirrors log journal) (entity : Int64) :
    journal.nextSequenceNo? entity = log.nextSequenceNo? entity := by
  rw [Journal.nextSequenceNo?, CommandLog.nextSequenceNo?, CommandLog.last, ← h.load,
    (h.ordered entity).greatestOf]

theorem Due.append {record : StoredCommand} (h : Due record.entityId record.sequenceNo log journal) :
    ∃ log', log.append record = .ok log' ∧ Mirrors log' (journal.append record) := by
  obtain ⟨log', ha⟩ := CommandLog.append_of_next record h.next
  refine ⟨log', ha, h.mirrors.ordered.append ha, fun entity => ?_⟩
  rw [CommandLog.load_of_append ha, load_append, h.mirrors.load]

variable {σ : Type}

theorem inStep_load (entity : Int64) :
    InStepOr Mirrors Mirrors
      ((CommandLog.store Cell.second).load entity : Fallible (Sequential (σ × CommandLog)) _)
      ((store Cell.second).load entity) fun _ => Mirrors := by
  intro s t h
  exact ⟨congrArg Except.ok (h.rest.load entity), h⟩

theorem inStep_look (entity : Int64) :
    InStep Mirrors
      (Cell.second.look fun log => log.nextSequenceNo? entity :
        Sequential (σ × CommandLog) (Option Int64))
      (Cell.second.visit fun journal =>
        (journal.nextSequenceNo? entity, journal.request entity))
      fun next log journal => Mirrors log journal ∧ log.nextSequenceNo? entity = next := by
  intro s t h
  exact ⟨(h.rest.nextSequenceNo? entity).symm, h.own, h.ids, ⟨h.rest.ordered, h.rest.load⟩, rfl⟩

theorem inStep_nextSequenceNo (entity : Int64) :
    InStepOr Mirrors Mirrors
      ((CommandLog.store Cell.second).nextSequenceNo entity :
        Fallible (Sequential (σ × CommandLog)) _)
      ((store Cell.second).nextSequenceNo entity) (Due entity) := by
  refine .bind (.sure (inStep_look entity)) fun next => ?_
  cases next with
  | some n => exact .pure fun _ _ h => ⟨h.1, h.2⟩
  | none => exact .throw fun _ _ h => h.1

theorem inStep_append (record : StoredCommand) :
    InStepOr Mirrors (Due record.entityId record.sequenceNo)
      ((CommandLog.store Cell.second).append record : Fallible (Sequential (σ × CommandLog)) _)
      ((store Cell.second).append record) fun _ => Mirrors := by
  intro s t h
  obtain ⟨log', ha, hm⟩ := h.rest.append
  have hlog : exec ((CommandLog.store Cell.second).append record) s =
      (.ok (), ({ s with state := (s.state.1, log') } : Session (σ × CommandLog)).tell
        (CommandLog.appended record)) := by
    simp [CommandLog.store, exec_bind, runOn_attempt, Cell.second, ha, Except.map]
  rw [runOn_run, hlog]
  exact ⟨rfl, h.own, h.ids, hm⟩

theorem inStep_store :
    CommandStore.InStep Mirrors Due
      (CommandLog.store Cell.second : CommandStore (Sequential (σ × CommandLog)))
      (store Cell.second) where
  load := inStep_load
  number := inStep_nextSequenceNo
  append := inStep_append
  at_rest _ _ _ _ h := h.mirrors

end Journal

/-! ## Casts -/

/-- A subscriber with the tape on which all that it is given is taken down. -/
structure Member (σ P : Type) where
  subscriber : Subscriber (Sequential σ) P
  tape : Cell σ (List (Envelope P))

def Member.taped {σ P : Type} (member : Member σ P) : Subscriber (Sequential σ) P where
  name := member.subscriber.name
  handle envelope := do
    Host.sure (member.tape.update fun taken => taken ++ [envelope])
    member.subscriber.handle envelope

/-- Who is given the events of some queues, and who is given commands and may publish to these
queues. -/
structure Cast {κ : Type} (σ C : Type) (E : κ → Type) where
  audience : ∀ k, List (Member σ (E k))
  actors : (∀ k, EventQueue (Sequential σ) (E k)) → List (Member σ C)

namespace Cast

variable {κ σ C : Type} {E : κ → Type}

def queue (cast : Cast σ C E) (k : κ) : EventQueue (Sequential σ) (E k) :=
  .ofSubscribers ((cast.audience k).map Member.taped)

def troupe (cast : Cast σ C E) : List (Member σ C) := cast.actors cast.queue

def dispatcher (cast : Cast σ C E) : Dispatcher (Sequential σ) C where
  traffic := .commands
  subscribers := cast.troupe.map Member.taped

end Cast

/-! ## Calls -/

namespace CommandBus

/-- A call to a bus, at a time. -/
inductive Call (C : Type) where
  | publish (now : Instant) (command : Envelope C)
  | replay (now : Instant) (entity : Int64)

inductive Reply (C : Type) where
  | published (result : Except DomainError (Envelope C))
  | replayed (result : Except DomainError Nat)

section

variable {σ : Type} {m : Type → Type} [Host σ m] {C : Type} [PayloadKind C]

def reply (bus : Instant → CommandBus m C) : Call C → m (Reply C)
  | .publish now command => do
    let result ← Host.attempt ((bus now).publish command)
    return .published result
  | .replay now entity => do
    let result ← Host.attempt ((bus now).replay entity)
    return .replayed result

end

variable {σ C : Type} [PayloadKind C]

/-- Answers calls one after the other, over a store. -/
def replies {κ τ : Type} {E : κ → Type} (store : CommandStore (Sequential (σ × τ)))
    (cast : Instant → Cast σ C E) (decoders : Decoders C) (calls : List (Call C)) :
    Sequential (σ × τ) (List (Reply C)) :=
  Sequential.inOrder (calls.map (reply fun now => staffed store (cast now).dispatcher decoders now))

theorem inStep_reply {τ υ : Type} {rest : τ → υ → Prop} {due : Int64 → Int64 → τ → υ → Prop}
    {store : CommandStore (Sequential (σ × τ))} {store' : CommandStore (Sequential (σ × υ))}
    (h : store.InStep rest due store') (dispatcher : Instant → Dispatcher (Sequential σ) C)
    (decoders : Decoders C) (call : Call C) :
    InStep rest (reply (fun now => staffed store (dispatcher now) decoders now) call)
      (reply (fun now => staffed store' (dispatcher now) decoders now) call) fun _ => rest := by
  cases call with
  | publish now command =>
      refine .bind (inStep_publish h command) fun result => ?_
      cases result <;> exact .pure fun _ _ hx => hx
  | replay now entity =>
      refine .bind (inStep_replay h entity) fun result => ?_
      cases result <;> exact .pure fun _ _ hx => hx

/-- Whatever a bus is called for, and whoever is subscribed, it replies over a journal as it does over
a log. All subscribers are given the same and end in the same state, and the same histories are
there in the end. -/
theorem replies_of_rehearsal {κ : Type} {E : κ → Type} (cast : Instant → Cast σ C E)
    (decoders : Decoders C) (start : σ) (ids : IdSource) (calls : List (Call C)) :
    let production := runOn (replies (CommandLog.store Cell.second) cast decoders calls)
      { state := (start, {}), ids }
    let rehearsal := runOn (replies (Journal.store Cell.second) cast decoders calls)
      { state := (start, {}), ids }
    production.1 = rehearsal.1 ∧ production.2.state.1 = rehearsal.2.state.1 ∧
      (∀ now, ∀ actor ∈ (cast now).troupe,
        actor.tape.get production.2.state.1 = actor.tape.get rehearsal.2.state.1) ∧
      (∀ now k, ∀ member ∈ (cast now).audience k,
        member.tape.get production.2.state.1 = member.tape.get rehearsal.2.state.1) ∧
      ∀ entity, production.2.state.2.load entity = rehearsal.2.state.2.load entity := by
  intro production rehearsal
  have hcalls : InStep Journal.Mirrors
      (replies (CommandLog.store Cell.second) cast decoders calls)
      (replies (Journal.store Cell.second) cast decoders calls) fun _ => Journal.Mirrors := by
    refine .together ?_
    simp only [List.forall₂_map_left_iff, List.forall₂_map_right_iff, List.forall₂_same]
    intro call _
    exact inStep_reply Journal.inStep_store (fun now => (cast now).dispatcher) decoders call
  obtain ⟨hreplies, hend⟩ := hcalls { state := (start, {}), ids } { state := (start, {}), ids }
    ⟨rfl, rfl, Journal.mirrors_empty⟩
  refine ⟨hreplies, hend.own, ?_, ?_, hend.rest.load⟩
  · intro now actor _
    exact congrArg actor.tape.get hend.own
  · intro now k member _
    exact congrArg member.tape.get hend.own

end CommandBus

end EventSourcing
