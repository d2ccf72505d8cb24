import EventSourcing.Proofs.Compensation
import EventSourcing.View

/-!
# Views over a table

The ways in which a view can be done with an event, for a view that keeps its models in a table.
-/

namespace EventSourcing

open EventSourcing.Sequential

namespace View

variable {σ E M V : Type} [PayloadKind E] [Snapshot M]

/-! ## Transforms -/

omit [PayloadKind E] [Snapshot M] in
theorem transforms_on {m : Type → Type} (view : View m E M) (variant : Variant E V)
    (transform : Transform E M) (name : String) :
    (view.on variant transform).transforms[name]? =
      if variant.typeName = name then some transform else view.transforms[name]? := by
  simp [on, Std.ExtTreeMap.getElem?_insert]

/-! ## Handling an event -/

/-- How a view can be done with an event in a state: with which result, in which state. -/
inductive Handling (view : View (Sequential σ) E M) (table : Cell σ (SnapshotTable M))
    (event : Envelope E) (state : σ) : Except DomainError Unit → σ → Prop
  | ignored (ht : view.transforms[event.payloadType]? = none) :
      Handling view table event state (.ok ()) state
  | failed {transform : Transform E M} {failure : DomainError}
      (ht : view.transforms[event.payloadType]? = some transform)
      (hf : transform ((table.get state).find event.entity.id) event = .error failure) :
      Handling view table event state (.error failure) state
  | updated {transform : Transform E M} {model : M} {table' : SnapshotTable M}
      (ht : view.transforms[event.payloadType]? = some transform)
      (hf : transform ((table.get state).find event.entity.id) event = .ok model)
      (hp : (table.get state).persist (Snapshot.stamped event.entity.id event.sequenceNo model) =
        (Snapshot.stamped event.entity.id event.sequenceNo model, table')) :
      Handling view table event state (.ok ()) (table.set table' state)

theorem handling {view : View (Sequential σ) E M} {table : Cell σ (SnapshotTable M)}
    (h : view.models = SnapshotTable.store table) {event : Envelope E} {state state' : σ}
    {result : Except DomainError Unit} (hy : Yields (view.handle event) state result state') :
    Handling view table event state result state' := by
  unfold handle at hy
  split at hy
  · rename_i ht
    obtain ⟨rfl, rfl⟩ := yields_note.1 hy
    exact .ignored ht
  rename_i transform ht
  rw [h] at hy
  rcases hy.of_bind with ⟨_, -, hf⟩ | ⟨current, start, hf, hrest⟩
  · cases (SnapshotTable.yields_find hf).1
  obtain ⟨hc, rfl⟩ := SnapshotTable.yields_find hf
  obtain rfl := Except.ok.inj hc
  rcases hrest.of_settle_bind with ⟨failure, he, rfl, rfl⟩ | ⟨model, hm, hstore⟩
  · exact .failed ht he
  obtain ⟨table', hp⟩ := (table.get start).persist_of_id?
    (Snapshot.id?_stamped event.entity.id event.sequenceNo model)
  rcases hstore.of_bind with ⟨_, -, hput⟩ | ⟨stored, _, hput, hend⟩
  · cases (SnapshotTable.yields_persist hp hput).1
  obtain ⟨-, rfl⟩ := SnapshotTable.yields_persist hp hput
  obtain ⟨rfl, rfl⟩ := yields_note.1 hend
  exact .updated ht hm hp

theorem Handling.keeps {τ : Type} {seen : σ → τ} {view : View (Sequential σ) E M}
    {table : Cell σ (SnapshotTable M)} (ht : ∀ table' s, seen (table.set table' s) = seen s)
    {event : Envelope E} {state state' : σ} {result : Except DomainError Unit}
    (h : Handling view table event state result state') : seen state' = seen state := by
  cases h with
  | ignored | failed => rfl
  | updated => exact ht _ state

theorem subscriber_keeps {τ : Type} {seen : σ → τ} {view : View (Sequential σ) E M}
    {table : Cell σ (SnapshotTable M)} (h : view.models = SnapshotTable.store table)
    (ht : ∀ table' s, seen (table.set table' s) = seen s) : view.subscriber.Keeps seen :=
  fun _ s => (handling h (yields_exec _ s)).keeps ht

end View

end EventSourcing
