import EventSourcing.Proofs.Sequential
import EventSourcing.CommandBus
import EventSourcing.Store.CommandLog

/-!
# Streams without a gap

A stream is gapless if its records are of one entity and have the numbers 1, 2, 3 and so on. The
number that comes next is then one more than the number of records, and a history like this can be
replayed.
-/

namespace EventSourcing

open EventSourcing.Sequential

namespace CommandLog

/-- The records of a stream are those of an entity, numbered from 1. -/
def Gapless (entity : Int64) (stream : List StoredCommand) : Prop :=
  ∀ (k : Nat) (record : StoredCommand), stream[k]? = some record →
    record.entityId = entity ∧ record.sequenceNo.toInt = k + 1

def Ordered (log : CommandLog) : Prop := ∀ entity, Gapless entity (log.load entity)

/-! ## Gapless streams -/

theorem gapless_nil (entity : Int64) : Gapless entity [] := fun k record h => by simp at h

theorem Gapless.concat {entity : Int64} {stream : List StoredCommand} {record : StoredCommand}
    (h : Gapless entity stream) (he : record.entityId = entity)
    (hn : record.sequenceNo.toInt = stream.length + 1) : Gapless entity (stream ++ [record]) := by
  intro k r hr
  rw [List.getElem?_append] at hr
  split at hr
  · exact h k r hr
  · rename_i hk
    obtain ⟨hlt, rfl⟩ := List.getElem?_eq_some_iff.mp hr
    have : k = stream.length := by simp at hlt; omega
    subst this
    simpa using ⟨he, hn⟩

theorem Gapless.front {entity : Int64} {front rest : List StoredCommand}
    (h : Gapless entity (front ++ rest)) : Gapless entity front := by
  intro k record hk
  obtain ⟨hlt, -⟩ := List.getElem?_eq_some_iff.1 hk
  exact h k record (by rw [List.getElem?_append_left hlt, hk])

theorem Gapless.last {entity : Int64} {front : List StoredCommand} {record : StoredCommand}
    (h : Gapless entity (front ++ [record])) :
    record.entityId = entity ∧ record.sequenceNo.toInt = front.length + 1 :=
  h front.length record (by simp)

theorem Gapless.entityId_of_mem {entity : Int64} {stream : List StoredCommand}
    {record : StoredCommand} (h : Gapless entity stream) (hm : record ∈ stream) :
    record.entityId = entity := by
  obtain ⟨k, hk⟩ := List.getElem?_of_mem hm
  exact (h k record hk).1

theorem lastOf_concat (stream : List StoredCommand) (record : StoredCommand) :
    lastOf (stream ++ [record]) = record.sequenceNo := by
  simp [lastOf]

theorem Gapless.toInt_lastOf {entity : Int64} {stream : List StoredCommand}
    (h : Gapless entity stream) : (lastOf stream).toInt = stream.length := by
  rcases List.eq_nil_or_concat stream with rfl | ⟨front, record, rfl⟩
  · rfl
  · rw [List.concat_eq_append] at h ⊢
    rw [lastOf_concat, (h front.length record (by simp)).2]
    simp

/-- If no record reaches some number, there are not as many of them. -/
theorem Gapless.length_lt {entity : Int64} {stream : List StoredCommand} (h : Gapless entity stream)
    {bound : Int} (hb : ∀ record ∈ stream, record.sequenceNo.toInt < bound) (hpos : 0 < bound) :
    stream.length < bound := by
  rcases List.eq_nil_or_concat stream with rfl | ⟨front, record, rfl⟩
  · exact hpos
  · rw [List.concat_eq_append] at h hb ⊢
    have hlast := hb record (by simp)
    rw [h.last.2] at hlast
    simpa using hlast

theorem checkHistory_of_numbers {entity : Int64} {stream : List StoredCommand} {last : Int64}
    (h : ∀ (k : Nat) (record : StoredCommand), stream[k]? = some record →
      record.entityId = entity ∧ record.sequenceNo.toInt = last.toInt + k + 1) :
    checkHistory entity last stream = .ok () := by
  -- The check goes on from the number of the record before, so that `last` has to vary.
  induction stream generalizing last with
  | nil => rfl
  | cons record stream ih =>
      obtain ⟨he, hn⟩ := h 0 record rfl
      simp only [checkHistory, he, ne_eq, not_true_eq_false, if_false]
      rw [if_neg (by omega)]
      refine ih fun k r hr => ?_
      obtain ⟨hr', hk⟩ := h (k + 1) r (by simpa using hr)
      exact ⟨hr', by omega⟩

/-- A gapless stream belongs to its entity, and its numbers rise. -/
theorem Gapless.checkHistory {entity : Int64} {stream : List StoredCommand}
    (h : Gapless entity stream) : checkHistory entity 0 stream = .ok () :=
  checkHistory_of_numbers fun k record hr => by simpa using h k record hr

/-! ## Ordered logs -/

theorem ordered_empty : Ordered {} := fun entity => by
  simpa [load] using gapless_nil entity

theorem Ordered.nextSequenceNo?_eq_some_iff {log : CommandLog} (h : log.Ordered) {entity n : Int64} :
    log.nextSequenceNo? entity = some n ↔ n.toInt = (log.load entity).length + 1 := by
  rw [nextSequenceNo?, Word.succ?_eq_some_iff, last, (h entity).toInt_lastOf]

/-- The numbers are used up once there is a record for each of them. -/
theorem Ordered.nextSequenceNo?_eq_none_iff {log : CommandLog} (h : log.Ordered) {entity : Int64} :
    log.nextSequenceNo? entity = none ↔ (log.load entity).length = Int64.maxValue.toInt := by
  have hfits := (Word.fits_toInt (lastOf (log.load entity))).2
  have hmax : Int64.maxValue.toInt = 9223372036854775807 := by decide
  rw [nextSequenceNo?, last, Word.succ?, Word.ofInt?]
  rw [(h entity).toInt_lastOf] at hfits ⊢
  split
  · rename_i hnext
    simp only [reduceCtorEq, false_iff]
    have := hnext.2
    omega
  · rename_i hnext
    simp only [Word.Fits] at hnext
    simp only [true_iff]
    omega

theorem append_of_next {log : CommandLog} (record : StoredCommand)
    (h : log.nextSequenceNo? record.entityId = some record.sequenceNo) :
    ∃ log', log.append record = .ok log' := by
  have hok : (log.append record).isOk :=
    append_isOk_iff.2 (Word.succ?_eq_some_iff.1 h)
  cases ha : log.append record with
  | ok log' => exact ⟨log', rfl⟩
  | error fault => simp [ha, Except.isOk, Except.toBool] at hok

theorem load_of_append_ofCommand {C : Type} [PayloadKind C] {log log' : CommandLog}
    {command : Envelope C} {now : Instant} {record : StoredCommand}
    (hr : StoredCommand.ofCommand command now = .ok record) (h : log.append record = .ok log')
    (entity : Int64) :
    log'.load entity =
      if entity = command.entity.id then log.load entity ++ [record] else log.load entity := by
  obtain ⟨json, -, rfl⟩ := StoredCommand.exists_payload_of_ofCommand hr
  exact load_of_append h entity

theorem Ordered.append {log log' : CommandLog} {record : StoredCommand} (h : log.Ordered)
    (ha : log.append record = .ok log') : log'.Ordered := by
  intro entity
  rw [load_of_append ha]
  split
  · rename_i he
    subst he
    have hn := append_isOk_iff.1 (show (log.append record).isOk by rw [ha]; rfl)
    rw [last, (h _).toInt_lastOf] at hn
    exact (h _).concat rfl hn
  · exact h entity

/-! ## The store over a log -/

variable {σ : Type} {cell : Cell σ CommandLog} {state state' : σ}

theorem yields_load {entity : Int64} {result : Except DomainError (List StoredCommand)}
    (h : Yields ((store cell).load entity) state result state') :
    result = .ok ((cell.get state).load entity) ∧ state' = state := by
  obtain ⟨s, rfl, rfl, rfl⟩ := h.of_sure
  exact ⟨rfl, rfl⟩

theorem yields_nextSequenceNo {entity : Int64} {result : Except DomainError Int64}
    (h : Yields ((store cell).nextSequenceNo entity) state result state') :
    state' = state ∧
      ((∃ n, (cell.get state).nextSequenceNo? entity = some n ∧ result = .ok n) ∨
        ((cell.get state).nextSequenceNo? entity = none ∧
          result = .error (.store (exhaustedText entity)))) := by
  rcases h.of_bind with ⟨_, -, hl⟩ | ⟨next, _, hl, hn⟩
  · obtain ⟨_, rfl, hr, rfl⟩ := hl.of_sure
    cases hr
  · obtain ⟨_, rfl, hr, rfl⟩ := hl.of_sure
    simp only [runOn_look, Except.ok.injEq] at hr
    subst hr
    simp only [runOn_look] at hn
    split at hn
    · rename_i n hs
      obtain ⟨rfl, rfl⟩ := yields_pure.1 hn
      exact ⟨rfl, .inl ⟨n, hs, rfl⟩⟩
    · rename_i hs
      obtain ⟨rfl, rfl⟩ := yields_throw.1 hn
      exact ⟨rfl, .inr ⟨hs, rfl⟩⟩

theorem yields_append {record : StoredCommand} {log' : CommandLog}
    {result : Except DomainError Unit} (ha : (cell.get state).append record = .ok log')
    (h : Yields ((store cell).append record) state result state') :
    result = .ok () ∧ state' = cell.set log' state := by
  obtain ⟨s, rfl, rfl, rfl⟩ := h
  simp [store, exec_bind, runOn_attempt, ha, Except.map]

end CommandLog

end EventSourcing
