import EventSourcing.Proofs.Streams

/-!
# Which records a log takes

A log takes a record exactly if it comes next, which is if its number is one more than the number of
records that were taken for its entity before. So whatever records come in, and in whichever order, a
log holds those that it took, numbered from 1, and nothing of a record that it refused is left in it.
-/

namespace EventSourcing

open EventSourcing.Sequential

namespace CommandLog

/-! ## Records that come in -/

/-- A record that came in, with the reply to it. -/
structure Receipt where
  record : StoredCommand
  reply : Except DomainError Unit

section

variable {σ : Type}

/-- One record more: the receipts so far, and the session after it. -/
def receive (cell : Cell σ CommandLog) (run : List Receipt × Session σ) (record : StoredCommand) :
    List Receipt × Session σ :=
  let appended := exec ((store cell).append record) run.2
  (run.1 ++ [⟨record, appended.1⟩], appended.2)

/-- The run in which some records come in, one after the other, for a log that was empty. -/
def received (cell : Cell σ CommandLog) (start : Session σ) (records : List StoredCommand) :
    List Receipt × Session σ :=
  records.foldl (receive cell) ([], { start with state := cell.set {} start.state })

end

/-- The records of an entity that were taken, in order. -/
def taken (receipts : List Receipt) (entity : Int64) : List StoredCommand :=
  (receipts.filter fun receipt => receipt.reply.isOk ∧ receipt.record.entityId = entity).map
    Receipt.record

theorem taken_concat (receipts : List Receipt) (receipt : Receipt) (entity : Int64) :
    taken (receipts ++ [receipt]) entity =
      if receipt.reply.isOk ∧ receipt.record.entityId = entity then
        taken receipts entity ++ [receipt.record]
      else taken receipts entity := by
  by_cases h : receipt.reply.isOk ∧ receipt.record.entityId = entity
  · rw [if_pos h, taken, List.filter_append, List.filter_cons_of_pos (by simpa using h)]
    simp [taken]
  · rw [if_neg h, taken, List.filter_append, List.filter_cons_of_neg (by simpa using h)]
    simp [taken]

theorem taken_subset (receipts : List Receipt) (entity : Int64) :
    taken receipts entity ⊆ receipts.map Receipt.record :=
  List.map_subset _ List.filter_sublist.subset

/-! ## What one call does -/

section

variable {σ : Type} (cell : Cell σ CommandLog) (session : Session σ)

theorem exec_append (record : StoredCommand) :
    exec ((store cell).append record) session =
      match (cell.get session.state).append record with
      | .ok log => (.ok (),
          ({ session with state := cell.set log session.state } : Session σ).tell (appended record))
      | .error fault => (.error (.store fault.message), session) := by
  simp only [store, exec_bind, exec_sure, exec_settle, exec_note, runOn_attempt]
  cases (cell.get session.state).append record <;> rfl

theorem exec_load (entity : Int64) :
    exec ((store cell).load entity) session =
      (.ok ((cell.get session.state).load entity), session) := rfl

theorem exec_nextSequenceNo {entity next : Int64}
    (h : (cell.get session.state).nextSequenceNo? entity = some next) :
    exec ((store cell).nextSequenceNo entity) session = (.ok next, session) := by
  simp only [store, exec_bind, exec_sure, runOn_look, h]
  rfl

end

/-- Why a record is refused that does not come next after some records. -/
def refusal (record : StoredCommand) (count : Nat) : AppendFault :=
  if record.sequenceNo.toInt ≤ count then .duplicate record.sequenceNo record.entityId
  else .gap record.entityId (count + 1) record.sequenceNo

theorem Ordered.append_eq_error {log : CommandLog} (h : log.Ordered) {record : StoredCommand}
    (hn : record.sequenceNo.toInt ≠ (log.load record.entityId).length + 1) :
    log.append record = .error (refusal record (log.load record.entityId).length) := by
  unfold CommandLog.append refusal
  rw [last, (h _).toInt_lastOf, if_neg hn]
  split <;> rfl

/-! ## What a log holds -/

/-- A log holds the records that were taken, and they have no gap. -/
structure Holds (receipts : List Receipt) (log : CommandLog) : Prop where
  load_eq : ∀ entity, log.load entity = taken receipts entity
  ordered : log.Ordered

theorem holds_nil : Holds [] {} where
  load_eq entity := by simp [load, taken]
  ordered := ordered_empty

theorem Holds.taken {receipts : List Receipt} {log log' : CommandLog} (h : Holds receipts log)
    {record : StoredCommand} (ha : log.append record = .ok log') :
    Holds (receipts ++ [⟨record, .ok ()⟩]) log' where
  load_eq entity := by
    rw [load_of_append ha, h.load_eq, taken_concat]
    simp [Except.isOk, Except.toBool, eq_comm]
  ordered := h.ordered.append ha

theorem Holds.refused {receipts : List Receipt} {log : CommandLog} (h : Holds receipts log)
    (record : StoredCommand) (failure : DomainError) :
    Holds (receipts ++ [⟨record, .error failure⟩]) log where
  load_eq entity := by
    rw [h.load_eq, taken_concat]
    simp [Except.isOk, Except.toBool]
  ordered := h.ordered

variable {σ : Type} (cell : Cell σ CommandLog)

theorem Holds.receive {run : List Receipt × Session σ} (h : Holds run.1 (cell.get run.2.state))
    (record : StoredCommand) :
    Holds (receive cell run record).1 (cell.get (receive cell run record).2.state) := by
  simp only [CommandLog.receive, exec_append]
  cases ha : (cell.get run.2.state).append record with
  | ok log =>
      simp only [Session.state_tell, cell.get_set]
      exact h.taken ha
  | error fault => exact h.refused record _

theorem holds_foldl (records : List StoredCommand) {run : List Receipt × Session σ}
    (h : Holds run.1 (cell.get run.2.state)) :
    Holds (records.foldl (CommandLog.receive cell) run).1
      (cell.get (records.foldl (CommandLog.receive cell) run).2.state) := by
  induction records generalizing run with
  | nil => exact h
  | cons record records ih => exact ih (h.receive cell record)

theorem holds_received (start : Session σ) (records : List StoredCommand) :
    Holds (received cell start records).1 (cell.get (received cell start records).2.state) := by
  apply holds_foldl
  rw [cell.get_set]
  exact holds_nil

theorem map_record_foldl (records : List StoredCommand) (run : List Receipt × Session σ) :
    (records.foldl (receive cell) run).1.map Receipt.record =
      run.1.map Receipt.record ++ records := by
  induction records generalizing run with
  | nil => simp
  | cons record records ih => simp [ih, receive]

theorem map_record_received (start : Session σ) (records : List StoredCommand) :
    (received cell start records).1.map Receipt.record = records :=
  map_record_foldl cell records _

/-! ## Contiguous streams -/

/-- The next number of an entity, while its records do not reach the greatest one. -/
theorem Holds.exists_nextSequenceNo? {receipts : List Receipt} {log : CommandLog}
    (h : Holds receipts log)
    (hb : ∀ receipt ∈ receipts, receipt.record.sequenceNo.toInt < Int64.maxValue.toInt)
    (entity : Int64) :
    ∃ next, log.nextSequenceNo? entity = some next ∧
      next.toInt = (CommandLog.taken receipts entity).length + 1 := by
  have hlt : (log.load entity).length < Int64.maxValue.toInt := by
    refine (h.ordered entity).length_lt (fun record hm => ?_) (by decide)
    rw [h.load_eq] at hm
    obtain ⟨receipt, hr, rfl⟩ := List.mem_map.1 (taken_subset receipts entity hm)
    exact hb receipt hr
  cases hn : log.nextSequenceNo? entity with
  | none =>
      rw [h.ordered.nextSequenceNo?_eq_none_iff.1 hn] at hlt
      exact absurd hlt (Int.lt_irrefl _)
  | some next =>
      refine ⟨next, rfl, ?_⟩
      rw [← h.load_eq]
      exact h.ordered.nextSequenceNo?_eq_some_iff.1 hn

/-- Whatever records came in, as long as none has the greatest number: what a log gives for an entity
are the records that were taken for it, numbered from 1, and they pass the check of a history; the
number that it gives out next is one more than theirs. One more record is taken exactly if it has this
number, and one that is refused changes nothing. -/
theorem streams_stay_contiguous (start : Session σ) {records : List StoredCommand}
    (h : ∀ record ∈ records, record.sequenceNo.toInt < Int64.maxValue.toInt) :
    let run := received cell start records
    (∀ entity,
      exec ((store cell).load entity) run.2 = (.ok (taken run.1 entity), run.2) ∧
      Gapless entity (taken run.1 entity) ∧
      checkHistory entity 0 (taken run.1 entity) = .ok () ∧
      ∃ next, exec ((store cell).nextSequenceNo entity) run.2 = (.ok next, run.2) ∧
        next.toInt = (taken run.1 entity).length + 1) ∧
    ∀ record : StoredCommand,
      let count := (taken run.1 record.entityId).length
      let appended := exec ((store cell).append record) run.2
      (record.sequenceNo.toInt = count + 1 → appended.1 = .ok ()) ∧
      (record.sequenceNo.toInt ≠ count + 1 →
        appended = (.error (.store (refusal record count).message), run.2)) := by
  intro run
  have hh : Holds run.1 (cell.get run.2.state) := holds_received cell start records
  have hb : ∀ receipt ∈ run.1, receipt.record.sequenceNo.toInt < Int64.maxValue.toInt := by
    intro receipt hr
    apply h
    rw [← map_record_received cell start records]
    exact List.mem_map_of_mem hr
  constructor
  · intro entity
    have hg := hh.ordered entity
    obtain ⟨next, hnext, hn⟩ := hh.exists_nextSequenceNo? hb entity
    rw [exec_load, hh.load_eq, exec_nextSequenceNo cell run.2 hnext]
    rw [hh.load_eq] at hg
    exact ⟨rfl, hg, hg.checkHistory, next, rfl, hn⟩
  · intro record count appended
    have hcount : count = ((cell.get run.2.state).load record.entityId).length := by
      rw [hh.load_eq]
    simp only [appended, exec_append, hcount]
    constructor
    · intro hn
      have hnext := hh.ordered.nextSequenceNo?_eq_some_iff.2 hn
      obtain ⟨log, ha⟩ := append_of_next record hnext
      rw [ha]
    · intro hn
      rw [hh.ordered.append_eq_error hn]

/-- A record of some entity with some number. -/
def numbered (entity number : Int64) : StoredCommand where
  entityId := entity
  sequenceNo := number
  commandName := "account.close"
  commandType := "account.close"
  payload := .null
  metadata := Metadata.new ⟨0⟩ .epoch
  recordedAt := .epoch

/-- Of the records for two entities that come in mixed up, some twice or too early, those are left
that came next. -/
theorem streams_stay_contiguous_when_mixed :
    let records := [numbered (-3) 1, numbered 0 2, numbered 0 1, numbered (-3) 1, numbered 0 (-1),
      numbered (-3) 2]
    let cell := Cell.whole CommandLog
    let run := received cell { state := {} } records
    (∀ record ∈ records, record.sequenceNo.toInt < Int64.maxValue.toInt) ∧
    exec ((store cell).load (-3)) run.2 = (.ok [numbered (-3) 1, numbered (-3) 2], run.2) ∧
    (∃ next, exec ((store cell).nextSequenceNo (-3)) run.2 = (.ok next, run.2) ∧
      next.toInt = 3) ∧
    exec ((store cell).append (numbered 0 3)) run.2 =
      (.error (.store "sequence gap for entity 0: expected 2, got 3"), run.2) := by
  intro records cell run
  have h : ∀ record ∈ records, record.sequenceNo.toInt < Int64.maxValue.toInt := by
    decide +kernel
  obtain ⟨hstreams, hone⟩ := streams_stay_contiguous cell { state := {} } h
  obtain ⟨hload, -, -, next, hnext, hn⟩ := hstreams (-3)
  have htaken : taken run.1 (-3) = [numbered (-3) 1, numbered (-3) 2] := by decide +kernel
  have hcount : (taken run.1 (numbered 0 3).entityId).length = 1 := by decide +kernel
  rw [htaken] at hload hn
  have hgap := (hone (numbered 0 3)).2 (by rw [hcount]; decide)
  rw [hcount] at hgap
  exact ⟨h, hload, ⟨next, hnext, hn⟩, hgap⟩

end CommandLog

end EventSourcing
