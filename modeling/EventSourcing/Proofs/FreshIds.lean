import EventSourcing.Account.Rules
import EventSourcing.Proofs.Compensation
import Mathlib.Data.List.Induction

/-!
# Ids that are never used again

The id from which a table counts belongs to its whole past, not to what it holds: it outlives deletions
and clearings. Until the greatest word of all was used it is the greatest id that was, so a snapshot
that comes without an id gets one that nothing was ever stored under. What is found under an id is what
was stored there last, unless it was taken out since.
-/

namespace EventSourcing

open EventSourcing.Sequential

/-- Only after the greatest word do words go on from the least. -/
theorem Word.toInt_add_one {a : Int64} (h : a ≠ Int64.maxValue) : (a + 1).toInt = a.toInt + 1 := by
  have hmax : Int64.maxValue.toInt = 9223372036854775807 := by decide
  have hone : (1 : Int64).toInt = 1 := by decide
  have hne : a.toInt ≠ 9223372036854775807 := fun he => h (Int64.toInt_inj.1 (he.trans hmax.symm))
  obtain ⟨hge, hle⟩ := fits_toInt a
  rw [Int64.toInt_add, hone]
  exact Int.bmod_eq_of_le (by omega) (by omega)

namespace SnapshotTable

/-! ## Calls to a store -/

inductive Call (S : Type) where
  | persist (s : S)
  | delete (s : S)
  | clear

/-- A call with its reply, which is the snapshot as it was stored if one was. -/
structure Step (S : Type) where
  call : Call S
  reply : Except DomainError (Option S)

section

variable {σ : Type} {m : Type → Type} [Host σ m] {S : Type} [Snapshot S]

def Call.perform (table : Cell σ (SnapshotTable S)) : Call S → Fallible m (Option S)
  | .persist s => do return some (← (store table).persist s)
  | .delete s => do
    (store table).delete s
    return none
  | .clear => do
    Host.sure (table.update SnapshotTable.clear)
    return none

end

variable {σ S : Type} [Snapshot S]

/-- One call more: the steps that were made, and the session after them. -/
def serve (table : Cell σ (SnapshotTable S)) (run : List (Step S) × Session σ) (call : Call S) :
    List (Step S) × Session σ :=
  let performed := exec (call.perform table) run.2
  (run.1 ++ [⟨call, performed.1⟩], performed.2)

/-- The run of some calls, one after the other, on a table that was empty. -/
def served (table : Cell σ (SnapshotTable S)) (start : Session σ) (calls : List (Call S)) :
    List (Step S) × Session σ :=
  calls.foldl (serve table) ([], { start with state := table.set {} start.state })

/-! ## What the steps say -/

namespace Step

/-- A snapshot was stored under an id, its own or one that was assigned to it. -/
def Stores (step : Step S) (id : Int64) (s : S) : Prop :=
  step.reply = .ok (some s) ∧ Snapshot.id? s = some id

/-- What was under an id was taken out. -/
def Removes (step : Step S) (id : Int64) : Prop :=
  (∃ s, step.call = .delete s ∧ Snapshot.id? s = some id ∧ step.reply = .ok none) ∨
    step.call = .clear

end Step

/-- Something was once stored under an id, be it there still or not. -/
def Used (steps : List (Step S)) (id : Int64) : Prop := ∃ step ∈ steps, ∃ s, step.Stores id s

/-- A snapshot is the last one that was stored under an id, and it was not taken out since. -/
def Latest (steps : List (Step S)) (id : Int64) (s : S) : Prop :=
  ∃ before step after, steps = before ++ step :: after ∧ step.Stores id s ∧
    ∀ later ∈ after, (∀ other, ¬ later.Stores id other) ∧ ¬ later.Removes id

theorem used_concat {steps : List (Step S)} {step : Step S} {id : Int64} :
    Used (steps ++ [step]) id ↔ Used steps id ∨ ∃ s, step.Stores id s := by
  simp [Used, or_and_right, exists_or]

theorem Latest.used {steps : List (Step S)} {id : Int64} {s : S} (h : Latest steps id s) :
    Used steps id := by
  obtain ⟨before, step, after, rfl, hs, -⟩ := h
  exact ⟨step, by simp, s, hs⟩

theorem Latest.id? {steps : List (Step S)} {id : Int64} {s : S} (h : Latest steps id s) :
    Snapshot.id? s = some id := by
  obtain ⟨_, _, _, _, hs, _⟩ := h
  exact hs.2

theorem latest_concat {steps : List (Step S)} {step : Step S} {id : Int64} {s : S} :
    Latest (steps ++ [step]) id s ↔ step.Stores id s ∨
      Latest steps id s ∧ (∀ other, ¬ step.Stores id other) ∧ ¬ step.Removes id := by
  constructor
  · rintro ⟨before, last, after, he, hs, ha⟩
    -- The step that stored it is the new one or one of those before.
    rcases List.eq_nil_or_concat after with rfl | ⟨after, newest, rfl⟩
    · obtain ⟨-, he⟩ := List.append_inj' he rfl
      rw [List.singleton_inj] at he
      exact .inl (he ▸ hs)
    · rw [List.concat_eq_append] at he ha
      rw [← List.cons_append, ← List.append_assoc] at he
      obtain ⟨rfl, hnewest⟩ := List.append_inj' he rfl
      obtain rfl := List.singleton_inj.1 hnewest
      refine .inr ⟨⟨before, last, after, rfl, hs, fun later hl => ha later ?_⟩, ha step ?_⟩
      · simp [hl]
      · simp
  · rintro (hs | ⟨⟨before, last, after, rfl, hs, ha⟩, hn⟩)
    · exact ⟨steps, step, [], rfl, hs, nofun⟩
    · refine ⟨before, last, after ++ [step], by simp, hs, fun later hl => ?_⟩
      rcases List.mem_append.1 hl with hl | hl
      · exact ha later hl
      · rw [List.mem_singleton.1 hl]
        exact hn

/-! ## What a call does -/

/-- How a call can end, for a table: with which reply, and which table is there then. -/
inductive Performed (held : SnapshotTable S) :
    Call S → Except DomainError (Option S) → SnapshotTable S → Prop
  | stored {s stored : S} {held' : SnapshotTable S} (hp : held.persist s = (stored, held')) :
      Performed held (.persist s) (.ok (some stored)) held'
  | deleted {s : S} {held' : SnapshotTable S} (hd : held.delete s = .ok held') :
      Performed held (.delete s) (.ok none) held'
  | undeleted {s : S} {fault : SnapshotFault} (hd : held.delete s = .error fault) :
      Performed held (.delete s) (.error (fault.toError (Snapshot.kind S))) held
  | cleared : Performed held .clear (.ok none) held.clear

theorem exec_persist (table : Cell σ (SnapshotTable S)) (s : S) (session : Session σ) :
    exec ((store table).persist s) session =
      (.ok ((table.get session.state).persist s).1,
        { session with state := table.set ((table.get session.state).persist s).2 session.state }) :=
  rfl

theorem exec_delete (table : Cell σ (SnapshotTable S)) (s : S) (session : Session σ) :
    exec ((store table).delete s) session =
      match (table.get session.state).delete s with
      | .ok held' => (.ok (), { session with state := table.set held' session.state })
      | .error fault => (.error (fault.toError (Snapshot.kind S)), session) := by
  simp only [store, exec_bind, exec_sure, exec_settle, runOn_attempt]
  cases (table.get session.state).delete s <;> rfl

theorem performed (table : Cell σ (SnapshotTable S)) (call : Call S) (session : Session σ) :
    Performed (table.get session.state) call (exec (call.perform table) session).1
      (table.get (exec (call.perform table) session).2.state) := by
  cases call with
  | persist s =>
      simp only [Call.perform, exec_bind, exec_persist]
      change Performed _ _ _ (table.get (table.set _ session.state))
      rw [table.get_set]
      exact .stored rfl
  | delete s =>
      simp only [Call.perform, exec_bind, exec_delete]
      cases hd : (table.get session.state).delete s with
      | ok held' =>
          change Performed _ _ (.ok none) (table.get (table.set held' session.state))
          rw [table.get_set]
          exact .deleted hd
      | error fault => exact .undeleted hd
  | clear =>
      have hcleared : table.get (exec (Call.clear.perform table) session).2.state =
          (table.get session.state).clear := table.get_set _ _
      rw [hcleared]
      exact .cleared

/-! ## What a table remembers -/

/-- A snapshot has the id under which it is stored. A table counts on from an id that it assigns, and
from one that a snapshot brings along if that is greater. -/
theorem lastId_of_persist {held held' : SnapshotTable S} {s stored : S}
    (h : held.persist s = (stored, held')) :
    ∃ id, Snapshot.id? stored = some id ∧
      ((Snapshot.id? s = none ∧ id = held.lastId + 1 ∧ held'.lastId = id) ∨
        (Snapshot.id? s = some id ∧ held'.lastId =
          if held.lastId.toInt < id.toInt then id else held.lastId)) := by
  unfold persist at h
  split at h
  · rename_i id hid
    cases h
    exact ⟨id, hid, .inr ⟨hid, rfl⟩⟩
  · rename_i hid
    cases h
    exact ⟨held.lastId + 1, Snapshot.id?_withId _ s, .inl ⟨hid, rfl, rfl⟩⟩

/-- An id is the greatest of those that were used, or 0, from which a table starts to count. -/
structure Greatest (steps : List (Step S)) (last : Int64) : Prop where
  nonneg : 0 ≤ last.toInt
  used_le : ∀ id, Used steps id → id.toInt ≤ last.toInt
  last_used : last = 0 ∨ Used steps last

/-- A table remembers its steps: it holds what they left there, and until the greatest word of all was
used it counts from the greatest id that was. -/
structure Remembers (steps : List (Step S)) (held : SnapshotTable S) : Prop where
  greatest : ¬ Used steps Int64.maxValue → Greatest steps held.lastId
  find_iff : ∀ id s, held.find id = some s ↔ Latest steps id s

/-- The id after the greatest one is fresh, unless there is none. -/
theorem Greatest.toInt_succ {steps : List (Step S)} {last : Int64} (h : Greatest steps last)
    (hmax : ¬ Used steps Int64.maxValue) : (last + 1).toInt = last.toInt + 1 := by
  apply Word.toInt_add_one
  rintro rfl
  rcases h.last_used with hzero | hused
  · cases hzero
  · exact hmax hused

/-- A step that stored nothing leaves the ids as they are. -/
theorem Remembers.unstored {steps : List (Step S)} {held held' : SnapshotTable S}
    (h : Remembers steps held) {step : Step S} (hs : ∀ id s, ¬ step.Stores id s)
    (hl : held'.lastId = held.lastId)
    (hf : ∀ id s, held'.find id = some s ↔ held.find id = some s ∧ ¬ step.Removes id) :
    Remembers (steps ++ [step]) held' where
  greatest hmax := by
    have hused (id : Int64) : Used (steps ++ [step]) id ↔ Used steps id := by
      simp [used_concat, hs]
    rw [hused] at hmax
    obtain ⟨hnonneg, hle, hlast⟩ := h.greatest hmax
    rw [hl]
    exact ⟨hnonneg, fun id hu => hle id ((hused id).1 hu), hlast.imp_right (hused _).2⟩
  find_iff id s := by
    rw [hf, h.find_iff, latest_concat]
    simp [hs]

theorem stores_iff {s stored other : S} {own id : Int64} (hown : Snapshot.id? stored = some own) :
    (⟨.persist s, .ok (some stored)⟩ : Step S).Stores id other ↔ stored = other ∧ own = id := by
  constructor
  · rintro ⟨hreply, hid⟩
    cases hreply
    exact ⟨rfl, Option.some.inj (hown.symm.trans hid)⟩
  · rintro ⟨rfl, rfl⟩
    exact ⟨rfl, hown⟩

theorem used_of_stored {steps : List (Step S)} {s stored : S} {own id : Int64}
    (hown : Snapshot.id? stored = some own) :
    Used (steps ++ [⟨.persist s, .ok (some stored)⟩]) id ↔ Used steps id ∨ own = id := by
  simp [used_concat, stores_iff hown]

theorem Greatest.persist {steps : List (Step S)} {held held' : SnapshotTable S}
    (h : Greatest steps held.lastId) {s stored : S} (hp : held.persist s = (stored, held'))
    (hmax : ¬ Used steps Int64.maxValue) :
    Greatest (steps ++ [⟨.persist s, .ok (some stored)⟩]) held'.lastId := by
  obtain ⟨own, hown, hassigned | hbrought⟩ := lastId_of_persist hp
  · -- The new id is greater than all before.
    obtain ⟨-, rfl, hlast⟩ := hassigned
    have hnext := h.toInt_succ hmax
    have hnonneg := h.nonneg
    rw [hlast]
    refine ⟨by omega, fun id hu => ?_, .inr ((used_of_stored hown).2 (.inr rfl))⟩
    rcases (used_of_stored hown).1 hu with hu | rfl
    · have hle := h.used_le id hu
      omega
    · exact Int.le_refl _
  · obtain ⟨-, hlast⟩ := hbrought
    have hnonneg := h.nonneg
    rw [hlast]
    split
    · refine ⟨by omega, fun id hu => ?_, .inr ((used_of_stored hown).2 (.inr rfl))⟩
      rcases (used_of_stored hown).1 hu with hu | rfl
      · have hle := h.used_le id hu
        omega
      · exact Int.le_refl _
    · refine ⟨hnonneg, fun id hu => ?_, h.last_used.imp_right fun hu =>
        (used_of_stored hown).2 (.inl hu)⟩
      rcases (used_of_stored hown).1 hu with hu | rfl
      · exact h.used_le id hu
      · omega

theorem Remembers.persist {steps : List (Step S)} {held held' : SnapshotTable S}
    (h : Remembers steps held) {s stored : S} (hp : held.persist s = (stored, held')) :
    Remembers (steps ++ [⟨.persist s, .ok (some stored)⟩]) held' := by
  obtain ⟨own, hown, -⟩ := lastId_of_persist hp
  have hremoves (id : Int64) : ¬ (⟨.persist s, .ok (some stored)⟩ : Step S).Removes id := by
    simp [Step.Removes]
  refine ⟨fun hmax => ?_, fun id other => ?_⟩
  · have hbefore : ¬ Used steps Int64.maxValue := fun hu => hmax (used_concat.2 (.inl hu))
    exact (h.greatest hbefore).persist hp hbefore
  · rw [find_of_persist hp, latest_concat, hown]
    by_cases he : own = id
    · simp [stores_iff hown, he]
    · simp [stores_iff hown, hremoves, he, h.find_iff]

theorem Remembers.delete {steps : List (Step S)} {held held' : SnapshotTable S}
    (h : Remembers steps held) {s : S} (hd : held.delete s = .ok held') :
    Remembers (steps ++ [⟨.delete s, .ok none⟩]) held' := by
  have hlast : held'.lastId = held.lastId := by
    unfold SnapshotTable.delete at hd
    split at hd
    · split at hd
      · cases hd
        rfl
      · cases hd
    · cases hd
  refine h.unstored (by simp [Step.Stores]) hlast fun id other => ?_
  rw [find_of_delete hd]
  by_cases he : Snapshot.id? s = some id
  · simp [Step.Removes, he]
  · simp [Step.Removes, he]

theorem Remembers.clear {steps : List (Step S)} {held : SnapshotTable S} (h : Remembers steps held) :
    Remembers (steps ++ [⟨.clear, .ok none⟩]) held.clear := by
  refine h.unstored (by simp [Step.Stores]) rfl fun id other => ?_
  rw [find_clear]
  simp [Step.Removes]

theorem Remembers.performed {steps : List (Step S)} {held held' : SnapshotTable S}
    (h : Remembers steps held) {call : Call S} {reply : Except DomainError (Option S)}
    (hp : Performed held call reply held') : Remembers (steps ++ [⟨call, reply⟩]) held' := by
  cases hp with
  | stored hp => exact h.persist hp
  | deleted hd => exact h.delete hd
  | cleared => exact h.clear
  | undeleted =>
      apply h.unstored
      · simp [Step.Stores]
      · rfl
      · simp [Step.Removes]

end SnapshotTable

end EventSourcing
