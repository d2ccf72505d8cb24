import EventSourcing.Proofs.Tickets
import Mathlib.Data.Finset.Card

/-!
# How long the table of locks gets

A prune leaves the locks of those entities alone that are busy, and sets the next mark to twice their
number, if that is not less than the least mark. So the table is never much longer than twice the
greatest number of entities that were busy at once, however many were busy one after the other.
-/

namespace EventSourcing.LockTable

variable {table : LockTable} {entity : Int64}

/-- The entities of which a ticket is out, be it one that holds or one that waits. -/
def busy (table : LockTable) : Finset Int64 := (table.tickets.map Ticket.entity).toFinset

theorem mem_busy_iff : entity ∈ table.busy ↔ ∃ t ∈ table.tickets, t.entity = entity := by
  simp [busy]

theorem Sound.mem_of_mem_busy (h : table.Sound) (hb : entity ∈ table.busy) : entity ∈ table.locks := by
  obtain ⟨t, ht, rfl⟩ := mem_busy_iff.1 hb
  rw [Std.ExtTreeMap.mem_iff_isSome_getElem?, h.tracked t ht, Option.isSome_some]

theorem Sound.mem_busy_of_inUse (h : table.Sound) {lock : Nat}
    (hl : table.locks[entity]? = some lock) (hu : table.inUse lock = true) : entity ∈ table.busy := by
  obtain ⟨t, ht, he⟩ := List.any_eq_true.1 hu
  rw [beq_iff_eq] at he
  exact mem_busy_iff.2 ⟨t, ht, h.apart (h.tracked t ht) (he ▸ hl)⟩

/-- What a prune keeps are locks of busy entities. -/
theorem Sound.size_filter_le (h : table.Sound) :
    (table.locks.filter fun _ lock => table.inUse lock).size ≤ table.busy.card := by
  rw [← Std.ExtTreeMap.length_keys, ← List.toFinset_card_of_nodup Std.ExtTreeMap.nodup_keys]
  refine Finset.card_le_card fun entity he => ?_
  rw [List.mem_toFinset, Std.ExtTreeMap.mem_keys, Std.ExtTreeMap.mem_iff_isSome_getElem?,
    Option.isSome_iff_exists] at he
  obtain ⟨lock, hl⟩ := he
  rw [Std.ExtTreeMap.getElem?_filter', Option.filter_eq_some_iff] at hl
  exact h.mem_busy_of_inUse hl.1 hl.2

/-! ## What a move does to the mark and to the size -/

theorem size_pruneIfDue_le (table : LockTable) :
    table.pruneIfDue.locks.size ≤ table.pruneIfDue.pruneAt := by
  unfold pruneIfDue
  split
  · assumption
  · dsimp only
    omega

theorem Sound.pruneAt_pruneIfDue_le (h : table.Sound) :
    table.pruneIfDue.pruneAt ≤ max table.pruneAt (max (2 * table.busy.card) pruneThreshold) := by
  unfold LockTable.pruneIfDue
  split
  · exact Nat.le_max_left _ _
  · have := h.size_filter_le
    dsimp only
    omega

theorem pruneAt_lockOf (table : LockTable) (entity : Int64) :
    (table.lockOf entity).2.pruneAt = table.pruneAt := by
  unfold lockOf
  split <;> rfl

theorem size_lockOf_le (table : LockTable) (entity : Int64) :
    (table.lockOf entity).2.locks.size ≤ table.locks.size + 1 := by
  unfold lockOf
  split
  · exact Nat.le_succ _
  · exact Std.ExtTreeMap.size_insert_le

theorem Sound.pruneAt_take_le (h : table.Sound) (entity : Int64) :
    (table.take entity).2.pruneAt ≤ max table.pruneAt (max (2 * table.busy.card) pruneThreshold) :=
  Nat.le_trans (Nat.le_of_eq (pruneAt_lockOf _ entity)) h.pruneAt_pruneIfDue_le

/-- A table may be one lock longer than its mark, as it is pruned before the lock is made. -/
theorem tracked_take_le (table : LockTable) (entity : Int64) :
    (table.take entity).2.tracked ≤ (table.take entity).2.pruneAt + 1 :=
  calc (table.pruneIfDue.lockOf entity).2.locks.size
      ≤ table.pruneIfDue.locks.size + 1 := size_lockOf_le _ entity
    _ ≤ table.pruneIfDue.pruneAt + 1 := Nat.succ_le_succ table.size_pruneIfDue_le
    _ = (table.pruneIfDue.lockOf entity).2.pruneAt + 1 := by rw [pruneAt_lockOf]

/-! ## Tables that are not too long -/

/-- A table is as long as it may be where at most `peak` entities were busy at once. -/
structure Within (peak : Nat) (table : LockTable) : Prop where
  mark : table.pruneAt ≤ max pruneThreshold (2 * peak)
  size : table.tracked ≤ table.pruneAt + 1

theorem within_empty (peak : Nat) : Within peak {} :=
  ⟨Nat.le_max_left _ _, Nat.zero_le _⟩

theorem Within.after {peak : Nat} (hw : table.Within peak) (h : table.Sound)
    (hb : table.busy.card ≤ peak) (move : Move) : (table.after move).Within peak := by
  cases move with
  | take entity =>
      have hmark := h.pruneAt_take_le entity
      have hold := hw.mark
      exact ⟨by rw [LockTable.after]; omega, table.tracked_take_le entity⟩
  | giveBack ticket => exact ⟨hw.mark, hw.size⟩

theorem within_reached {peak : Nat} {moves : List Move}
    (hp : ∀ front, front <+: moves → (reached front).busy.card ≤ peak) :
    (reached moves).Within peak := by
  induction moves using List.reverseRecOn with
  | nil => exact within_empty peak
  | append_singleton moves move ih =>
      rw [reached_concat]
      refine (ih fun front hf => ?_).after (sound_reached moves) (hp moves ?_) move
      · exact hp front (hf.trans (List.prefix_append moves [move]))
      · exact List.prefix_append moves [move]

theorem mem_busy_reached_iff {moves : List Move} :
    entity ∈ (reached moves).busy ↔ ∃ t, Out moves t ∧ t.entity = entity := by
  rw [mem_busy_iff]
  exact exists_congr fun t => and_congr_left' mem_tickets_iff_out

/-- If at most `peak` entities are ever busy at once, the table never has more than so many locks, and
those of the entities that are busy are among them, whatever entities there were before. An entity is
busy as long as one of its tickets was not given back. -/
theorem tracked_le_of_peak (moves : List Move) (peak : Nat)
    (hp : ∀ front, front <+: moves → (reached front).busy.card ≤ peak) :
    ∀ front, front <+: moves →
      (reached front).tracked ≤ max 1024 (2 * peak) + 1 ∧
        (∀ entity ∈ (reached front).busy, entity ∈ (reached front).locks) ∧
        ∀ entity, entity ∈ (reached front).busy ↔ ∃ t, Out front t ∧ t.entity = entity := by
  intro front hf
  have hw := within_reached fun start hs => hp start (hs.trans hf)
  refine ⟨Nat.le_trans hw.size (Nat.succ_le_succ hw.mark), fun entity hb => ?_,
    fun entity => mem_busy_reached_iff⟩
  exact (sound_reached front).mem_of_mem_busy hb

/-! ## One entity after the other -/

/-- So many entities are asked for and left again, one after the other; `first` is the number of the
first ticket. -/
def visits (first : Nat) : Nat → List Move
  | 0 => []
  | n + 1 => visits first n ++ [.take (Int64.ofNat n), .giveBack ⟨first + n, Int64.ofNat n, 0⟩]

theorem append_visits_succ (moves : List Move) (first n : Nat) : moves ++ visits first (n + 1) =
    (moves ++ visits first n ++ [.take (Int64.ofNat n)]) ++
      [.giveBack ⟨first + n, Int64.ofNat n, 0⟩] := by
  simp [visits]

/-- Those who come and go leave the tickets as they were. -/
theorem tickets_visits {moves : List Move} {first : Nat} (hf : (reached moves).nextSerial = first)
    (n : Nat) :
    (reached (moves ++ visits first n)).tickets = (reached moves).tickets ∧
      (reached (moves ++ visits first n)).nextSerial = first + n := by
  induction n with
  | zero => exact ⟨by rw [visits, List.append_nil], by rw [visits, List.append_nil, hf, Nat.add_zero]⟩
  | succ n ih =>
      have hearlier : ∀ t ∈ (reached moves).tickets, (t.serial != first + n) = true := fun t ht => by
        have := (sound_reached moves).issued t ht
        rw [bne_iff_ne]
        omega
      rw [append_visits_succ, reached_concat, reached_concat]
      simp only [LockTable.after, tickets_giveBack, tickets_take, List.filter_append, ih.1,
        List.filter_eq_self.2 hearlier]
      simp [LockTable.giveBack, ih.2, Nat.add_assoc]

theorem busy_visits_le {moves : List Move} {first peak : Nat}
    (hf : (reached moves).nextSerial = first)
    (hp : ∀ front, front <+: moves → (reached front).busy.card ≤ peak)
    (hroom : (reached moves).tickets.length < peak) (n : Nat) :
    ∀ front, front <+: moves ++ visits first n → (reached front).busy.card ≤ peak := by
  induction n with
  | zero => simpa [visits] using hp
  | succ n ih =>
      intro front hfront
      rw [append_visits_succ, List.prefix_concat_iff, List.prefix_concat_iff] at hfront
      rcases hfront with rfl | rfl | hfront
      · rw [← append_visits_succ, busy, (tickets_visits hf (n + 1)).1]
        exact hp moves (List.prefix_refl moves)
      · rw [reached_concat, busy, LockTable.after, tickets_take, (tickets_visits hf n).1]
        refine Nat.le_trans (List.toFinset_card_le _) ?_
        rw [List.length_map, List.length_append, List.length_singleton]
        exact hroom
      · exact ih front hfront

/-- Five thousand entities one after the other leave no more locks than one at once allows. -/
theorem tracked_le_of_visits :
    (∀ front, front <+: visits 0 5000 → (reached front).busy.card ≤ 1) ∧
      (reached (visits 0 5000)).tracked ≤ 1025 := by
  have hnil : ∀ front : List Move, front <+: [] → (reached front).busy.card ≤ 1 := fun front hf => by
    rw [List.prefix_nil.1 hf]
    exact Nat.zero_le 1
  have hfirst : (reached []).nextSerial = 0 := rfl
  have hp := busy_visits_le hfirst hnil Nat.zero_lt_one 5000
  rw [List.nil_append] at hp
  exact ⟨hp, (tracked_le_of_peak (visits 0 5000) 1 hp _ (List.prefix_refl _)).1⟩

end EventSourcing.LockTable
