import EventSourcing.LockTable
import Mathlib.Data.List.Induction

/-!
# Tickets and their locks

However tickets are taken and given back, and however often the table is pruned on the way, all
tickets of an entity are of one lock, which stays in the table as long as one of them is out. Those
that are out are just those that were taken and have not been given back since.
-/

namespace EventSourcing

namespace LockTable

/-! ## Moves -/

/-- Somebody asks for an entity, or gives a ticket back, be it one that holds or one that still
waits. -/
inductive Move where
  | take (entity : Int64)
  | giveBack (ticket : Ticket)
  deriving DecidableEq

def after (table : LockTable) : Move → LockTable
  | .take entity => (table.take entity).2
  | .giveBack ticket => table.giveBack ticket

/-- The table after some moves, from an empty one. -/
def reached (moves : List Move) : LockTable := moves.foldl after {}

theorem reached_concat (moves : List Move) (move : Move) :
    reached (moves ++ [move]) = (reached moves).after move := by
  rw [reached, List.foldl_append]
  rfl

/-! ## Tables in which each entity has one lock -/

structure Sound (table : LockTable) : Prop where
  /-- A ticket that is out is of the lock that the table has for its entity. -/
  tracked : ∀ t ∈ table.tickets, table.locks[t.entity]? = some t.lock
  apart : ∀ {entity other : Int64} {lock : Nat}, table.locks[entity]? = some lock →
    table.locks[other]? = some lock → entity = other
  made : ∀ {entity : Int64} {lock : Nat}, table.locks[entity]? = some lock → lock < table.nextLock
  inOrder : table.tickets.Pairwise fun t u => t.serial < u.serial
  issued : ∀ t ∈ table.tickets, t.serial < table.nextSerial

theorem sound_empty : Sound {} where
  tracked t ht := by simp at ht
  apart h := by simp at h
  made h := by simp at h
  inOrder := .nil
  issued t ht := by simp at ht

variable {table : LockTable}

theorem Sound.pruneIfDue (h : table.Sound) : table.pruneIfDue.Sound := by
  unfold LockTable.pruneIfDue
  split
  · exact h
  · have hkept {entity : Int64} {lock : Nat}
        (hl : (table.locks.filter fun _ lock => table.inUse lock)[entity]? = some lock) :
        table.locks[entity]? = some lock := by
      rw [Std.ExtTreeMap.getElem?_filter', Option.filter_eq_some_iff] at hl
      exact hl.1
    -- A lock with a ticket out is in use, so that it is not among those that are dropped.
    refine ⟨fun t ht => ?_, fun hl ho => h.apart (hkept hl) (hkept ho), fun hl => h.made (hkept hl),
      h.inOrder, h.issued⟩
    rw [Std.ExtTreeMap.getElem?_filter', Option.filter_eq_some_iff]
    exact ⟨h.tracked t ht, List.any_eq_true.2 ⟨t, ht, beq_self_eq_true t.lock⟩⟩

theorem Sound.lockOf (h : table.Sound) (entity : Int64) :
    (table.lockOf entity).2.Sound ∧
      (table.lockOf entity).2.locks[entity]? = some (table.lockOf entity).1 := by
  unfold LockTable.lockOf
  split
  · rename_i lock hl
    exact ⟨h, hl⟩
  · rename_i hn
    have hinsert (other : Int64) : (table.locks.insert entity table.nextLock)[other]? =
        if entity = other then some table.nextLock else table.locks[other]? := by
      simp [Std.ExtTreeMap.getElem?_insert]
    refine ⟨⟨fun t ht => ?_, fun {a b lock} ha hb => ?_, fun {a lock} ha => ?_, h.inOrder, h.issued⟩,
      by simp⟩
    · rw [hinsert, if_neg fun he => ?_, h.tracked t ht]
      rw [he, h.tracked t ht] at hn
      cases hn
    · rw [hinsert] at ha hb
      split at ha <;> split at hb
      · simp_all
      · have := h.made hb
        simp_all
      · have := h.made ha
        simp_all
      · exact h.apart ha hb
    · rw [hinsert] at ha
      split at ha
      · simp_all
      · exact Nat.lt_succ_of_lt (h.made ha)

/-! ## What taking a ticket changes -/

theorem tickets_lockOf (table : LockTable) (entity : Int64) :
    (table.pruneIfDue.lockOf entity).2.tickets = table.tickets := by
  unfold LockTable.lockOf LockTable.pruneIfDue
  split <;> split <;> rfl

theorem nextSerial_lockOf (table : LockTable) (entity : Int64) :
    (table.pruneIfDue.lockOf entity).2.nextSerial = table.nextSerial := by
  unfold LockTable.lockOf LockTable.pruneIfDue
  split <;> split <;> rfl

@[simp] theorem serial_take (table : LockTable) (entity : Int64) :
    (table.take entity).1.serial = table.nextSerial := nextSerial_lockOf table entity

@[simp] theorem nextSerial_take (table : LockTable) (entity : Int64) :
    (table.take entity).2.nextSerial = table.nextSerial + 1 :=
  congrArg (· + 1) (nextSerial_lockOf table entity)

@[simp] theorem tickets_take (table : LockTable) (entity : Int64) :
    (table.take entity).2.tickets = table.tickets ++ [(table.take entity).1] :=
  congrArg (· ++ [(table.take entity).1]) (tickets_lockOf table entity)

@[simp] theorem tickets_giveBack (table : LockTable) (ticket : Ticket) :
    (table.giveBack ticket).tickets =
      table.tickets.filter fun t => t.serial != ticket.serial := rfl

/-! ## Moves keep a table sound -/

theorem Sound.take (h : table.Sound) (entity : Int64) : (table.take entity).2.Sound := by
  obtain ⟨hs, hl⟩ := h.pruneIfDue.lockOf entity
  refine ⟨fun t ht => ?_, hs.apart, hs.made, ?_, fun t ht => ?_⟩
  · rw [tickets_take, List.mem_append, List.mem_singleton] at ht
    rcases ht with ht | rfl
    · exact hs.tracked t (by rwa [tickets_lockOf])
    · exact hl
  · rw [tickets_take, List.pairwise_append]
    refine ⟨h.inOrder, List.pairwise_singleton _ _, fun t ht u hu => ?_⟩
    rw [List.mem_singleton.1 hu, serial_take]
    exact h.issued t ht
  · rw [tickets_take, List.mem_append, List.mem_singleton] at ht
    rw [nextSerial_take]
    rcases ht with ht | rfl
    · exact Nat.lt_succ_of_lt (h.issued t ht)
    · rw [serial_take]
      exact Nat.lt_succ_self _

theorem Sound.giveBack (h : table.Sound) (ticket : Ticket) : (table.giveBack ticket).Sound where
  tracked t ht := h.tracked t (List.mem_filter.1 ht).1
  apart := h.apart
  made := h.made
  inOrder := h.inOrder.filter _
  issued t ht := h.issued t (List.mem_filter.1 ht).1

theorem Sound.after (h : table.Sound) (move : Move) : (table.after move).Sound := by
  cases move with
  | take entity => exact h.take entity
  | giveBack ticket => exact h.giveBack ticket

theorem Sound.foldl (h : table.Sound) (moves : List Move) :
    (moves.foldl LockTable.after table).Sound := by
  induction moves generalizing table with
  | nil => exact h
  | cons move moves ih => exact ih (h.after move)

theorem sound_reached (moves : List Move) : (reached moves).Sound := sound_empty.foldl moves

/-! ## Tickets that are out -/

/-- A ticket was taken in the course of some moves, and it has not been given back since. -/
def Out (moves : List Move) (t : Ticket) : Prop :=
  ∃ before entity after, moves = before ++ .take entity :: after ∧
    ((reached before).take entity).1 = t ∧ ∀ u, .giveBack u ∈ after → u.serial ≠ t.serial

variable {moves : List Move} {t : Ticket}

theorem not_out_nil : ¬ Out [] t := by
  rintro ⟨before, entity, after, he, -⟩
  simp at he

theorem out_concat {move : Move} :
    Out (moves ++ [move]) t ↔
      (∃ entity, move = .take entity ∧ ((reached moves).take entity).1 = t) ∨
        Out moves t ∧ ∀ u, move = .giveBack u → u.serial ≠ t.serial := by
  constructor
  · rintro ⟨before, entity, after, he, ht, hback⟩
    -- The ticket was taken with the new move or with one of those before.
    rcases List.eq_nil_or_concat after with rfl | ⟨after, newest, rfl⟩
    · obtain ⟨rfl, htaken⟩ := List.append_inj' he rfl
      exact .inl ⟨entity, List.singleton_inj.1 htaken, ht⟩
    · rw [List.concat_eq_append, ← List.cons_append, ← List.append_assoc] at he
      obtain ⟨rfl, hnewest⟩ := List.append_inj' he rfl
      obtain rfl := List.singleton_inj.1 hnewest
      refine .inr ⟨⟨before, entity, after, rfl, ht, fun u hu => hback u ?_⟩, fun u hu => hback u ?_⟩
      · simp [hu]
      · simp [hu]
  · rintro (⟨entity, rfl, ht⟩ | ⟨⟨before, entity, after, rfl, ht, hback⟩, hlast⟩)
    · exact ⟨moves, entity, [], rfl, ht, nofun⟩
    · refine ⟨before, entity, after ++ [move], by simp, ht, fun u hu => ?_⟩
      rcases List.mem_append.1 hu with hu | hu
      · exact hback u hu
      · exact hlast u (List.mem_singleton.1 hu).symm

/-- The tickets of a table are those that are out. -/
theorem mem_tickets_iff_out : t ∈ (reached moves).tickets ↔ Out moves t := by
  induction moves using List.reverseRecOn with
  | nil => exact iff_of_false List.not_mem_nil not_out_nil
  | append_singleton moves move ih =>
      rw [reached_concat, out_concat, ← ih]
      cases move with
      | take entity =>
          rw [LockTable.after, tickets_take, List.mem_append, List.mem_singleton]
          constructor
          · rintro (ht | rfl)
            · exact .inr ⟨ht, nofun⟩
            · exact .inl ⟨entity, rfl, rfl⟩
          · rintro (⟨_, hm, rfl⟩ | ⟨ht, -⟩)
            · obtain rfl := Move.take.inj hm
              exact .inr rfl
            · exact .inl ht
      | giveBack ticket =>
          rw [LockTable.after, tickets_giveBack, List.mem_filter, bne_iff_ne]
          constructor
          · rintro ⟨ht, hne⟩
            exact .inr ⟨ht, fun u hu => by cases hu; exact hne.symm⟩
          · rintro (⟨_, hm, -⟩ | ⟨ht, hne⟩)
            · cases hm
            · exact ⟨ht, (hne ticket rfl).symm⟩

end LockTable

end EventSourcing
