import EventSourcing.Proofs.Pools
import EventSourcing.Proofs.Turns

/-!
# Who comes through

What is seen of a pool of routines that share a table of locks: who takes the tickets, and who goes
on with a ticket that holds, in which order.
-/

namespace EventSourcing

variable {σ α : Type}

/-- Who took the tickets of a table, in the order of the tickets, and who came through with a ticket
that held, in this order. -/
structure Watch where
  takers : List Nat := []
  entered : List Nat := []

namespace Watch

def Owns (watch : Watch) (table : LockTable) (i : Nat) (t : Ticket) : Prop :=
  t ∈ table.tickets ∧ watch.takers[t.serial]? = some i

def mayEnter (watch : Watch) (table : LockTable) (i : Nat) : Bool :=
  table.tickets.any fun t => watch.takers[t.serial]? == some i && table.holds t

/-- What one step of a routine shows: it takes a ticket, or goes on for the first time with a ticket
that holds. -/
def step (watch : Watch) (before after : LockTable) (i : Nat) : Watch where
  takers := if before.nextSerial < after.nextSerial then watch.takers ++ [i] else watch.takers
  entered :=
    if i ∉ watch.entered ∧ watch.mayEnter before i then watch.entered ++ [i] else watch.entered

variable {watch : Watch} {table : LockTable} {i : Nat} {t : Ticket}

theorem Owns.mem_takers (h : watch.Owns table i t) : i ∈ watch.takers := List.mem_of_getElem? h.2

theorem mayEnter_iff :
    watch.mayEnter table i = true ↔ ∃ t, watch.Owns table i t ∧ table.holds t = true := by
  simp only [mayEnter, List.any_eq_true, Bool.and_eq_true, beq_iff_eq, Owns, and_assoc]

theorem Owns.unique (hs : table.Sound) (hn : watch.takers.Nodup) {u : Ticket}
    (ht : watch.Owns table i t) (hu : watch.Owns table i u) : t = u := by
  have hlt := (List.getElem?_eq_some_iff.1 ht.2).1
  exact hs.eq_of_serial ht.1 hu.1
    ((List.getElem?_inj hlt hn).1 (ht.2.trans hu.2.symm))

theorem mayEnter_of_notMem (h : i ∉ watch.takers) : watch.mayEnter table i = false := by
  rw [← Bool.not_eq_true, mayEnter_iff]
  rintro ⟨t, ho, -⟩
  exact h ho.mem_takers

variable {after : LockTable}

theorem step_eq_self (hl : after.nextSerial = table.nextSerial)
    (he : i ∈ watch.entered ∨ watch.mayEnter table i = false) :
    watch.step table after i = watch := by
  rw [step, if_neg (by omega), if_neg]
  rintro ⟨hn, hm⟩
  rcases he with he | he
  · exact hn he
  · rw [he] at hm
    cases hm

theorem entered_step (watch : Watch) (table after : LockTable) (i : Nat) :
    (watch.step table after i).entered = watch.entered ∨
      i ∉ watch.entered ∧ (watch.step table after i).entered = watch.entered ++ [i] := by
  by_cases h : i ∉ watch.entered ∧ watch.mayEnter table i
  · exact .inr ⟨h.1, if_pos h⟩
  · exact .inl (if_neg h)

end Watch

/-- The pool and the watch after the steps of a schedule, if all of them can be made. -/
def Pool.watched? (locks : Cell σ LockTable) (pool : Pool (Session σ) α) (watch : Watch) :
    List Nat → Option (Pool (Session σ) α × Watch)
  | [] => some (pool, watch)
  | i :: schedule => do
    let pool' ← pool.advance? i
    pool'.watched? locks
      (watch.step (locks.get pool.state.state) (locks.get pool'.state.state) i) schedule

/-- The watch makes no difference to what the pool does. -/
theorem Pool.map_fst_watched? (locks : Cell σ LockTable) (pool : Pool (Session σ) α) (watch : Watch)
    (schedule : List Nat) :
    (pool.watched? locks watch schedule).map Prod.fst = pool.follow? schedule := by
  induction schedule generalizing pool watch with
  | nil => rfl
  | cons i schedule ih =>
      simp only [watched?, follow?]
      cases pool.advance? i with
      | none => rfl
      | some pool' => exact ih pool' _

/-- What each step keeps, a schedule keeps. -/
theorem Pool.of_watched? {locks : Cell σ LockTable} {P : Pool (Session σ) α → Watch → Prop}
    (hstep : ∀ pool watch i next, P pool watch → pool.advance? i = some next →
      P next (watch.step (locks.get pool.state.state) (locks.get next.state.state) i))
    {pool pool' : Pool (Session σ) α} {watch watch' : Watch} {schedule : List Nat}
    (h : P pool watch) (hw : pool.watched? locks watch schedule = some (pool', watch')) :
    P pool' watch' := by
  induction schedule generalizing pool watch with
  | nil =>
      cases hw
      exact h
  | cons i schedule ih =>
      obtain ⟨next, hn, hrest⟩ := Option.bind_eq_some_iff.1 hw
      exact ih (hstep pool watch i next h hn) hrest

/-- Only routines of the pool come through, and each of them once. -/
theorem Pool.entered_of_watched? {locks : Cell σ LockTable} {pool pool' : Pool (Session σ) α}
    {watch : Watch} {schedule : List Nat}
    (hw : pool.watched? locks {} schedule = some (pool', watch)) :
    pool'.routines.length = pool.routines.length ∧ watch.entered.Nodup ∧
      ∀ i ∈ watch.entered, i < pool.routines.length := by
  refine Pool.of_watched? (P := fun p w => p.routines.length = pool.routines.length ∧
    w.entered.Nodup ∧ ∀ i ∈ w.entered, i < pool.routines.length) ?_
    ⟨rfl, List.nodup_nil, by simp⟩ hw
  rintro before w i next ⟨hl, hn, hlt⟩ hnext
  obtain ⟨r, _, _, hr, -⟩ := Pool.of_advance? hnext
  have hi : i < pool.routines.length := hl ▸ (List.getElem?_eq_some_iff.1 hr).1
  refine ⟨(Pool.length_of_advance? hnext).trans hl, ?_⟩
  obtain he | ⟨hi', he⟩ :=
    w.entered_step (locks.get before.state.state) (locks.get next.state.state) i
  · exact he ▸ ⟨hn, hlt⟩
  · rw [he]
    refine ⟨List.concat_eq_append ▸ hn.concat hi', fun j hj => ?_⟩
    rcases List.mem_append.1 hj with hj | hj
    · exact hlt j hj
    · rwa [List.mem_singleton.1 hj]

end EventSourcing
