import EventSourcing.Routine

/-!
# Routines in any order

A pool holds routines that run side by side over one state. A schedule says which of them goes on
by one step at a time; a routine that has ended, or that has halted and cannot go on in the state
that is there, makes no step. What holds of every schedule does not depend on how routines take
turns.
-/

namespace EventSourcing

variable {σ α : Type}

namespace Routine

/-- One step of a routine, if it can go on. -/
def advance? : Routine σ α → σ → Option (Routine σ α × σ)
  | done _, _ => none
  | act change rest, s => some (rest s, change s)
  | stop halt rest, s => if halt.canGoOn s then some (rest, s) else none

end Routine

structure Pool (σ α : Type) where
  routines : List (Routine σ α)
  state : σ

namespace Pool

/-- One step of the routine with a number, if it can go on. -/
def advance? (pool : Pool σ α) (i : Nat) : Option (Pool σ α) := do
  let routine ← pool.routines[i]?
  let (routine, state) ← routine.advance? pool.state
  return ⟨pool.routines.set i routine, state⟩

/-- The pool after the steps of a schedule, if all of them can be made. -/
def follow? (pool : Pool σ α) : List Nat → Option (Pool σ α)
  | [] => some pool
  | i :: schedule => (pool.advance? i).bind fun pool => pool.follow? schedule

/-- The results of all routines, once they have ended. -/
def results? (pool : Pool σ α) : Option (List α) := pool.routines.mapM Routine.result?

end Pool

end EventSourcing
