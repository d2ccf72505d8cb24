/-!
# Routines that take turns

A routine is a program cut into indivisible steps. Between two steps it may halt, to go on when its
turn comes again. Two routines side by side, or a few of them, take turns in order: each goes on
until it halts or ends, and then it is the next one's turn.
-/

namespace EventSourcing

structure Halt (σ : Type) where
  canGoOn : σ → Bool
  wantsTurn : σ → Bool
  /-- When the routine gave way, counted in all that gave way; 0 if it has halted without. -/
  since : Nat := 0

namespace Halt

variable {σ : Type}

def awaiting (ready : σ → Bool) : Halt σ where
  canGoOn := ready
  wantsTurn := ready

/-- Two that have halted together: what one of them can do or wants, both do. -/
def either (a b : Halt σ) : Halt σ where
  canGoOn s := a.canGoOn s || b.canGoOn s
  wantsTurn s := a.wantsTurn s || b.wantsTurn s
  since := max a.since b.since

end Halt

/-- A program over a state `σ` with a result in `α`. -/
inductive Routine (σ : Type) (α : Type) where
  | done (result : α)
  /-- One indivisible step; what comes after it depends on the state that it found. -/
  | act (change : σ → σ) (rest : σ → Routine σ α)
  | stop (halt : Halt σ) (rest : Routine σ α)

namespace Routine

variable {σ α β γ : Type}

def bind : Routine σ α → (α → Routine σ β) → Routine σ β
  | done a, f => f a
  | act change rest, f => act change fun s => (rest s).bind f
  | stop halt rest, f => stop halt (rest.bind f)

instance : Monad (Routine σ) where
  pure := done
  bind := bind

theorem bind_done (r : Routine σ α) : r.bind done = r := by
  induction r with
  | done a => rfl
  | act change rest ih => simp [bind, ih]
  | stop halt rest ih => simp [bind, ih]

theorem bind_assoc (r : Routine σ α) (f : α → Routine σ β) (g : β → Routine σ γ) :
    (r.bind f).bind g = r.bind fun a => (f a).bind g := by
  induction r with
  | done a => rfl
  | act change rest ih => simp [bind, ih]
  | stop halt rest ih => simp [bind, ih]

instance : LawfulMonad (Routine σ) :=
  LawfulMonad.mk' (Routine σ) bind_done (fun _ _ => rfl) bind_assoc

/-- A routine that goes on at once if it can, and stops otherwise. -/
def wait (halt : Halt σ) (rest : Routine σ α) : Routine σ α :=
  act id fun s => if halt.canGoOn s then rest else stop halt rest

def result? : Routine σ α → Option α
  | done a => some a
  | _ => none

/-! ## Taking turns -/

/-- The second routine's turn after the first has halted. The first goes on as `first` when it can,
and `again` lets the two take turns once more, the first to start. -/
def secondTurn (halt : Halt σ) (first : Routine σ α)
    (again : Routine σ β → Routine σ (α × β)) : Routine σ β → Routine σ (α × β)
  | done b => stop halt (first.bind fun a => done (a, b))
  | act change rest => act change fun s => secondTurn halt first again (rest s)
  | stop other rest =>
    stop (halt.either other) (act id fun s =>
      if halt.canGoOn s then again (wait other rest) else secondTurn halt first again rest)

/-- Two routines that take turns, the first to start. If both have halted, they stop together until
one of them can go on. -/
def both : Routine σ α → Routine σ β → Routine σ (α × β)
  | done a, second => second.bind fun b => done (a, b)
  | act change rest, second => act change fun s => both (rest s) second
  | stop halt rest, second => secondTurn halt rest (fun second => both rest second) second

/-- Routines that take turns in the order of the list. -/
def all : List (Routine σ α) → Routine σ (List α)
  | [] => done []
  | r :: rs => (both r (all rs)).bind fun results => done (results.1 :: results.2)

end Routine

end EventSourcing
