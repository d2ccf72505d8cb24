import EventSourcing.Error
import EventSourcing.Trace
import EventSourcing.Uuid
import Std.Data.ExtTreeMap

/-!
# What a program asks of its host

The program is written once, for every monad in which a step can read and change the state, several
programs can run side by side, and a program can give way to the others. How side-by-side programs
take turns is the host's choice.
-/

namespace EventSourcing

structure Session (σ : Type) where
  state : σ
  ids : IdSource := {}
  /-- The trace so far, latest entry first. -/
  trace : List Trace.Entry := []
  round : Nat := 0
  pauses : Nat := 0

class Host (σ : outParam Type) (m : Type → Type) extends Monad m where
  step : {α : Type} → (Session σ → α × Session σ) → m α
  /-- Lets the programs that run side by side with this one go on. -/
  giveWay : m Unit
  /-- Runs programs side by side and gives their results in order. -/
  together : {α : Type} → List (m α) → m (List α)

abbrev Fallible (m : Type → Type) (α : Type) : Type := ExceptT DomainError m α

namespace Host

variable {σ : Type} {m : Type → Type} [Host σ m]

def onState {α : Type} (f : σ → α × σ) : m α :=
  step fun s => let (a, state) := f s.state; (a, { s with state })

def freshId : m Uuid :=
  step fun s => let (id, ids) := s.ids.draw; (id, { s with ids })

def emit (entry : Trace.Entry) : m Unit :=
  step fun s => ((), { s with trace := entry :: s.trace })

/-- The result of a program that may fail, as a value. -/
def attempt {α : Type} (program : Fallible m α) : m (Except DomainError α) := program.run

/-- A program that may fail, from its result. -/
def settle {α : Type} (result : Except DomainError α) : Fallible m α := ExceptT.mk (pure result)

/-- A program that never fails, among those that may. -/
def sure {α : Type} (program : m α) : Fallible m α := ExceptT.lift program

/-- Adds an entry to the trace of a program that may fail. -/
def note (entry : Trace.Entry) : Fallible m Unit := sure (emit entry)

/-- A program inside of a span, which is closed whether the program fails or not. -/
def during {α : Type} (span : Trace.Span) (program : Fallible m α) : Fallible m α :=
  ExceptT.mk do
    emit (.opened span)
    let result ← program.run
    emit (.closed span.name)
    pure result

end Host

structure Cell (σ τ : Type) where
  get : σ → τ
  set : τ → σ → σ
  get_set : ∀ v s, get (set v s) = v
  /-- Of two values put into the part the second stays. -/
  set_set : ∀ v w s, set v (set w s) = set v s

namespace Cell

variable {σ τ υ : Type}

def modify (cell : Cell σ τ) (f : τ → τ) (s : σ) : σ := cell.set (f (cell.get s)) s

def whole (σ : Type) : Cell σ σ where
  get s := s
  set v _ := v
  get_set _ _ := rfl
  set_set _ _ _ := rfl

/-- The first of two parts. -/
def first : Cell (σ × τ) σ where
  get s := s.1
  set v s := (v, s.2)
  get_set _ _ := rfl
  set_set _ _ _ := rfl

def second : Cell (σ × τ) τ where
  get s := s.2
  set v s := (s.1, v)
  get_set _ _ := rfl
  set_set _ _ _ := rfl

def within (outer : Cell σ τ) (inner : Cell τ υ) : Cell σ υ where
  get s := inner.get (outer.get s)
  set v s := outer.set (inner.set v (outer.get s)) s
  get_set v s := by simp [outer.get_set, inner.get_set]
  set_set v w s := by simp [outer.get_set, outer.set_set, inner.set_set]

/-- The place of a key in a table; what is in it is `absent` as long as nothing was put there. -/
def slot {κ : Type} [Ord κ] [Std.TransOrd κ] [Std.LawfulEqOrd κ] (key : κ) (absent : τ) :
    Cell (Std.ExtTreeMap κ τ) τ where
  get table := (table[key]?).getD absent
  set v table := table.insert key v
  get_set v table := by simp
  set_set v w table := by
    apply Std.ExtTreeMap.ext_getElem?
    intro k
    simp only [Std.ExtTreeMap.getElem?_insert]
    split <;> rfl

variable {m : Type → Type} [Host σ m]

/-- What is seen of the part; nothing changes. -/
def look {α : Type} (cell : Cell σ τ) (f : τ → α) : m α := Host.onState fun s => (f (cell.get s), s)

def visit {α : Type} (cell : Cell σ τ) (f : τ → α × τ) : m α :=
  Host.onState fun s => let (a, v) := f (cell.get s); (a, cell.set v s)

def update (cell : Cell σ τ) (f : τ → τ) : m Unit := Host.onState fun s => ((), cell.modify f s)

/-- Changes the part in one step, or fails and changes nothing. -/
def attempt {ε α : Type} (cell : Cell σ τ) (f : τ → Except ε (α × τ)) : m (Except ε α) :=
  Host.onState fun s =>
    match f (cell.get s) with
    | .ok (a, v) => (.ok a, cell.set v s)
    | .error e => (.error e, s)

end Cell

end EventSourcing
