import EventSourcing.Host

/-!
# Running one thing after the other

The host in which nothing interleaves: giving way does nothing, and programs that are to run side by
side run one after the other, in order.
-/

namespace EventSourcing

/-- A program over a state that runs without interruption. -/
abbrev Sequential (σ : Type) : Type → Type := StateM (Session σ)

namespace Sequential

variable {σ : Type} {α : Type}

def inOrder : List (Sequential σ α) → Sequential σ (List α)
  | [] => pure []
  | program :: programs => do
    let a ← program
    let as ← inOrder programs
    pure (a :: as)

instance : Host σ (Sequential σ) where
  step f := fun s => f s
  giveWay := pure ()
  together := inOrder

def runOn (program : Sequential σ α) (session : Session σ) : α × Session σ := program session

end Sequential

end EventSourcing
