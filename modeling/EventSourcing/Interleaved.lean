import EventSourcing.Crowd
import EventSourcing.Host

/-!
# Interleaved programs

Programs that run side by side take turns. A program that gives way wants its next turn in the next
round; a new round begins when all programs have halted. A few programs side by side have their
turns in order, more of them by the queue of a crowd.
-/

namespace EventSourcing

/-- A program over a state that gives way where it says so. -/
abbrev Interleaved (σ : Type) : Type → Type := Routine (Session σ)

namespace Interleaved

variable {σ α : Type}

/-- Lets the others have their turn; the program wants its own in the next round. -/
def giveWay : Interleaved σ Unit :=
  .act (fun s => { s with pauses := s.pauses + 1 }) fun s =>
    .stop ⟨fun _ => true, fun now => now.round != s.round, s.pauses + 1⟩ (.done ())

/-- The greatest number of programs that have their turns in order. -/
def orderlyLimit : Nat := 30

def together (programs : List (Interleaved σ α)) : Interleaved σ (List α) :=
  if programs.length ≤ orderlyLimit then Routine.all programs
  else (Crowd.ofList programs).routine

/-- Runs a program that has no other beside it. Whenever it halts, a new round begins; there is no
result if it cannot go on even so. -/
def run : Interleaved σ α → Session σ → Option α × Session σ
  | .done a, s => (some a, s)
  | .act change rest, s => run (rest s) (change s)
  | .stop halt rest, s =>
    let s := { s with round := s.round + 1 }
    if halt.canGoOn s then run rest s else (none, s)

end Interleaved

instance {σ : Type} : Host σ (Interleaved σ) where
  step f := .act (fun s => (f s).2) fun s => .done (f s).1
  giveWay := Interleaved.giveWay
  together := Interleaved.together

namespace Interleaved

/-- A program that notes a number, gives way and notes it once more. -/
def notesTwice (n : Nat) : Interleaved (List Nat) Unit := do
  Host.onState fun s => ((), s ++ [n])
  Host.giveWay
  Host.onState fun s => ((), s ++ [n])

/-- A few programs keep their order in each round. -/
example : (run (together [notesTwice 1, notesTwice 2, notesTwice 3]) ⟨[], {}, [], 0, 0⟩).2.state =
    [1, 2, 3, 1, 2, 3] := by
  cbv

/-- In a crowd the one that gave way last is the first of the next round. -/
example :
    (run (Crowd.ofList [notesTwice 1, notesTwice 2, notesTwice 3]).routine
      ⟨[], {}, [], 0, 0⟩).2.state = [1, 2, 3, 3, 2, 1] := by
  cbv

end Interleaved

end EventSourcing
