import EventSourcing.Proofs.Errands
import EventSourcing.Proofs.Exclusive

/-!
# Calls that take a lock

What is left of a call, from before it asks for the lock of its entity until it has ended. Between
taking its ticket and giving it back it is alone on the page of its entity, so that the page it finds
when its ticket holds settles its result and what it leaves behind.
-/

namespace EventSourcing

theorem Routine.wait_bind {σ α β : Type} (halt : Halt σ) (r : Routine σ α) (f : α → Routine σ β) :
    wait halt r >>= f = wait halt (r >>= f) := by
  change bind _ _ = wait halt (bind _ _)
  simp only [wait, bind]
  congr 1
  funext s
  split <;> rfl

/-- Work behind the gate: a ticket is taken, and the rest waits until it holds. -/
theorem Gate.hold_locked_bind {σ α γ : Type} (table : Cell σ LockTable) (entity : Int64)
    (body : Interleaved σ γ) (f : γ → Interleaved σ α) :
    (locked table).hold entity body >>= f =
      (do
        let ticket ← table.visit fun locks => locks.take entity
        Routine.wait (.awaiting fun s => (table.get s.state).holds ticket) do
          let c ← body
          table.update fun locks => locks.giveBack ticket
          f c) := by
  simp only [hold, locked, bind_assoc, pure_bind, Routine.wait_bind]
  rfl

namespace Workplace

variable {σ P α β γ : Type}

section

variable (place : Workplace σ P) (fit : Int64 → P → Prop) (seen : α → β)

/-- What is left changes nothing any more and ends with a result. -/
inductive Ends (result : β) : Interleaved σ α → Prop
  | done {a : α} (ha : seen a = result) : Ends result (.done a)
  | quiet {change : Session σ → Session σ} {rest : Session σ → Interleaved σ α}
      (hc : ∀ s, (change s).state = s.state) (hr : ∀ s, Ends result (rest s)) :
      Ends result (.act change rest)

/-- The ticket holds: what is left works on the page of its entity until it gives the ticket back,
and then the result and the page are as promised. -/
inductive Inside (ticket : Ticket) (promise : β × P) : Interleaved σ α → P → Prop
  | work {change : Session σ → Session σ} {rest : Session σ → Interleaved σ α} {page : P}
      (hc : ∀ s, place.page s.state ticket.entity = page →
        place.OnlyOn ticket.entity s.state (change s).state)
      (hr : ∀ s, place.page s.state ticket.entity = page →
        Inside ticket promise (rest s) (place.page (change s).state ticket.entity)) :
      Inside ticket promise (.act change rest) page
  | leave {change : Session σ → Session σ} {rest : Session σ → Interleaved σ α}
      (hc : ∀ s, (change s).state =
        place.locks.set ((place.locks.get s.state).giveBack ticket) s.state)
      (hr : ∀ s, Ends seen promise.1 (rest s)) :
      Inside ticket promise (.act change rest) promise.2

/-- What is left waits until its ticket holds, and keeps to its errand from the page that it finds
then. -/
inductive Waiting (ticket : Ticket) (errand : Errand P β) : Interleaved σ α → Prop
  | asking {rest : Interleaved σ α}
      (hr : ∀ page, fit ticket.entity page →
        place.Inside seen ticket (errand.outcome page) rest page) :
      Waiting ticket errand
        (.wait (.awaiting fun s => (place.locks.get s.state).holds ticket) rest)
  | halted {rest : Interleaved σ α}
      (hr : ∀ page, fit ticket.entity page →
        place.Inside seen ticket (errand.outcome page) rest page) :
      Waiting ticket errand
        (.stop (.awaiting fun s => (place.locks.get s.state).holds ticket) rest)

/-- No ticket was taken so far: what is left either ends without one, and leaves the page as it is
whatever it is, or takes one for the entity of its errand. -/
inductive Outside (errand : Errand P β) : Interleaved σ α → Prop
  | refused {a : α} (ha : ∀ page, errand.outcome page = (seen a, page)) : Outside errand (.done a)
  | quiet {change : Session σ → Session σ} {rest : Session σ → Interleaved σ α}
      (hc : ∀ s, (change s).state = s.state) (hr : ∀ s, Outside errand (rest s)) :
      Outside errand (.act change rest)
  | take {change : Session σ → Session σ} {rest : Session σ → Interleaved σ α}
      (hc : ∀ s, (change s).state =
        place.locks.set ((place.locks.get s.state).take errand.entity).2 s.state)
      (hr : ∀ s, place.Waiting fit seen ((place.locks.get s.state).take errand.entity).1 errand
        (rest s)) :
      Outside errand (.act change rest)

end

/-! ## Calls through the gate -/

variable {place : Workplace σ P} {fit : Int64 → P → Prop} {seen : α → β} {errand : Errand P β}

theorem inside_of_works {ticket : Ticket} {promise : β × P} {page : P} {body : Interleaved σ γ}
    {f : γ → Interleaved σ α}
    (h : place.Works ticket.entity body page fun c page' =>
      page' = promise.2 ∧ Ends seen promise.1 (f c)) :
    place.Inside seen ticket promise
      (do
        let c ← body
        place.locks.update fun locks => locks.giveBack ticket
        f c)
      page := by
  change place.Inside seen ticket promise (body.bind _) page
  induction body generalizing page with
  | done c =>
      obtain ⟨rfl, hends⟩ := h
      exact .leave (fun _ => rfl) fun _ => hends
  | act change rest ih => exact .work (fun s hs => (h s hs).1) fun s hs => ih s (h s hs).2
  | stop halt rest => exact h.elim

theorem outside_of_hold {body : Interleaved σ γ} {f : γ → Interleaved σ α}
    (h : ∀ page, fit errand.entity page → place.Works errand.entity body page fun c page' =>
      page' = (errand.outcome page).2 ∧ Ends seen (errand.outcome page).1 (f c)) :
    place.Outside fit seen errand
      (do
        let c ← (Gate.locked place.locks).hold errand.entity body
        f c) := by
  rw [Gate.hold_locked_bind]
  exact .take (fun _ => rfl) fun _ => .asking fun page hp => inside_of_works (h page hp)

end Workplace

end EventSourcing
