import EventSourcing.Dispatcher
import EventSourcing.Proofs.Crowds

/-!
# Fan-outs in which the subscribers take turns

Programs with their results here come to an end in steps, whatever others do in between. A fan-out gives
its envelope to each subscriber, and sums up what they make of it in the order of the subscribers.
-/

namespace EventSourcing

variable {σ α β : Type}

namespace Interleaved

variable {steps : List (Session σ × Session σ)} {result : Except DomainError β}

theorem ends_of_bind {p : Interleaved σ α} {f : α → Interleaved σ β} {b : β}
    (h : Routine.Ends (p >>= f) steps b) :
    ∃ own a later, p.Ends own a ∧ (f a).Ends later b ∧ steps = own ++ later :=
  Routine.Ends.of_bind h

theorem ends_of_sure {p : Interleaved σ β}
    (h : Routine.Ends (Host.sure p : Fallible (Interleaved σ) β).run steps result) :
    ∃ b, result = .ok b ∧ p.Ends steps b := by
  obtain ⟨own, b, later, hown, hlater, rfl⟩ := ends_of_bind h
  cases hlater
  rw [List.append_nil]
  exact ⟨b, rfl, hown⟩

theorem ends_of_settle {settled : Except DomainError β}
    (h : Routine.Ends (Host.settle settled : Fallible (Interleaved σ) β).run steps result) :
    result = settled := by
  cases h
  rfl

theorem ends_of_during {span : Trace.Span} {p : Fallible (Interleaved σ) β}
    (h : Routine.Ends (Host.during span p).run steps result) :
    ∃ own, own <:+: steps ∧ p.run.Ends own result := by
  obtain ⟨opening, _, _, -, hopened, rfl⟩ := ends_of_bind h
  obtain ⟨own, _, _, hown, hrest, rfl⟩ := ends_of_bind hopened
  obtain ⟨closing, _, _, -, hdone, rfl⟩ := ends_of_bind hrest
  cases hdone
  exact ⟨own, ⟨opening, closing ++ [], List.append_assoc ..⟩, hown⟩

theorem ends_of_andThen {p : Fallible (Interleaved σ) α} {f : α → Fallible (Interleaved σ) β}
    (h : Routine.Ends (p >>= f).run steps result) :
    (∃ failure, p.run.Ends steps (.error failure) ∧ result = .error failure) ∨
      ∃ own a later, p.run.Ends own (.ok a) ∧ (f a).run.Ends later result ∧
        steps = own ++ later := by
  obtain ⟨own, a, later, hown, hlater, rfl⟩ := ends_of_bind (p := p.run) h
  cases a with
  | ok a => exact .inr ⟨own, a, later, hown, hlater, rfl⟩
  | error failure =>
      cases hlater
      rw [List.append_nil]
      exact .inl ⟨failure, hown, rfl⟩

end Interleaved

open Interleaved
open Routine (AllEnd)

variable {P : Type}

/-- Some subscribers are given an envelope side by side, in the course of some steps, and come to their
results, which are listed in the order of the subscribers. -/
structure OfferedTogether (traffic : Traffic) (envelope : Envelope P)
    (subscribers : List (Subscriber (Interleaved σ) P)) (steps : List (Session σ × Session σ))
    (results : List (Except DomainError Unit)) : Prop where
  /-- From some point on to another one nothing is done but to deliver the envelope to all of them. -/
  delivered : ∃ inner, inner <:+: steps ∧
    AllEnd (subscribers.map (Dispatcher.deliver traffic envelope)) inner results
  each : List.Forall₂ (fun subscriber result => ∃ own, own.Sublist steps ∧
    (subscriber.handle envelope).run.Ends own result) subscribers results

namespace Dispatcher

variable {traffic : Traffic} {envelope : Envelope P} {steps : List (Session σ × Session σ)}

theorem ends_of_deliver {subscriber : Subscriber (Interleaved σ) P} {result : Except DomainError Unit}
    (h : Routine.Ends (deliver traffic envelope subscriber) steps result) :
    ∃ own, own.Sublist steps ∧ (subscriber.handle envelope).run.Ends own result := by
  obtain ⟨own, a, later, hown, hlater, rfl⟩ := ends_of_bind h
  refine ⟨own, List.sublist_append_left own later, ?_⟩
  cases a with
  | ok =>
      cases hlater
      exact hown
  | error failure =>
      obtain ⟨_, _, _, -, hdone, -⟩ := ends_of_bind hlater
      cases hdone
      exact hown

theorem offeredTogether_of_allEnd {subscribers : List (Subscriber (Interleaved σ) P)}
    {inner : List (Session σ × Session σ)} {results : List (Except DomainError Unit)}
    (hi : inner <:+: steps)
    (h : AllEnd (subscribers.map (deliver traffic envelope)) inner results) :
    OfferedTogether traffic envelope subscribers steps results := by
  refine ⟨⟨inner, hi, h⟩, (List.forall₂_map_left_iff.1 h.each).imp ?_⟩
  rintro subscriber result ⟨own, hs, he⟩
  obtain ⟨handled, hh, hr⟩ := ends_of_deliver he
  exact ⟨handled, hh.trans (hs.trans hi.sublist), hr⟩

/-- However the subscribers take turns, and whatever else goes on, each is given the envelope. -/
theorem offeredTogether_of_dispatch [PayloadKind P] {dispatcher : Dispatcher (Interleaved σ) P}
    {result : Except DomainError Unit}
    (h : (dispatcher.dispatch envelope).run.Ends steps result) :
    ∃ results,
      OfferedTogether dispatcher.traffic envelope dispatcher.subscribers steps results ∧
        result = settled results := by
  unfold dispatch at h
  split at h
  · rename_i he
    obtain ⟨_, rfl, -⟩ := ends_of_sure h
    rw [List.isEmpty_iff.1 he]
    exact ⟨[], offeredTogether_of_allEnd List.nil_infix (.ended []), rfl⟩
  · rcases ends_of_andThen h with ⟨_, hr, -⟩ | ⟨offered, results, later, hr, hs, rfl⟩
    · obtain ⟨_, -, hr⟩ := ends_of_during hr
      obtain ⟨_, hr, -⟩ := ends_of_sure hr
      cases hr
    · obtain ⟨inner, hi, hr⟩ := ends_of_during hr
      obtain ⟨_, hr, he⟩ := ends_of_sure hr
      obtain rfl := Except.ok.inj hr
      refine ⟨results, offeredTogether_of_allEnd ?_ (allEnd_of_together he), ends_of_settle hs⟩
      exact hi.trans (List.prefix_append offered later).isInfix

end Dispatcher

end EventSourcing
