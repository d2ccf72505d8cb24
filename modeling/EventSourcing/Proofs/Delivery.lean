import EventSourcing.Dispatcher
import EventSourcing.Proofs.Sequential
import EventSourcing.Rehearsal.Subscribers

/-!
# Delivering envelopes

What a fan-out comes to when nothing interleaves: the subscribers are given the envelope one after
the other. What all of them leave alone the fan-out leaves alone.
-/

namespace EventSourcing

open EventSourcing.Sequential

variable {σ τ P : Type} {view : σ → τ}

/-- A subscriber changes nothing of what is seen of the state. -/
def Subscriber.Keeps (view : σ → τ) (subscriber : Subscriber (Sequential σ) P) : Prop :=
  ∀ envelope, Sequential.Keeps view (subscriber.handle envelope).run

def Subscriber.Accepts (subscriber : Subscriber (Sequential σ) P) : Prop :=
  ∀ envelope s, (exec (subscriber.handle envelope) s).1 = .ok ()

/-- Every one of some subscribers is given an envelope, one after the other, and takes it. -/
inductive Served (envelope : Envelope P) : List (Subscriber (Sequential σ) P) → σ → σ → Prop
  | nobody (state : σ) : Served envelope [] state state
  | next {subscriber : Subscriber (Sequential σ) P} {others : List (Subscriber (Sequential σ) P)}
      {state between state' : σ} (ht : Yields (subscriber.handle envelope) state (.ok ()) between)
      (hs : Served envelope others between state') :
      Served envelope (subscriber :: others) state state'

/-- Every one of some subscribers is given an envelope, one after the other, whatever the others make
of it. Each comes to a result of its own. -/
inductive Offered (envelope : Envelope P) :
    List (Subscriber (Sequential σ) P) → σ → List (Except DomainError Unit) → σ → Prop
  | nobody (state : σ) : Offered envelope [] state [] state
  | next {subscriber : Subscriber (Sequential σ) P} {others : List (Subscriber (Sequential σ) P)}
      {result : Except DomainError Unit} {results : List (Except DomainError Unit)}
      {state between state' : σ} (hy : Yields (subscriber.handle envelope) state result between)
      (ho : Offered envelope others between results state') :
      Offered envelope (subscriber :: others) state (result :: results) state'

theorem Offered.served {envelope : Envelope P} {subscribers : List (Subscriber (Sequential σ) P)}
    {state state' : σ} {results : List (Except DomainError Unit)}
    (h : Offered envelope subscribers state results state')
    (hf : Dispatcher.failuresOf results = []) : Served envelope subscribers state state' := by
  induction h with
  | nobody => exact .nobody _
  | @next _ _ result _ _ _ _ hy _ ih =>
      cases result with
      | ok => exact .next hy (ih hf)
      | error failure => cases hf

theorem Offered.keeps {envelope : Envelope P} {subscribers : List (Subscriber (Sequential σ) P)}
    (hk : ∀ subscriber ∈ subscribers, subscriber.Keeps view) {state state' : σ}
    {results : List (Except DomainError Unit)}
    (h : Offered envelope subscribers state results state') : view state' = view state := by
  induction h with
  | nobody => rfl
  | next hy _ ih =>
      rw [ih fun other ho => hk other (List.mem_cons_of_mem _ ho),
        Keeps.yields (hk _ List.mem_cons_self envelope) hy]

theorem Served.offered {envelope : Envelope P} {subscribers : List (Subscriber (Sequential σ) P)}
    {state state' : σ} (h : Served envelope subscribers state state') :
    ∃ results, Offered envelope subscribers state results state' := by
  induction h with
  | nobody => exact ⟨[], .nobody _⟩
  | next ht _ ih =>
      obtain ⟨results, ho⟩ := ih
      exact ⟨_, .next ht ho⟩

theorem Subscriber.recorder_accepts (name : String) (received : Cell σ (List (Envelope P))) :
    (Subscriber.recorder name received : Subscriber (Sequential σ) P).Accepts := fun _ _ => rfl

theorem Subscriber.recorder_keeps (name : String) {received : Cell σ (List (Envelope P))}
    (h : ∀ tape s, view (received.set tape s) = view s) :
    (Subscriber.recorder name received : Subscriber (Sequential σ) P).Keeps view :=
  fun _ s => h _ s.state

/-! ## Taking down -/

/-- A subscriber adds all that it is given to a list in the state, whatever else it does. -/
def Subscriber.TakesDown (tape : Cell σ (List (Envelope P)))
    (subscriber : Subscriber (Sequential σ) P) : Prop :=
  ∀ envelope s, tape.get (runOn (subscriber.handle envelope).run s).2.state =
    tape.get s.state ++ [envelope]

theorem Subscriber.recorder_takesDown (name : String) (received : Cell σ (List (Envelope P))) :
    (Subscriber.recorder name received : Subscriber (Sequential σ) P).TakesDown received :=
  fun _ s => received.get_set _ s.state

section

variable {tape : Cell σ (List (Envelope P))} {subscriber : Subscriber (Sequential σ) P}
  {before after : List (Subscriber (Sequential σ) P)} {envelope : Envelope P} {state state' : σ}

theorem Offered.takenDown (ht : subscriber.TakesDown tape)
    (hk : ∀ other ∈ before ++ after, other.Keeps tape.get)
    {results : List (Except DomainError Unit)}
    (h : Offered envelope (before ++ subscriber :: after) state results state') :
    tape.get state' = tape.get state ++ [envelope] := by
  induction before generalizing state results with
  | nil =>
      obtain _ | ⟨hy, ho⟩ := h
      obtain ⟨s, rfl, -, rfl⟩ := hy
      rw [ho.keeps hk]
      exact ht envelope s
  | cons first before ih =>
      obtain _ | ⟨hy, ho⟩ := h
      rw [ih (fun other hm => hk other (List.mem_cons_of_mem _ hm)) ho,
        Keeps.yields (hk first List.mem_cons_self envelope) hy]

end

namespace Dispatcher

/-! ## Results -/

theorem failuresOf_eq_nil {results : List (Except DomainError Unit)}
    (h : ∀ r ∈ results, r = .ok ()) : failuresOf results = [] := by
  induction results with
  | nil => rfl
  | cons r results ih =>
      rw [h r List.mem_cons_self]
      exact ih fun q hq => h q (List.mem_cons_of_mem _ hq)

theorem failuresOf_of_settled {results : List (Except DomainError Unit)}
    (h : settled results = .ok ()) : failuresOf results = [] := by
  unfold settled at h
  split at h
  · cases h
  · rename_i hn
    rcases hf : failuresOf results with _ | ⟨_, _ | _⟩
    · rfl
    · rw [hf] at hn; cases hn
    · rw [hf] at hn; cases hn

theorem settled_eq_ok {results : List (Except DomainError Unit)} (h : ∀ r ∈ results, r = .ok ()) :
    settled results = .ok () := by
  simp [settled, failuresOf_eq_nil h, DomainError.ofFailures?]

theorem settled_cons {result : Except DomainError Unit} {results : List (Except DomainError Unit)}
    (h : ∀ r ∈ results, r = .ok ()) : settled (result :: results) = result := by
  rcases result with failure | ⟨⟩ <;>
    simp [settled, failuresOf, failuresOf_eq_nil h, DomainError.ofFailures?]

/-! ## Fan-outs -/

theorem runOn_deliver_fst (traffic : Traffic) (envelope : Envelope P)
    (subscriber : Subscriber (Sequential σ) P) (s : Session σ) :
    (runOn (deliver traffic envelope subscriber) s).1 =
      (exec (subscriber.handle envelope) s).1 := by
  simp only [deliver, runOn_bind, runOn_attemptThis]
  rcases exec (subscriber.handle envelope) s with ⟨_ | ⟨⟩, _⟩ <;> rfl

theorem state_deliver (traffic : Traffic) (envelope : Envelope P)
    (subscriber : Subscriber (Sequential σ) P) (s : Session σ) :
    (runOn (deliver traffic envelope subscriber) s).2.state =
      (exec (subscriber.handle envelope) s).2.state := by
  simp only [deliver, runOn_bind, runOn_attemptThis]
  rcases exec (subscriber.handle envelope) s with ⟨_ | ⟨⟩, _⟩ <;> rfl

theorem keeps_deliver {traffic : Traffic} {envelope : Envelope P}
    {subscriber : Subscriber (Sequential σ) P} (h : subscriber.Keeps view) :
    Keeps view (deliver traffic envelope subscriber) := by
  intro s
  rw [state_deliver]
  exact h envelope s

theorem together_deliver_ok {traffic : Traffic} {envelope : Envelope P}
    {subscribers : List (Subscriber (Sequential σ) P)}
    (h : ∀ subscriber ∈ subscribers, ∀ s, (exec (subscriber.handle envelope) s).1 = .ok ())
    (s : Session σ) :
    ∀ r ∈ (runOn (Host.together (subscribers.map (deliver traffic envelope))) s).1,
      r = .ok () := by
  induction subscribers generalizing s with
  | nil => simp
  | cons subscriber subscribers ih =>
      intro r hr
      simp only [List.map_cons, runOn_together_cons, List.mem_cons, runOn_deliver_fst] at hr
      rcases hr with rfl | hr
      · exact h subscriber List.mem_cons_self s
      · exact ih (fun q hq => h q (List.mem_cons_of_mem _ hq)) _ r hr

theorem offered_of_together (traffic : Traffic) (envelope : Envelope P)
    (subscribers : List (Subscriber (Sequential σ) P)) (s : Session σ) :
    Offered envelope subscribers s.state
      (runOn (Host.together (subscribers.map (deliver traffic envelope))) s).1
      (runOn (Host.together (subscribers.map (deliver traffic envelope))) s).2.state := by
  induction subscribers generalizing s with
  | nil => exact .nobody _
  | cons subscriber subscribers ih =>
      simp only [List.map_cons, runOn_together_cons, runOn_deliver_fst]
      have hy := yields_exec (subscriber.handle envelope) s
      rw [← state_deliver traffic] at hy
      exact .next hy (ih _)

theorem keeps_together_deliver {traffic : Traffic} {envelope : Envelope P}
    {subscribers : List (Subscriber (Sequential σ) P)}
    (h : ∀ subscriber ∈ subscribers, subscriber.Keeps view) :
    Keeps view (Host.together (subscribers.map (deliver traffic envelope))) := by
  refine .together fun p hp => ?_
  obtain ⟨subscriber, hs, rfl⟩ := List.mem_map.mp hp
  exact keeps_deliver (h subscriber hs)

variable [PayloadKind P]

theorem keeps_dispatch {dispatcher : Dispatcher (Sequential σ) P}
    (h : ∀ subscriber ∈ dispatcher.subscribers, subscriber.Keeps view) (envelope : Envelope P) :
    Keeps view (dispatcher.dispatch envelope).run := by
  unfold dispatch
  split
  · exact fun _ => rfl
  · exact .andThen (fun s => keeps_together_deliver h _) fun _ _ => rfl

/-- Whichever subscribers fail, each of them is given the envelope. -/
theorem offered_of_dispatch {dispatcher : Dispatcher (Sequential σ) P} {envelope : Envelope P}
    {state state' : σ} {result : Except DomainError Unit}
    (h : Yields (dispatcher.dispatch envelope) state result state') :
    ∃ results, Offered envelope dispatcher.subscribers state results state' ∧
      result = settled results := by
  unfold dispatch at h
  split at h
  · rename_i he
    obtain ⟨rfl, rfl⟩ := yields_note.1 h
    rw [List.isEmpty_iff.1 he]
    exact ⟨[], .nobody _, rfl⟩
  · rcases h.of_bind with ⟨_, -, hr⟩ | ⟨results, between, hr, hs⟩
    · obtain ⟨_, -, hr, -⟩ := hr.of_during.of_sure
      cases hr
    obtain ⟨s, rfl, heq, rfl⟩ := hr.of_during.of_sure
    obtain ⟨rfl, rfl⟩ := yields_settle.1 hs
    cases heq
    exact ⟨_, offered_of_together dispatcher.traffic envelope dispatcher.subscribers s, rfl⟩

theorem served_of_dispatch {dispatcher : Dispatcher (Sequential σ) P} {envelope : Envelope P}
    {state state' : σ} (h : Yields (dispatcher.dispatch envelope) state (.ok ()) state') :
    Served envelope dispatcher.subscribers state state' := by
  obtain ⟨results, ho, hs⟩ := offered_of_dispatch h
  exact ho.served (failuresOf_of_settled hs.symm)

theorem tape_of_dispatch {dispatcher : Dispatcher (Sequential σ) P}
    {tape : Cell σ (List (Envelope P))} {subscriber : Subscriber (Sequential σ) P}
    {before after : List (Subscriber (Sequential σ) P)}
    (hs : dispatcher.subscribers = before ++ subscriber :: after) (ht : subscriber.TakesDown tape)
    (hk : ∀ other ∈ before ++ after, other.Keeps tape.get) {envelope : Envelope P} {state state' : σ}
    {result : Except DomainError Unit}
    (h : Yields (dispatcher.dispatch envelope) state result state') :
    tape.get state' = tape.get state ++ [envelope] := by
  obtain ⟨results, ho, -⟩ := offered_of_dispatch h
  rw [hs] at ho
  exact ho.takenDown ht hk

/-- An envelope that every subscriber accepts gets through. -/
theorem Yields.ok_of_dispatch {dispatcher : Dispatcher (Sequential σ) P} {envelope : Envelope P}
    (ha : ∀ subscriber ∈ dispatcher.subscribers, ∀ s,
      (exec (subscriber.handle envelope) s).1 = .ok ())
    {state state' : σ} {result : Except DomainError Unit}
    (h : Yields (dispatcher.dispatch envelope) state result state') : result = .ok () := by
  unfold dispatch at h
  split at h
  · exact (yields_note.1 h).1
  · rcases h.of_bind with ⟨_, -, hr⟩ | ⟨results, _, hr, hs⟩
    · obtain ⟨_, -, hr, -⟩ := hr.of_during.of_sure
      cases hr
    · obtain ⟨s, -, hr, -⟩ := hr.of_during.of_sure
      obtain rfl := Except.ok.inj hr
      rw [(yields_settle.1 hs).1, settled_eq_ok (together_deliver_ok ha s)]

variable (view) in
/-- Where all others accept, the first subscriber alone decides. -/
theorem Yields.of_dispatch {traffic : Traffic} {first : Subscriber (Sequential σ) P}
    {others : List (Subscriber (Sequential σ) P)} (ha : ∀ other ∈ others, other.Accepts)
    (hk : ∀ other ∈ others, other.Keeps view) {envelope : Envelope P} {state state' : σ}
    {result : Except DomainError Unit}
    (h : Yields (Dispatcher.dispatch ⟨traffic, first :: others⟩ envelope) state result state') :
    ∃ between, Yields (first.handle envelope) state result between ∧
      view state' = view between := by
  obtain ⟨s, rfl, rfl, rfl⟩ := h
  -- The first subscriber starts when the span is open already.
  let given := s.tell (.opened (span ⟨traffic, first :: others⟩ envelope))
  refine ⟨(exec (first.handle envelope) given).2.state, ⟨given, rfl, ?_, rfl⟩, ?_⟩
  · simp only [dispatch, List.isEmpty_cons, Bool.false_eq_true, if_false, exec_bind, exec_during,
      exec_sure, exec_settle, List.map_cons, runOn_together_cons]
    rw [settled_cons (together_deliver_ok (fun other ho => ha other ho envelope) _),
      runOn_deliver_fst]
  · simp only [dispatch, List.isEmpty_cons, Bool.false_eq_true, if_false, exec_bind, exec_during,
      exec_sure, exec_settle, List.map_cons, runOn_together_cons, Session.state_tell]
    rw [keeps_together_deliver hk, state_deliver]

theorem Yields.of_dispatch_singleton {traffic : Traffic} {subscriber : Subscriber (Sequential σ) P}
    {envelope : Envelope P} {state state' : σ} {result : Except DomainError Unit}
    (h : Yields (Dispatcher.dispatch ⟨traffic, [subscriber]⟩ envelope) state result state') :
    Yields (subscriber.handle envelope) state result state' := by
  obtain ⟨between, hy, rfl⟩ := of_dispatch (fun s : σ => s) (by simp) (by simp) h
  exact hy

end Dispatcher

/-! ## The event queue -/

namespace EventQueue

variable [PayloadKind P]

theorem keeps_publish {queue : EventQueue (Sequential σ) P}
    (h : ∀ subscriber ∈ queue.dispatcher.subscribers, subscriber.Keeps view)
    (event : Envelope P) : Keeps view (queue.publish event).run :=
  .andThen (fun _ => rfl) fun _ => .andThen (fun _ => rfl) fun _ => Dispatcher.keeps_dispatch h event

theorem keeps_publishAll {queue : EventQueue (Sequential σ) P}
    (h : ∀ subscriber ∈ queue.dispatcher.subscribers, subscriber.Keeps view) :
    ∀ events, Keeps view (queue.publishAll events).run
  | [] => fun _ => rfl
  | event :: events => .andThen (keeps_publish h event) fun _ => keeps_publishAll h events

/-- An event that is malformed is given to nobody. -/
theorem Yields.of_publish {queue : EventQueue (Sequential σ) P} {event : Envelope P}
    {state state' : σ} {result : Except DomainError Unit}
    (h : Yields (queue.publish event) state result state') :
    (∃ failure, event.validate = .error failure ∧ result = .error failure ∧ state' = state) ∨
      event.validate = .ok () ∧ Yields (queue.dispatcher.dispatch event) state result state' := by
  rcases h.of_settle_bind with hinvalid | ⟨⟨⟩, hv, hd⟩
  · exact .inl hinvalid
  · exact .inr ⟨hv, hd.of_note⟩

/-- Well-formed events get through where every subscriber accepts. -/
theorem Yields.ok_of_publishAll {queue : EventQueue (Sequential σ) P}
    (ha : ∀ subscriber ∈ queue.dispatcher.subscribers, subscriber.Accepts)
    {events : List (Envelope P)} (hv : ∀ event ∈ events, event.validate = .ok ()) {state state' : σ}
    {result : Except DomainError Unit}
    (h : Yields (queue.publishAll events) state result state') : result = .ok () := by
  induction events generalizing state with
  | nil => exact (yields_pure.1 h).1
  | cons event events ih =>
      rcases h.of_bind with ⟨failure, rfl, hp⟩ | ⟨⟨⟩, between, hp, hrest⟩
      · rcases Yields.of_publish hp with ⟨_, hf, -⟩ | ⟨-, hd⟩
        · exact nomatch hf.symm.trans (hv event List.mem_cons_self)
        · exact Dispatcher.Yields.ok_of_dispatch (fun subscriber hs => ha subscriber hs event) hd
      · exact ih (fun other ho => hv other (List.mem_cons_of_mem _ ho)) hrest

/-- Events are given to all of some subscribers, one event after the other, and all take them. -/
inductive Rounds (subscribers : List (Subscriber (Sequential σ) P)) :
    List (Envelope P) → σ → σ → Prop
  | done (state : σ) : Rounds subscribers [] state state
  | next {event : Envelope P} {events : List (Envelope P)} {state between state' : σ}
      (hs : Served event subscribers state between)
      (hr : Rounds subscribers events between state') :
      Rounds subscribers (event :: events) state state'

/-- How far events get: all of them are taken, or they stop at one that is malformed, which is given
to nobody, or at one that is given to all subscribers and not taken by all of them. The events given
are listed. -/
inductive Distribution (queue : EventQueue (Sequential σ) P) (events : List (Envelope P)) (state : σ) :
    List (Envelope P) → Except DomainError Unit → σ → Prop
  | through {state' : σ} (hr : Rounds queue.dispatcher.subscribers events state state') :
      Distribution queue events state events (.ok ()) state'
  | malformed {front rest : List (Envelope P)} {event : Envelope P} {failure : DomainError}
      {state' : σ} (he : events = front ++ event :: rest)
      (hr : Rounds queue.dispatcher.subscribers front state state')
      (hv : event.validate = .error failure) :
      Distribution queue events state front (.error failure) state'
  | refused {front rest : List (Envelope P)} {event : Envelope P} {failure : DomainError}
      {results : List (Except DomainError Unit)} {between state' : σ}
      (he : events = front ++ event :: rest)
      (hr : Rounds queue.dispatcher.subscribers front state between)
      (ho : Offered event queue.dispatcher.subscribers between results state')
      (hf : Dispatcher.settled results = .error failure) :
      Distribution queue events state (front ++ [event]) (.error failure) state'

theorem distribution {queue : EventQueue (Sequential σ) P} {events : List (Envelope P)}
    {state state' : σ} {result : Except DomainError Unit}
    (h : Yields (queue.publishAll events) state result state') :
    ∃ given, Distribution queue events state given result state' := by
  induction events generalizing state with
  | nil =>
      obtain ⟨rfl, rfl⟩ := yields_pure.1 h
      exact ⟨[], .through (.done _)⟩
  | cons event events ih =>
      rcases h.of_bind with ⟨failure, rfl, hp⟩ | ⟨⟨⟩, between, hp, hrest⟩
      · rcases Yields.of_publish hp with ⟨_, hinvalid, hf, rfl⟩ | ⟨-, hd⟩
        · cases hf
          exact ⟨[], .malformed (List.nil_append _).symm (.done _) hinvalid⟩
        · obtain ⟨results, ho, hf⟩ := Dispatcher.offered_of_dispatch hd
          exact ⟨_, .refused (List.nil_append _).symm (.done _) ho hf.symm⟩
      · rcases Yields.of_publish hp with ⟨_, -, hf, -⟩ | ⟨-, hd⟩
        · cases hf
        have hs := Dispatcher.served_of_dispatch hd
        obtain ⟨given, hg⟩ := ih hrest
        cases hg with
        | through hr => exact ⟨_, .through (.next hs hr)⟩
        | malformed he hr hv => exact ⟨_, .malformed (congrArg (event :: ·) he) (.next hs hr) hv⟩
        | refused he hr ho hf => exact ⟨_, .refused (congrArg (event :: ·) he) (.next hs hr) ho hf⟩

section

variable {queue : EventQueue (Sequential σ) P} {tape : Cell σ (List (Envelope P))}
  {subscriber : Subscriber (Sequential σ) P} {before after : List (Subscriber (Sequential σ) P)}

omit [PayloadKind P] in
theorem Rounds.takenDown (ht : subscriber.TakesDown tape)
    (hk : ∀ other ∈ before ++ after, other.Keeps tape.get) {events : List (Envelope P)}
    {state state' : σ} (h : Rounds (before ++ subscriber :: after) events state state') :
    tape.get state' = tape.get state ++ events := by
  induction h with
  | done => exact (List.append_nil _).symm
  | next hs _ ih =>
      obtain ⟨_, ho⟩ := hs.offered
      rw [ih, ho.takenDown ht hk, List.append_assoc]
      rfl

/-- Whoever takes down what it is given has the events that were given, and no others. -/
theorem Distribution.takenDown (hs : queue.dispatcher.subscribers = before ++ subscriber :: after)
    (ht : subscriber.TakesDown tape) (hk : ∀ other ∈ before ++ after, other.Keeps tape.get)
    {events given : List (Envelope P)} {state state' : σ} {result : Except DomainError Unit}
    (h : Distribution queue events state given result state') :
    tape.get state' = tape.get state ++ given := by
  cases h with
  | through hr | malformed _ hr =>
      rw [hs] at hr
      exact hr.takenDown ht hk
  | refused _ hr ho =>
      rw [hs] at hr ho
      rw [ho.takenDown ht hk, hr.takenDown ht hk, List.append_assoc]

theorem Distribution.isPrefix {events given : List (Envelope P)} {state state' : σ}
    {result : Except DomainError Unit} (h : Distribution queue events state given result state') :
    given <+: events := by
  cases h with
  | through => exact List.prefix_rfl
  | malformed he => exact ⟨_, he.symm⟩
  | refused he => exact ⟨_, (List.append_assoc ..).trans he.symm⟩

end

/-- A recorder takes down the events up to the first that does not get through. -/
theorem taken_of_publishAll {queue : EventQueue (Sequential σ) P}
    {tape : Cell σ (List (Envelope P))} {name : String}
    {before after : List (Subscriber (Sequential σ) P)}
    (hs : queue.dispatcher.subscribers = before ++ .recorder name tape :: after)
    (hk : ∀ other ∈ before ++ after, other.Keeps tape.get) {events : List (Envelope P)}
    {state state' : σ} {result : Except DomainError Unit}
    (h : Yields (queue.publishAll events) state result state') :
    ∃ given, given <+: events ∧ tape.get state' = tape.get state ++ given ∧
      (result = .ok () → given = events) := by
  obtain ⟨given, hg⟩ := distribution h
  refine ⟨given, hg.isPrefix, hg.takenDown hs (Subscriber.recorder_takesDown name tape) hk, ?_⟩
  rintro rfl
  cases hg
  rfl

end EventQueue

end EventSourcing
