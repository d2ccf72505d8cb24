import EventSourcing.CommandBus
import EventSourcing.Proofs.Sequential
import Mathlib.Data.List.Forall2

/-!
# Programs in step

Two runs side by side, over states with a part of the same kind and a rest of which each has its own.
Programs are in step if they come to the same result and leave the same part behind as often as they
start from the same, while the rests stay related. There is a rule for each construct, up to
the calls of a bus: buses with the same subscribers are in step if their stores are.
-/

namespace EventSourcing

open EventSourcing.Sequential

/-! ## A part of the state -/

namespace Sequential

variable {σ τ α : Type}

/-- Runs a program on the first of two parts of the state. It sees neither the other part nor the
trace. -/
def onFirst (program : Sequential σ α) : Sequential (σ × τ) α := fun s =>
  let own := runOn program { state := s.state.1, ids := s.ids }
  (own.1, { s with
    state := (own.2.state, s.state.2)
    ids := own.2.ids
    trace := own.2.trace ++ s.trace })

end Sequential

def Subscriber.onFirst {σ τ P : Type} (subscriber : Subscriber (Sequential σ) P) :
    Subscriber (Sequential (σ × τ)) P where
  name := subscriber.name
  handle envelope := ExceptT.mk (Sequential.onFirst (subscriber.handle envelope).run)

def Dispatcher.onFirst {σ τ P : Type} (dispatcher : Dispatcher (Sequential σ) P) :
    Dispatcher (Sequential (σ × τ)) P where
  traffic := dispatcher.traffic
  subscribers := dispatcher.subscribers.map Subscriber.onFirst

/-! ## Two runs -/

variable {σ τ υ : Type}

/-- Sessions with the same first part and the same ids to come. What they have told so far may
differ. -/
structure Session.Alike (rest : τ → υ → Prop) (s : Session (σ × τ)) (t : Session (σ × υ)) : Prop where
  own : s.state.1 = t.state.1
  ids : s.ids = t.ids
  rest : rest s.state.2 t.state.2

variable {α β : Type} {failed before : τ → υ → Prop}

/-- Programs that come to the same from sessions that are alike. -/
def InStep (before : τ → υ → Prop) (p : Sequential (σ × τ) α) (q : Sequential (σ × υ) α)
    (after : α → τ → υ → Prop) : Prop :=
  ∀ s t, Session.Alike before s t → (runOn p s).1 = (runOn q t).1 ∧
    Session.Alike (after (runOn p s).1) (runOn p s).2 (runOn q t).2

namespace InStep

theorem pure {after : α → τ → υ → Prop} {a : α} (h : ∀ x y, before x y → after a x y) :
    InStep before (Pure.pure a : Sequential (σ × τ) α) (Pure.pure a) after := by
  intro s t ha
  exact ⟨rfl, ha.own, ha.ids, h _ _ ha.rest⟩

theorem bind {p : Sequential (σ × τ) α} {q : Sequential (σ × υ) α} {f : α → Sequential (σ × τ) β}
    {g : α → Sequential (σ × υ) β} {between : α → τ → υ → Prop} {after : β → τ → υ → Prop}
    (hp : InStep before p q between) (hf : ∀ a, InStep (between a) (f a) (g a) after) :
    InStep before (p >>= f) (q >>= g) after := by
  intro s t h
  obtain ⟨he, h⟩ := hp s t h
  rw [runOn_bind, runOn_bind, ← he]
  apply hf
  exact h

theorem emit (entry entry' : Trace.Entry) :
    InStep before (Host.emit entry : Sequential (σ × τ) Unit) (Host.emit entry') fun _ => before := by
  intro s t h
  exact ⟨rfl, h.own, h.ids, h.rest⟩

theorem onFirst (program : Sequential σ α) :
    InStep before (Sequential.onFirst program) (Sequential.onFirst program) fun _ => before := by
  intro s t h
  have hown : ({ state := s.state.1, ids := s.ids } : Session σ) =
      { state := t.state.1, ids := t.ids } := by rw [h.own, h.ids]
  simp only [Sequential.onFirst, runOn]
  rw [hown]
  exact ⟨rfl, rfl, rfl, h.rest⟩

theorem together {ps : List (Sequential (σ × τ) α)} {qs : List (Sequential (σ × υ) α)}
    (h : List.Forall₂ (fun p q => InStep before p q fun _ => before) ps qs) :
    InStep before (Host.together ps) (Host.together qs) fun _ => before := by
  induction h with
  | nil => exact .pure fun _ _ h => h
  | cons hp _ ih => exact .bind hp fun _ => .bind ih fun _ => .pure fun _ _ h => h

end InStep

/-- What comes after a program that may fail, where after a failure it is the same for each. -/
def unlessFailed (failed : τ → υ → Prop) (after : α → τ → υ → Prop) :
    Except DomainError α → τ → υ → Prop
  | .ok a => after a
  | .error _ => failed

/-- Programs that may fail, in step. -/
def InStepOr (failed before : τ → υ → Prop) (p : Fallible (Sequential (σ × τ)) α)
    (q : Fallible (Sequential (σ × υ)) α) (after : α → τ → υ → Prop) : Prop :=
  InStep before p.run q.run (unlessFailed failed after)

namespace InStepOr

variable {after : α → τ → υ → Prop} {p : Fallible (Sequential (σ × τ)) α}
  {q : Fallible (Sequential (σ × υ)) α}

theorem pure {a : α} (h : ∀ x y, before x y → after a x y) :
    InStepOr failed before (Pure.pure a : Fallible (Sequential (σ × τ)) α) (Pure.pure a) after :=
  InStep.pure h

theorem throw {failure : DomainError} (h : ∀ x y, before x y → failed x y) :
    InStepOr failed before (MonadExcept.throw failure : Fallible (Sequential (σ × τ)) α)
      (MonadExcept.throw failure) after :=
  InStep.pure h

theorem bind {f : α → Fallible (Sequential (σ × τ)) β} {g : α → Fallible (Sequential (σ × υ)) β}
    {between : α → τ → υ → Prop} {after : β → τ → υ → Prop}
    (hp : InStepOr failed before p q between)
    (hf : ∀ a, InStepOr failed (between a) (f a) (g a) after) :
    InStepOr failed before (p >>= f) (q >>= g) after := by
  change InStep before (p.run >>= ExceptT.bindCont f) (q.run >>= ExceptT.bindCont g) _
  refine InStep.bind hp fun result => ?_
  cases result with
  | ok a => exact hf a
  | error failure => exact InStep.pure fun _ _ h => h

theorem settle (result : Except DomainError α) :
    InStepOr before before (Host.settle result : Fallible (Sequential (σ × τ)) α)
      (Host.settle result) fun _ => before := by
  cases result with
  | ok a => exact InStep.pure fun _ _ h => h
  | error failure => exact InStep.pure fun _ _ h => h

theorem settle_bind {result : Except DomainError α} {f : α → Fallible (Sequential (σ × τ)) β}
    {g : α → Fallible (Sequential (σ × υ)) β} {after : β → τ → υ → Prop}
    (he : ∀ x y, before x y → failed x y)
    (hf : ∀ a, result = .ok a → InStepOr failed before (f a) (g a) after) :
    InStepOr failed before (Host.settle result >>= f) (Host.settle result >>= g) after := by
  cases result with
  | ok a => exact hf a rfl
  | error failure => exact InStep.pure he

theorem sure {p : Sequential (σ × τ) α} {q : Sequential (σ × υ) α} (h : InStep before p q after) :
    InStepOr failed before (Host.sure p) (Host.sure q) after := by
  intro s t ha
  obtain ⟨he, ha⟩ := h s t ha
  exact ⟨congrArg Except.ok he, ha⟩

theorem note (entry entry' : Trace.Entry) :
    InStepOr failed before (Host.note entry : Fallible (Sequential (σ × τ)) Unit)
      (Host.note entry') fun _ => before :=
  .sure (.emit entry entry')

theorem during (span span' : Trace.Span) (h : InStepOr failed before p q after) :
    InStepOr failed before (Host.during span p) (Host.during span' q) after :=
  InStep.bind (.emit _ _) fun _ => InStep.bind h fun _ =>
    InStep.bind (.emit _ _) fun _ => InStep.pure fun _ _ h => h

end InStepOr

/-! ## Fan-outs -/

section

variable {P : Type}

theorem Dispatcher.inStep_deliver (traffic : Traffic) (envelope : Envelope P)
    (subscriber : Subscriber (Sequential σ) P) :
    InStep before (deliver traffic envelope subscriber.onFirst)
      (deliver traffic envelope subscriber.onFirst) fun _ => before := by
  refine .bind (.onFirst (subscriber.handle envelope).run) fun result => ?_
  cases result with
  | ok => exact .pure fun _ _ h => h
  | error failure => exact .bind (.emit _ _) fun _ => .pure fun _ _ h => h

theorem Dispatcher.inStep_dispatch [PayloadKind P] (dispatcher : Dispatcher (Sequential σ) P)
    (envelope : Envelope P) :
    InStepOr before before (dispatcher.onFirst.dispatch envelope)
      (dispatcher.onFirst.dispatch envelope) fun _ => before := by
  unfold dispatch
  simp only [onFirst, List.isEmpty_map]
  split
  · exact .note _ _
  · refine .bind (.during _ _ (.sure (.together ?_))) fun results => .settle _
    simp only [List.map_map, List.forall₂_map_left_iff, List.forall₂_map_right_iff,
      List.forall₂_same]
    exact fun subscriber _ => inStep_deliver dispatcher.traffic envelope subscriber

end

/-! ## Stores -/

/-- Stores in step: what they load is the same, and so is the number that is due; while it is due, a
record with this number is added by both. -/
structure CommandStore.InStep (rest : τ → υ → Prop) (due : Int64 → Int64 → τ → υ → Prop)
    (store : CommandStore (Sequential (σ × τ))) (store' : CommandStore (Sequential (σ × υ))) :
    Prop where
  load : ∀ entity, InStepOr rest rest (store.load entity) (store'.load entity) fun _ => rest
  number : ∀ entity, InStepOr rest rest (store.nextSequenceNo entity) (store'.nextSequenceNo entity)
    (due entity)
  append : ∀ record, InStepOr rest (due record.entityId record.sequenceNo) (store.append record)
    (store'.append record) fun _ => rest
  at_rest : ∀ entity n x y, due entity n x y → rest x y

/-! ## Buses -/

namespace CommandBus

variable {C : Type}

/-- A bus over a store whose subscribers know the first part of the state alone. -/
def staffed (store : CommandStore (Sequential (σ × τ))) (dispatcher : Dispatcher (Sequential σ) C)
    (decoders : Decoders C) (now : Instant) : CommandBus (Sequential (σ × τ)) C where
  store := store
  dispatcher := dispatcher.onFirst
  decoders := decoders
  now := now
  gate := Gate.opened (Sequential (σ × τ))

/-- A live command has the number that is due. -/
def awaiting (rest : τ → υ → Prop) (due : Int64 → Int64 → τ → υ → Prop) (command : Envelope C)
    (x : τ) (y : υ) : Prop :=
  if command.isReplay then rest x y else due command.entity.id command.sequenceNo x y

variable {rest : τ → υ → Prop} {due : Int64 → Int64 → τ → υ → Prop}
  {store : CommandStore (Sequential (σ × τ))} {store' : CommandStore (Sequential (σ × υ))}
  {dispatcher : Dispatcher (Sequential σ) C} {decoders : Decoders C} {now : Instant}

theorem rest_of_awaiting (h : store.InStep rest due store') {command : Envelope C} (x : τ) (y : υ)
    (ha : awaiting rest due command x y) : rest x y := by
  unfold awaiting at ha
  split at ha
  · exact ha
  · exact h.at_rest _ _ x y ha

theorem inStep_numbered (h : store.InStep rest due store') (command : Envelope C) :
    InStepOr rest rest ((staffed store dispatcher decoders now).numbered command)
      ((staffed store' dispatcher decoders now).numbered command) (awaiting rest due) := by
  unfold numbered
  split
  · rename_i hr
    exact .pure fun x y hx => by rwa [awaiting, if_pos hr]
  · rename_i hr
    refine .bind (h.number command.entity.id) fun n => .pure fun x y hx => ?_
    have hlive : ¬(command.atSequenceNo n).isReplay = true := hr
    rwa [awaiting, if_neg hlive]

variable [PayloadKind C]

theorem inStep_submit (h : store.InStep rest due store') (command : Envelope C) :
    InStepOr rest (awaiting rest due command)
      ((staffed store dispatcher decoders now).submit command)
      ((staffed store' dispatcher decoders now).submit command)
      fun _ => awaiting rest due command := by
  refine .bind (.sure (dispatcher.inStep_dispatch command)) fun result => ?_
  cases result with
  | ok => exact .pure fun _ _ ha => ha
  | error failure => exact .bind (.note _ _) fun _ => .throw (rest_of_awaiting h)

theorem inStep_record (h : store.InStep rest due store') (command : Envelope C) :
    InStepOr rest (awaiting rest due command)
      ((staffed store dispatcher decoders now).record command)
      ((staffed store' dispatcher decoders now).record command) fun _ => rest := by
  unfold record awaiting
  split
  · exact .pure fun _ _ hx => hx
  · refine .settle_bind (h.at_rest _ _) fun stored hw => ?_
    obtain ⟨json, -, rfl⟩ := StoredCommand.exists_payload_of_ofCommand hw
    exact h.append (.holding command json now)

theorem inStep_publish (h : store.InStep rest due store') (command : Envelope C) :
    InStepOr rest rest ((staffed store dispatcher decoders now).publish command)
      ((staffed store' dispatcher decoders now).publish command) fun _ => rest := by
  refine .bind (.settle _) fun _ => .during _ _ ?_
  refine .bind (inStep_numbered h command) fun numbered => .bind (.note _ _) fun _ => ?_
  refine .bind (inStep_submit h numbered) fun _ => .bind (inStep_record h numbered) fun _ => ?_
  exact .bind (.note _ _) fun _ => .pure fun _ _ hx => hx

theorem inStep_redeliver (history : List StoredCommand) :
    InStepOr rest rest ((staffed store dispatcher decoders now).redeliver history)
      ((staffed store' dispatcher decoders now).redeliver history) fun _ => rest := by
  induction history with
  | nil => exact .pure fun _ _ hx => hx
  | cons record history ih =>
      refine .bind (.settle _) fun command => .bind (.note _ _) fun _ => ?_
      refine .bind (.sure (dispatcher.inStep_dispatch command)) fun result => ?_
      cases result with
      | ok => exact ih
      | error failure => exact .bind (.note _ _) fun _ => .throw fun _ _ hx => hx

theorem inStep_replay (h : store.InStep rest due store') (entity : Int64) :
    InStepOr rest rest ((staffed store dispatcher decoders now).replay entity)
      ((staffed store' dispatcher decoders now).replay entity) fun _ => rest := by
  refine .bind (.settle _) fun _ => .during _ _ ?_
  refine .bind (h.load entity) fun history => ?_
  split
  · exact .bind (.note _ _) fun _ => .pure fun _ _ hx => hx
  split
  · exact .throw fun _ _ hx => hx
  · refine .bind (inStep_redeliver history) fun _ => .bind (.note _ _) fun _ => ?_
    exact .bind (.note _ _) fun _ => .pure fun _ _ hx => hx

end CommandBus

end EventSourcing
