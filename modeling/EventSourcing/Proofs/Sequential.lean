import EventSourcing.LockTable
import EventSourcing.Sequential

/-!
# What sequential programs do

What comes out of a program that runs without interruption, construct by construct, and the
programs that leave a part of the state as it is.
-/

namespace EventSourcing

def Session.tell {σ : Type} (s : Session σ) (entry : Trace.Entry) : Session σ :=
  { s with trace := entry :: s.trace }

@[simp] theorem Session.state_tell {σ : Type} (s : Session σ) (entry : Trace.Entry) :
    (s.tell entry).state = s.state := rfl

namespace Sequential

variable {σ τ α β : Type}

/-! ## Running programs -/

@[simp] theorem runOn_pure (a : α) (s : Session σ) :
    runOn (pure a : Sequential σ α) s = (a, s) := rfl

@[simp] theorem runOn_bind (p : Sequential σ α) (f : α → Sequential σ β) (s : Session σ) :
    runOn (p >>= f) s = runOn (f (runOn p s).1) (runOn p s).2 := rfl

@[simp] theorem runOn_onState (f : σ → α × σ) (s : Session σ) :
    runOn (Host.onState f : Sequential σ α) s =
      ((f s.state).1, { s with state := (f s.state).2 }) := rfl

@[simp] theorem runOn_freshId (s : Session σ) :
    runOn (Host.freshId : Sequential σ Uuid) s = (s.ids.draw.1, { s with ids := s.ids.draw.2 }) :=
  rfl

@[simp] theorem runOn_look (cell : Cell σ τ) (f : τ → α) (s : Session σ) :
    runOn (cell.look f : Sequential σ α) s = (f (cell.get s.state), s) := rfl

@[simp] theorem runOn_visit (cell : Cell σ τ) (f : τ → α × τ) (s : Session σ) :
    runOn (cell.visit f : Sequential σ α) s =
      ((f (cell.get s.state)).1, { s with state := cell.set (f (cell.get s.state)).2 s.state }) :=
  rfl

theorem runOn_attempt {ε : Type} (cell : Cell σ τ) (f : τ → Except ε (α × τ)) (s : Session σ) :
    runOn (cell.attempt f : Sequential σ (Except ε α)) s =
      match f (cell.get s.state) with
      | .ok (a, v) => (.ok a, { s with state := cell.set v s.state })
      | .error e => (.error e, s) := by
  simp only [Cell.attempt, runOn_onState]
  cases f (cell.get s.state) <;> rfl

@[simp] theorem runOn_together_nil (s : Session σ) :
    runOn (Host.together [] : Sequential σ (List α)) s = ([], s) := rfl

@[simp] theorem runOn_together_cons (p : Sequential σ α) (ps : List (Sequential σ α))
    (s : Session σ) :
    runOn (Host.together (p :: ps)) s =
      ((runOn p s).1 :: (runOn (Host.together ps) (runOn p s).2).1,
        (runOn (Host.together ps) (runOn p s).2).2) := rfl

/-! ## Running programs that may fail -/

def exec (program : Fallible (Sequential σ) α) (s : Session σ) :
    Except DomainError α × Session σ := runOn program.run s

@[simp] theorem mapError_ok {ε ε' : Type} (f : ε → ε') (a : α) :
    (Except.ok a : Except ε α).mapError f = .ok a := rfl

theorem exec_bind (p : Fallible (Sequential σ) α) (f : α → Fallible (Sequential σ) β)
    (s : Session σ) :
    exec (p >>= f) s =
      match exec p s with
      | (.ok a, s) => exec (f a) s
      | (.error failure, s) => (.error failure, s) := by
  change runOn (ExceptT.bindCont f (runOn p.run s).1) (runOn p.run s).2 = _
  unfold exec
  rcases runOn p.run s with ⟨_ | _, s⟩ <;> rfl

@[simp] theorem exec_settle (result : Except DomainError α) (s : Session σ) :
    exec (Host.settle result : Fallible (Sequential σ) α) s = (result, s) := rfl

@[simp] theorem exec_sure (p : Sequential σ α) (s : Session σ) :
    exec (Host.sure p) s = (.ok (runOn p s).1, (runOn p s).2) := rfl

@[simp] theorem exec_note (entry : Trace.Entry) (s : Session σ) :
    exec (Host.note entry : Fallible (Sequential σ) Unit) s = (.ok (), s.tell entry) := rfl

@[simp] theorem runOn_attemptThis (p : Fallible (Sequential σ) α) (s : Session σ) :
    runOn (Host.attempt p) s = exec p s := rfl

@[simp] theorem runOn_run (p : Fallible (Sequential σ) α) (s : Session σ) :
    runOn p.run s = exec p s := rfl

@[simp] theorem exec_during (span : Trace.Span) (p : Fallible (Sequential σ) α) (s : Session σ) :
    exec (Host.during span p) s =
      ((exec p (s.tell (.opened span))).1,
        (exec p (s.tell (.opened span))).2.tell (.closed span.name)) := rfl

/-! ## What can come of a program

Only the result and the state are looked at; identifiers and the trace are left open. -/

/-- Started in a state, a program that may fail can end with a result in another state. -/
def Yields (p : Fallible (Sequential σ) α) (state : σ) (result : Except DomainError α)
    (state' : σ) : Prop :=
  ∃ s, s.state = state ∧ (exec p s).1 = result ∧ (exec p s).2.state = state'

theorem yields_exec (p : Fallible (Sequential σ) α) (s : Session σ) :
    Yields p s.state (exec p s).1 (exec p s).2.state := ⟨s, rfl, rfl, rfl⟩

variable {p : Fallible (Sequential σ) α} {state state' : σ} {result : Except DomainError α}

@[simp] theorem yields_settle {r : Except DomainError α} :
    Yields (Host.settle r) state result state' ↔ result = r ∧ state' = state := by
  constructor
  · rintro ⟨s, rfl, rfl, rfl⟩
    exact ⟨rfl, rfl⟩
  · rintro ⟨rfl, rfl⟩
    exact ⟨⟨state', {}, [], 0, 0⟩, rfl, rfl, rfl⟩

@[simp] theorem yields_pure {a : α} :
    Yields (pure a) state result state' ↔ result = .ok a ∧ state' = state :=
  yields_settle (r := .ok a)

@[simp] theorem yields_throw {failure : DomainError} :
    Yields (throw failure) state result state' ↔ result = .error failure ∧ state' = state :=
  yields_settle (r := .error failure)

@[simp] theorem yields_note {entry : Trace.Entry} {result : Except DomainError Unit} :
    Yields (Host.note entry) state result state' ↔ result = .ok () ∧ state' = state := by
  constructor
  · rintro ⟨s, rfl, rfl, rfl⟩
    exact ⟨rfl, rfl⟩
  · rintro ⟨rfl, rfl⟩
    exact ⟨⟨state', {}, [], 0, 0⟩, rfl, rfl, rfl⟩

theorem Yields.of_sure {q : Sequential σ α} (h : Yields (Host.sure q) state result state') :
    ∃ s, s.state = state ∧ result = .ok (runOn q s).1 ∧ state' = (runOn q s).2.state := by
  obtain ⟨s, rfl, rfl, rfl⟩ := h
  exact ⟨s, rfl, rfl, rfl⟩

theorem Yields.of_during {span : Trace.Span} (h : Yields (Host.during span p) state result state') :
    Yields p state result state' := by
  obtain ⟨s, rfl, rfl, rfl⟩ := h
  exact ⟨s.tell (.opened span), rfl, rfl, rfl⟩

theorem Yields.of_bind {f : α → Fallible (Sequential σ) β} {result : Except DomainError β}
    (h : Yields (p >>= f) state result state') :
    (∃ failure, result = .error failure ∧ Yields p state (.error failure) state') ∨
      ∃ a between, Yields p state (.ok a) between ∧ Yields (f a) between result state' := by
  obtain ⟨s, rfl, rfl, rfl⟩ := h
  rw [exec_bind]
  have hp := yields_exec p s
  rcases hr : exec p s with ⟨failure | a, t⟩
  · rw [hr] at hp
    exact .inl ⟨failure, rfl, hp⟩
  · rw [hr] at hp
    exact .inr ⟨a, t.state, hp, yields_exec (f a) t⟩

theorem Yields.of_sure_bind {q : Sequential σ α} {f : α → Fallible (Sequential σ) β}
    {result : Except DomainError β} (h : Yields (Host.sure q >>= f) state result state') :
    ∃ s, s.state = state ∧ Yields (f (runOn q s).1) (runOn q s).2.state result state' := by
  obtain ⟨s, rfl, rfl, rfl⟩ := h
  exact ⟨s, rfl, yields_exec _ _⟩

theorem Yields.of_settle_bind {r : Except DomainError α} {f : α → Fallible (Sequential σ) β}
    {result : Except DomainError β} (h : Yields (Host.settle r >>= f) state result state') :
    (∃ failure, r = .error failure ∧ result = .error failure ∧ state' = state) ∨
      ∃ a, r = .ok a ∧ Yields (f a) state result state' := by
  rcases h.of_bind with ⟨failure, hf, hr⟩ | ⟨a, _, hr, hrest⟩
  · obtain ⟨he, rfl⟩ := yields_settle.1 hr
    exact .inl ⟨failure, he.symm, hf, rfl⟩
  · obtain ⟨he, rfl⟩ := yields_settle.1 hr
    exact .inr ⟨a, he.symm, hrest⟩

/-- Where a failure is caught the program goes on with it. -/
theorem Yields.of_attempt_bind {f : Except DomainError α → Fallible (Sequential σ) β}
    {result : Except DomainError β}
    (h : Yields (Host.sure (Host.attempt p) >>= f) state result state') :
    ∃ r between, Yields p state r between ∧ Yields (f r) between result state' := by
  obtain ⟨s, rfl, hrest⟩ := h.of_sure_bind
  exact ⟨_, _, yields_exec p s, hrest⟩

theorem Yields.of_map {f : α → β} {result : Except DomainError β}
    (h : Yields (do return f (← p)) state result state') :
    ∃ r, result = r.map f ∧ Yields p state r state' := by
  rcases h.of_bind with ⟨failure, rfl, hp⟩ | ⟨a, between, hp, hr⟩
  · exact ⟨.error failure, rfl, hp⟩
  · obtain ⟨rfl, rfl⟩ := yields_pure.1 hr
    exact ⟨.ok a, rfl, hp⟩

theorem Yields.of_note {entry : Trace.Entry} {f : Unit → Fallible (Sequential σ) α}
    (h : Yields (Host.note entry >>= f) state result state') :
    Yields (f ()) state result state' := by
  rcases h.of_bind with ⟨_, -, hn⟩ | ⟨⟨⟩, _, hn, hf⟩
  · cases (yields_note.1 hn).1
  · obtain ⟨-, rfl⟩ := yields_note.1 hn
    exact hf

/-! ## Leaving a part of the state alone -/

def Keeps (view : σ → τ) (p : Sequential σ α) : Prop :=
  ∀ s, view (runOn p s).2.state = view s.state

namespace Keeps

variable {view : σ → τ}

theorem together {ps : List (Sequential σ α)} (hps : ∀ p ∈ ps, Keeps view p) :
    Keeps view (Host.together ps) := by
  induction ps with
  | nil => exact fun _ => rfl
  | cons p ps ih =>
      intro s
      rw [runOn_together_cons, ih fun q hq => hps q (List.mem_cons_of_mem _ hq),
        hps p List.mem_cons_self]

theorem yields {p : Fallible (Sequential σ) α} {result : Except DomainError α} {state state' : σ}
    (hp : Keeps view p.run) (h : Yields p state result state') : view state' = view state := by
  obtain ⟨s, rfl, -, rfl⟩ := h
  exact hp s

theorem andThen {p : Fallible (Sequential σ) α} {f : α → Fallible (Sequential σ) β}
    (hp : Keeps view p.run) (hf : ∀ a, Keeps view (f a).run) : Keeps view (p >>= f).run := by
  intro s
  have hs := hp s
  simp only [runOn_run] at hs
  rw [runOn_run, exec_bind]
  rcases h : exec p s with ⟨failure | a, s'⟩
  · rw [← hs, h]
  · rw [← hs, h]
    exact hf a s'

end Keeps

end Sequential

end EventSourcing
