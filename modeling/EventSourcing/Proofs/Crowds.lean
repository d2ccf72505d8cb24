import EventSourcing.Interleaved
import EventSourcing.Proofs.SideBySide

/-!
# Crowds side by side

The members of a crowd come to their results side by side, like a few routines that take turns in order:
each member that has not ended waits in the queue for its turn, has it, or has halted.
-/

namespace EventSourcing

variable {σ α : Type}

namespace Crowd

variable {crowd : Crowd σ α} {i j : Nat} {s : σ}

/-! ## Who may get a turn -/

/-- The members that may get a turn yet. -/
def pending (crowd : Crowd σ α) : List Nat := crowd.queue ++ crowd.halted.map Prod.fst

theorem mem_pending_roused : i ∈ (crowd.roused s).pending ↔ i ∈ crowd.pending := by
  simp only [pending, roused, List.append_assoc, List.mem_append, List.mem_map, List.mem_filter]
  refine or_congr_right ⟨?_, ?_⟩
  · rintro (⟨m, ⟨hm, -⟩, rfl⟩ | ⟨m, ⟨hm, -⟩, rfl⟩)
    · exact ⟨m, hm, rfl⟩
    · exact ⟨m, hm, rfl⟩
  · rintro ⟨m, hm, rfl⟩
    cases hw : m.2.wantsTurn s with
    | true => exact .inl ⟨m, ⟨hm, hw⟩, rfl⟩
    | false => exact .inr ⟨m, ⟨hm, by rw [hw]; rfl⟩, rfl⟩

theorem mem_inPlace {halt : Halt σ} {m : Nat × Halt σ} {ms : List (Nat × Halt σ)} :
    m ∈ inPlace i halt ms ↔ m = (i, halt) ∨ m ∈ ms := by
  induction ms with
  | nil => exact List.mem_singleton.trans (by simp)
  | cons n ms ih =>
      unfold inPlace
      split
      · exact List.mem_cons
      · rw [List.mem_cons, ih, List.mem_cons]
        exact or_left_comm

theorem mem_pending_withHalted {halt : Halt σ} :
    i ∈ (crowd.withHalted j halt s).pending ↔ i = j ∨ i ∈ crowd.pending := by
  unfold withHalted
  split
  · simp only [pending, List.append_assoc, List.mem_append, List.mem_singleton]
    exact or_left_comm
  · simp only [pending, List.mem_append, List.mem_map, mem_inPlace, or_and_right, exists_or,
      exists_eq_left]
    rw [or_left_comm, eq_comm]

theorem mem_pending_of_next? {next : Nat × Crowd σ α} (h : crowd.next? = some next) :
    i ∈ crowd.pending ↔ i = next.1 ∨ i ∈ next.2.pending := by
  unfold next? at h
  split at h
  · rename_i hq
    obtain rfl := Option.some.inj h
    rw [pending, hq]
    exact List.mem_cons
  · nomatch h

theorem queue_of_next? (h : crowd.next? = none) : crowd.queue = [] := by
  unfold next? at h
  split at h
  · nomatch h
  · assumption

/-- A member that has not ended may get a turn yet, if it is not among those that have theirs. -/
def Attends (crowd : Crowd σ α) (served : List Nat) : Prop :=
  ∀ i r, crowd.members[i]? = some r → r.result? = none → i ∈ served ∨ i ∈ crowd.pending

theorem attends_ofList (rs : List (Routine σ α)) : (ofList rs).Attends [] := by
  intro i r hr _
  obtain ⟨hi, -⟩ := List.getElem?_eq_some_iff.1 hr
  exact .inr (List.mem_append_left _ (List.mem_range.2 hi))

theorem Attends.roused {served : List Nat} (h : crowd.Attends served) :
    (crowd.roused s).Attends served :=
  fun i r hr hn => (h i r hr hn).imp_right mem_pending_roused.2

theorem Attends.advanced (h : crowd.Attends [i]) (rest : Routine σ α) :
    (crowd.advanced i rest).Attends [i] := by
  intro k r hr hn
  by_cases hk : k = i
  · exact .inl (List.mem_singleton.2 hk)
  · rw [Crowd.advanced, List.getElem?_set_ne (Ne.symm hk)] at hr
    exact h k r hr hn

theorem Attends.withHalted (h : crowd.Attends [i]) (halt : Halt σ) :
    (crowd.withHalted i halt s).Attends [] := by
  intro k r hr hn
  rw [members_withHalted] at hr
  rw [mem_pending_withHalted]
  exact .inr ((h k r hr hn).imp_left List.mem_singleton.1)

theorem Attends.of_next? {next : Nat × Crowd σ α} (h : crowd.Attends [])
    (hn : crowd.next? = some next) : next.2.Attends [next.1] := by
  intro k r hr hr'
  rw [members_of_next? hn] at hr
  rcases h k r hr hr' with hk | hk
  · cases hk
  · exact ((mem_pending_of_next? hn).1 hk).imp_left List.mem_singleton.2

theorem Attends.renewed (h : crowd.Attends [i])
    (hact : ∀ change rest, crowd.members[i]? ≠ some (.act change rest))
    (hstop : ∀ halt rest, crowd.members[i]? ≠ some (.stop halt rest)) :
    crowd.renewed.Attends [] := by
  intro k r hr hn
  rcases h k r hr hn with hk | hk
  · obtain rfl := List.mem_singleton.1 hk
    cases r with
    | done => cases hn
    | act => exact absurd hr (hact _ _)
    | stop => exact absurd hr (hstop _ _)
  · exact .inr hk

theorem eq_map_done {rs : List (Routine σ α)} (h : ∀ r ∈ rs, r.result? ≠ none) :
    rs = (rs.filterMap Routine.result?).map .done := by
  induction rs with
  | nil => rfl
  | cons r rs ih =>
      obtain ⟨hr, hrs⟩ := List.forall_mem_cons.1 h
      cases r with
      | done a => exact congrArg (Routine.done a :: ·) (ih hrs)
      | act | stop => exact absurd rfl hr

/-- If nobody may get a turn any more, all members have ended. -/
theorem Attends.ended (h : crowd.Attends []) (hn : crowd.next? = none)
    (hh : crowd.halted.isEmpty = true) : Routine.AllEnd crowd.members [] crowd.results := by
  have hdone : ∀ r ∈ crowd.members, r.result? ≠ none := fun r hr hnone => by
    obtain ⟨i, hi⟩ := List.mem_iff_getElem?.1 hr
    rcases h i r hi hnone with hi | hi
    · cases hi
    · rw [pending, queue_of_next? hn, List.isEmpty_iff.1 hh] at hi
      cases hi
  conv => arg 1; rw [eq_map_done hdone]
  exact .ended crowd.results

/-! ## Turns -/

theorem serve_of_act {change : σ → σ} {rest : σ → Routine σ α}
    (hi : crowd.members[i]? = some (.act change rest)) :
    crowd.serve i = .act change fun s => .act id fun now =>
      ((crowd.advanced i (rest s)).roused now).serve i := by
  rw [serve]
  split <;> simp_all

theorem serve_of_stop {halt : Halt σ} {rest : Routine σ α}
    (hi : crowd.members[i]? = some (.stop halt rest)) :
    crowd.serve i = .act id fun s =>
      let halted := (crowd.advanced i rest).withHalted i halt s
      if halted.weary then .stop halted.halt (.act id fun s => (halted.roused s).rested.takeUp)
      else halted.goOn := by
  rw [serve]
  split <;> simp_all

theorem serve_of_ended (hact : ∀ change rest, crowd.members[i]? ≠ some (.act change rest))
    (hstop : ∀ halt rest, crowd.members[i]? ≠ some (.stop halt rest)) :
    crowd.serve i = crowd.renewed.goOn := by
  rw [serve]
  split
  · exact absurd ‹_› (hact _ _)
  · exact absurd ‹_› (hstop _ _)
  · rfl

theorem goOn_of_next? {next : Nat × Crowd σ α} (h : crowd.next? = some next) :
    crowd.goOn = next.2.serve next.1 := by
  rw [goOn]
  split <;> simp_all

theorem goOn_of_nobody (h : crowd.next? = none) :
    crowd.goOn = if crowd.halted.isEmpty then .done crowd.results
      else .stop crowd.halt (.act id fun s => (crowd.roused s).rested.takeUp) := by
  rw [goOn]
  split <;> simp_all

theorem takeUp_of_next? {next : Nat × Crowd σ α} (h : crowd.next? = some next) :
    crowd.takeUp = next.2.serve next.1 := by
  rw [takeUp]
  split <;> simp_all

theorem takeUp_of_nobody (h : crowd.next? = none) :
    crowd.takeUp = .stop crowd.halt (.act id fun s =>
      match (crowd.roused s).rested.next? with
      | some next => next.2.serve next.1
      | none => .stop (.awaiting fun _ => false) (.all crowd.members)) := by
  rw [takeUp]
  split
  · simp_all
  · congr
    funext s
    split <;> simp_all

open Routine (AllEnd)

/-- Whoever has a turn, the members come to their results side by side. -/
theorem allEnd_of_turns :
    (∀ (crowd : Crowd σ α) (i : Nat), crowd.Attends [i] → ∀ {steps results},
      (crowd.serve i).Ends steps results → AllEnd crowd.members steps results) ∧
    (∀ crowd : Crowd σ α, crowd.Attends [] → ∀ {steps results},
      crowd.goOn.Ends steps results → AllEnd crowd.members steps results) ∧
    ∀ crowd : Crowd σ α, crowd.Attends [] → ∀ {steps results},
      crowd.takeUp.Ends steps results → AllEnd crowd.members steps results := by
  apply serve.mutual_induct
  -- A member has its turn: it makes a step, halts, or has ended.
  case case1 =>
    intro crowd i change rest hi ih ha steps results h
    rw [serve_of_act hi] at h
    obtain ⟨s, _, rfl, hrest⟩ := h.of_act
    obtain ⟨now, _, rfl, hserved⟩ := hrest.of_act
    exact .act s hi (.idle now (ih s now (ha.advanced _).roused hserved))
  case case2 =>
    intro crowd i halt rest hi ihTakeUp ihGoOn ha steps results h
    rw [serve_of_stop hi] at h
    obtain ⟨s, _, rfl, hrest⟩ := h.of_act
    have hhalted := (ha.advanced rest).withHalted (s := s) halt
    have hmembers : ((crowd.advanced i rest).withHalted i halt s).members =
        crowd.members.set i rest := members_withHalted (crowd.advanced i rest) i halt s
    refine .idle s (.stop hi ?_)
    rw [← hmembers]
    dsimp only at hrest
    split at hrest
    · obtain ⟨t, _, rfl, hwoken⟩ := hrest.of_stop.of_act
      exact .idle t (ihTakeUp s t hhalted.roused hwoken)
    · exact ihGoOn s hhalted hrest
  case case3 =>
    intro crowd i hact hstop ih ha steps results h
    rw [serve_of_ended hact hstop] at h
    exact ih (ha.renewed hact hstop) h
  -- The next one in the queue has its turn; without any, the crowd has ended or halts.
  case case4 =>
    intro crowd next hnext ih ha steps results h
    rw [goOn_of_next? hnext] at h
    rw [← members_of_next? hnext]
    exact ih (ha.of_next? hnext) h
  case case5 =>
    intro crowd hnext hh ha steps results h
    rw [goOn_of_nobody hnext, if_pos hh] at h
    cases h
    exact ha.ended hnext hh
  case case6 =>
    intro crowd hnext hh ih ha steps results h
    rw [goOn_of_nobody hnext, if_neg hh] at h
    obtain ⟨s, _, rfl, hwoken⟩ := h.of_stop.of_act
    exact .idle s (ih s ha.roused hwoken)
  -- When the crowd has halted, it goes on or halts once more, at the worst for good.
  case case7 =>
    intro crowd next hnext ih ha steps results h
    rw [takeUp_of_next? hnext] at h
    rw [← members_of_next? hnext]
    exact ih (ha.of_next? hnext) h
  case case8 =>
    intro crowd hnext ih ha steps results h
    rw [takeUp_of_nobody hnext] at h
    obtain ⟨s, _, rfl, hwoken⟩ := h.of_stop.of_act
    refine .idle s ?_
    split at hwoken
    · rename_i next hroused
      have ha' : (crowd.roused s).rested.Attends [] := ha.roused
      have hall := ih s next hroused (ha'.of_next? hroused) hwoken
      rwa [members_of_next? hroused] at hall
    · exact hwoken.of_stop.of_all

end Crowd

/-! ## Programs that a host runs side by side -/

namespace Interleaved

open Routine (AllEnd)

theorem allEnd_of_together {programs : List (Interleaved σ α)}
    {steps : List (Session σ × Session σ)} {results : List α}
    (h : (together programs).Ends steps results) : AllEnd programs steps results := by
  unfold together at h
  split at h
  · exact h.of_all
  · exact Crowd.allEnd_of_turns.2.1 _ (Crowd.attends_ofList programs) h

/-- A program that runs alone comes to its result by its own steps. -/
theorem ends_of_run {r : Interleaved σ α} {s s' : Session σ} {a : α}
    (h : run r s = (some a, s')) : ∃ steps, r.Ends steps a := by
  induction r generalizing s with
  | done b =>
      cases h
      exact ⟨[], .done a⟩
  | act change rest ih =>
      obtain ⟨steps, he⟩ := ih s h
      exact ⟨_, .act s he⟩
  | stop halt rest ih =>
      rw [run] at h
      split at h
      · obtain ⟨steps, he⟩ := ih h
        exact ⟨steps, .stop he⟩
      · cases h

end Interleaved

end EventSourcing
