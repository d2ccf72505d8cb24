import EventSourcing.Routine
import Mathlib.Data.List.Forall2

/-!
# Routines side by side

Routines that take turns make the steps of each of them, once and in order, until all have ended, and no
steps but those and idle ones. The results are in the order of the routines, in whatever order these
have ended.
-/

namespace EventSourcing

variable {σ α β : Type}

/-! ## Steps to an end -/

namespace Routine

/-- A routine comes to a result by some steps. Of each step the state that it finds and the one that it
leaves are listed; what others do in between is left open. -/
inductive Ends : Routine σ α → List (σ × σ) → α → Prop
  | done (a : α) : Ends (.done a) [] a
  | act {change : σ → σ} {rest : σ → Routine σ α} {steps : List (σ × σ)} {a : α} (s : σ)
      (h : Ends (rest s) steps a) : Ends (.act change rest) ((s, change s) :: steps) a
  | stop {halt : Halt σ} {rest : Routine σ α} {steps : List (σ × σ)} {a : α}
      (h : Ends rest steps a) : Ends (.stop halt rest) steps a

/-- Some routines come to their results by steps of which each takes one of them on or is idle. -/
inductive AllEnd : List (Routine σ α) → List (σ × σ) → List α → Prop
  | ended (results : List α) : AllEnd (results.map .done) [] results
  | act {rs : List (Routine σ α)} {i : Nat} {change : σ → σ} {rest : σ → Routine σ α}
      {steps : List (σ × σ)} {results : List α} (s : σ) (hi : rs[i]? = some (.act change rest))
      (h : AllEnd (rs.set i (rest s)) steps results) : AllEnd rs ((s, change s) :: steps) results
  | stop {rs : List (Routine σ α)} {i : Nat} {halt : Halt σ} {rest : Routine σ α}
      {steps : List (σ × σ)} {results : List α} (hi : rs[i]? = some (.stop halt rest))
      (h : AllEnd (rs.set i rest) steps results) : AllEnd rs steps results
  | idle {rs : List (Routine σ α)} {steps : List (σ × σ)} {results : List α} (s : σ)
      (h : AllEnd rs steps results) : AllEnd rs ((s, s) :: steps) results

/-- The steps of two programs, each in their order, and idle ones. -/
inductive Merge : List (σ × σ) → List (σ × σ) → List (σ × σ) → Prop
  | nil : Merge [] [] []
  | left {own other steps : List (σ × σ)} (d : σ × σ) (h : Merge own other steps) :
      Merge (d :: own) other (d :: steps)
  | right {own other steps : List (σ × σ)} (d : σ × σ) (h : Merge own other steps) :
      Merge own (d :: other) (d :: steps)
  | idle {own other steps : List (σ × σ)} (s : σ) (h : Merge own other steps) :
      Merge own other ((s, s) :: steps)

theorem Merge.nil_left (steps : List (σ × σ)) : Merge [] steps steps := by
  induction steps with
  | nil => exact .nil
  | cons d steps ih => exact .right d ih

theorem Merge.nil_right (steps : List (σ × σ)) : Merge steps [] steps := by
  induction steps with
  | nil => exact .nil
  | cons d steps ih => exact .left d ih

theorem Merge.of_idle_right {own other steps : List (σ × σ)} {s : σ}
    (h : Merge own ((s, s) :: other) steps) : Merge own other steps := by
  generalize hd : (s, s) :: other = both at h
  induction h with
  | nil => cases hd
  | left d _ ih => exact .left d (ih hd)
  | right d h =>
      cases hd
      exact .idle s h
  | idle t _ ih => exact .idle t (ih hd)

theorem Ends.of_act {change : σ → σ} {rest : σ → Routine σ α} {steps : List (σ × σ)} {a : α}
    (h : (Routine.act change rest).Ends steps a) :
    ∃ s later, steps = (s, change s) :: later ∧ (rest s).Ends later a := by
  cases h with
  | act s h => exact ⟨s, _, rfl, h⟩

theorem Ends.of_stop {halt : Halt σ} {rest : Routine σ α} {steps : List (σ × σ)} {a : α}
    (h : (Routine.stop halt rest).Ends steps a) : rest.Ends steps a := by
  cases h with
  | stop h => exact h

theorem Ends.of_bind {r : Routine σ α} {f : α → Routine σ β} {steps : List (σ × σ)} {b : β}
    (h : (r.bind f).Ends steps b) :
    ∃ own a later, r.Ends own a ∧ (f a).Ends later b ∧ steps = own ++ later := by
  induction r generalizing steps with
  | done a => exact ⟨[], a, steps, .done a, h, rfl⟩
  | act change rest ih =>
      obtain ⟨s, _, rfl, hrest⟩ := h.of_act
      obtain ⟨own, a, later, hown, hlater, rfl⟩ := ih s hrest
      exact ⟨_, a, later, .act s hown, hlater, rfl⟩
  | stop halt rest ih =>
      obtain ⟨own, a, later, hown, hlater, rfl⟩ := ih h.of_stop
      exact ⟨own, a, later, .stop hown, hlater, rfl⟩

/-- To wait is to halt, but for an idle step. -/
theorem Ends.of_wait {halt : Halt σ} {rest : Routine σ α} {steps : List (σ × σ)} {a : α}
    (h : (wait halt rest).Ends steps a) :
    ∃ s own, steps = (s, s) :: own ∧ (Routine.stop halt rest).Ends own a := by
  obtain ⟨s, own, rfl, hrest⟩ := h.of_act
  refine ⟨s, own, rfl, ?_⟩
  split at hrest
  · exact .stop hrest
  · exact hrest

/-! ## Two routines -/

theorem Ends.of_secondTurn {halt : Halt σ} {first : Routine σ α} {second : Routine σ β}
    {again : Routine σ β → Routine σ (α × β)} {steps : List (σ × σ)} {results : α × β}
    (hagain : ∀ {second steps results}, (again second).Ends steps results →
      ∃ own other, first.Ends own results.1 ∧ second.Ends other results.2 ∧ Merge own other steps)
    (h : (secondTurn halt first again second).Ends steps results) :
    ∃ own other, first.Ends own results.1 ∧ second.Ends other results.2 ∧
      Merge own other steps := by
  induction second generalizing steps with
  | done b =>
      obtain ⟨own, a, later, hown, hlater, rfl⟩ := h.of_stop.of_bind
      cases hlater
      refine ⟨own, [], hown, .done b, ?_⟩
      rw [List.append_nil]
      exact .nil_right own
  | act change rest ih =>
      obtain ⟨s, _, rfl, hrest⟩ := h.of_act
      obtain ⟨own, other, hown, hother, hm⟩ := ih s hrest
      exact ⟨own, _, hown, .act s hother, .right _ hm⟩
  | stop halt' rest ih =>
      obtain ⟨s, _, rfl, hrest⟩ := h.of_stop.of_act
      split at hrest
      · obtain ⟨own, other, hown, hother, hm⟩ := hagain hrest
        obtain ⟨t, later, rfl, hlater⟩ := hother.of_wait
        exact ⟨own, later, hown, hlater, .idle s hm.of_idle_right⟩
      · obtain ⟨own, other, hown, hother, hm⟩ := ih hrest
        exact ⟨own, other, hown, .stop hother, .idle s hm⟩

theorem Ends.of_both {first : Routine σ α} {second : Routine σ β} {steps : List (σ × σ)}
    {results : α × β} (h : (both first second).Ends steps results) :
    ∃ own other, first.Ends own results.1 ∧ second.Ends other results.2 ∧
      Merge own other steps := by
  induction first generalizing second steps results with
  | done a =>
      obtain ⟨other, b, later, hother, hlater, rfl⟩ := h.of_bind
      cases hlater
      refine ⟨[], other, .done a, hother, ?_⟩
      rw [List.append_nil]
      exact .nil_left other
  | act change rest ih =>
      obtain ⟨s, _, rfl, hrest⟩ := h.of_act
      obtain ⟨own, other, hown, hother, hm⟩ := ih s hrest
      exact ⟨_, other, .act s hown, hother, .left _ hm⟩
  | stop halt rest ih =>
      obtain ⟨own, other, hown, hother, hm⟩ := of_secondTurn ih h
      exact ⟨own, other, .stop hown, hother, hm⟩

/-! ## A few routines -/

/-- One more routine at the head of some that end. -/
theorem AllEnd.cons {r : Routine σ α} {rs : List (Routine σ α)} {a : α} {results : List α}
    {own others steps : List (σ × σ)} (hm : Merge own others steps) (hr : r.Ends own a)
    (hrs : AllEnd rs others results) : AllEnd (r :: rs) steps (a :: results) := by
  -- A step of either side may come after some halts, which make no steps.
  induction hm generalizing r rs a results with
  | nil =>
      generalize hown : [] = own at hr
      induction hr with
      | done a =>
          generalize hothers : [] = others at hrs
          induction hrs with
          | ended results => exact .ended (a :: results)
          | act | idle => cases hothers
          | @stop _ i _ _ _ _ hi _ ih => exact .stop (i := i + 1) hi (ih hothers)
      | act => cases hown
      | stop _ ih => exact .stop (i := 0) rfl (ih hown)
  | @left own _ _ d _ ih =>
      generalize hd : d :: own = steps at hr
      induction hr with
      | done => cases hd
      | act s hr =>
          cases hd
          exact .act (i := 0) s rfl (ih hr hrs)
      | stop _ ihr => exact .stop (i := 0) rfl (ihr hd)
  | @right _ others _ d _ ih =>
      generalize hd : d :: others = steps at hrs
      induction hrs with
      | ended => cases hd
      | @act _ i _ _ _ _ s hi hrs =>
          cases hd
          exact .act (i := i + 1) s hi (ih hr hrs)
      | @stop _ i _ _ _ _ hi _ ihrs => exact .stop (i := i + 1) hi (ihrs hd)
      | idle s hrs =>
          cases hd
          exact .idle s (ih hr hrs)
  | idle s _ ih => exact .idle s (ih hr hrs)

theorem Ends.of_all {rs : List (Routine σ α)} {steps : List (σ × σ)} {results : List α}
    (h : (all rs).Ends steps results) : AllEnd rs steps results := by
  induction rs generalizing steps results with
  | nil =>
      cases h
      exact .ended []
  | cons r rs ih =>
      obtain ⟨both, outcome, later, hboth, hlater, rfl⟩ := h.of_bind
      cases hlater
      obtain ⟨own, others, hown, hothers, hm⟩ := hboth.of_both
      rw [List.append_nil]
      exact .cons hm hown (ih hothers)

theorem forall₂_of_set {ρ : Type} {R R' : ρ → α → Prop} {rs : List ρ} {results : List α} {i : Nat}
    {r r' : ρ} (h : List.Forall₂ R (rs.set i r') results) (hi : rs[i]? = some r)
    (hat : ∀ a, R r' a → R' r a) (hothers : ∀ q a, R q a → R' q a) : List.Forall₂ R' rs results := by
  induction rs generalizing i results with
  | nil => cases hi
  | cons q rs ih =>
      cases i with
      | zero =>
          obtain rfl := Option.some.inj hi
          obtain _ | ⟨hr, hrs⟩ := h
          exact .cons (hat _ hr) (hrs.imp hothers)
      | succ i =>
          obtain _ | ⟨hq, hrs⟩ := h
          exact .cons (hothers _ _ hq) (ih hrs hi)

/-- Each of the routines makes its own steps among all of them. -/
theorem AllEnd.each {rs : List (Routine σ α)} {steps : List (σ × σ)} {results : List α}
    (h : AllEnd rs steps results) :
    List.Forall₂ (fun r a => ∃ own, own.Sublist steps ∧ r.Ends own a) rs results := by
  induction h with
  | ended results =>
      rw [List.forall₂_map_left_iff, List.forall₂_same]
      exact fun a _ => ⟨[], .slnil, .done a⟩
  | @act _ _ change _ steps _ s hi _ ih =>
      refine forall₂_of_set ih hi ?_ ?_
      · rintro a ⟨own, hs, he⟩
        exact ⟨_, hs.cons_cons (s, change s), .act s he⟩
      · rintro r a ⟨own, hs, he⟩
        exact ⟨own, hs.cons _, he⟩
  | stop hi _ ih =>
      refine forall₂_of_set ih hi ?_ fun _ _ h => h
      rintro a ⟨own, hs, he⟩
      exact ⟨own, hs, .stop he⟩
  | idle s _ ih => exact ih.imp fun _ _ ⟨own, hs, he⟩ => ⟨own, hs.cons _, he⟩

end Routine

end EventSourcing
