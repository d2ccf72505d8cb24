import EventSourcing.Proofs.Delivery

/-!
# Trees of failures

A fan-out puts the failures of its subscribers together, and its own failure may be one of those that
another fan-out puts together. In such a tree nothing is lost: its leaves are the single failures, from
left to right, and wherever it branches there are at least two branches.
-/

namespace EventSourcing

open EventSourcing.Sequential

namespace DomainError

/-- A failure of one's own: not one that stands for several. -/
def IsSingle : DomainError → Prop
  | .dispatch _ => False
  | _ => True

mutual

/-- Wherever failures are put together there are at least two. -/
def Forked : DomainError → Prop
  | .dispatch failures => 2 ≤ failures.length ∧ AllForked failures
  | _ => True

def AllForked : List DomainError → Prop
  | [] => True
  | failure :: failures => Forked failure ∧ AllForked failures

end

theorem IsSingle.leaves {failure : DomainError} (h : failure.IsSingle) :
    failure.leaves = [failure] := by
  cases failure with
  | dispatch => exact h.elim
  | _ => rfl

theorem IsSingle.forked {failure : DomainError} (h : failure.IsSingle) : failure.Forked := by
  cases failure with
  | dispatch => exact h.elim
  | _ => trivial

theorem leavesOf_of_isSingle {failures : List DomainError}
    (h : ∀ failure ∈ failures, failure.IsSingle) : leavesOf failures = failures := by
  induction failures with
  | nil => rfl
  | cons failure failures ih =>
      obtain ⟨hf, hrest⟩ := List.forall_mem_cons.1 h
      rw [leavesOf, hf.leaves, ih hrest]
      rfl

theorem allForked_of_isSingle {failures : List DomainError}
    (h : ∀ failure ∈ failures, failure.IsSingle) : AllForked failures := by
  induction failures with
  | nil => trivial
  | cons failure failures ih =>
      obtain ⟨hf, hrest⟩ := List.forall_mem_cons.1 h
      exact ⟨hf.forked, ih hrest⟩

mutual

/-- A rule was violated if and only if one of the single failures says so. -/
theorem isRuleViolation_iff : (failure : DomainError) →
    (failure.isRuleViolation = true ↔ ∃ text, .ruleViolation text ∈ failure.leaves)
  | .validation text | .notFound kind id | .store text => by simp [isRuleViolation, leaves]
  | .ruleViolation text => by simp [isRuleViolation, leaves]
  | .dispatch failures => anyRuleViolation_iff failures

theorem anyRuleViolation_iff : (failures : List DomainError) →
    (anyRuleViolation failures = true ↔ ∃ text, .ruleViolation text ∈ leavesOf failures)
  | [] => by simp [anyRuleViolation, leavesOf]
  | failure :: failures => by
      simp only [anyRuleViolation, leavesOf, Bool.or_eq_true, List.mem_append, exists_or]
      exact or_congr (isRuleViolation_iff failure) (anyRuleViolation_iff failures)

end

/-! ## The failure that stands for others -/

theorem ne_nil_of_ofFailures? {failures : List DomainError} {failure : DomainError}
    (h : ofFailures? failures = some failure) : failures ≠ [] := by
  rintro rfl
  cases h

theorem leaves_of_ofFailures? {failures : List DomainError} {failure : DomainError}
    (h : ofFailures? failures = some failure) : failure.leaves = leavesOf failures := by
  match failures with
  | [] => cases h
  | [_] =>
      cases h
      exact (List.append_nil _).symm
  | _ :: _ :: _ =>
      cases h
      rfl

theorem forked_of_ofFailures? {failures : List DomainError} {failure : DomainError}
    (hf : AllForked failures) (h : ofFailures? failures = some failure) : failure.Forked := by
  match failures with
  | [] => cases h
  | [_] =>
      cases h
      exact hf.1
  | _ :: _ :: rest =>
      cases h
      exact ⟨Nat.le_add_left 2 rest.length, hf⟩

end DomainError

/-- A subscriber fails for one reason at a time. -/
def Subscriber.FailsSingly {σ P : Type} (subscriber : Subscriber (Sequential σ) P) : Prop :=
  ∀ envelope state failure state',
    Yields (subscriber.handle envelope) state (.error failure) state' → failure.IsSingle

theorem Subscriber.refuser_failsSingly {σ P : Type} (reason : String) :
    (Subscriber.refuser reason : Subscriber (Sequential σ) P).FailsSingly := by
  intro envelope state failure state' h
  cases (yields_throw.1 h).1
  trivial

theorem Subscriber.recorder_failsSingly {σ P : Type} (name : String)
    (received : Cell σ (List (Envelope P))) :
    (Subscriber.recorder name received : Subscriber (Sequential σ) P).FailsSingly := by
  intro envelope state failure state' h
  obtain ⟨_, -, hr, -⟩ := h.of_sure
  cases hr

/-! ## What a fan-out fails with -/

namespace Dispatcher

theorem map_error_failuresOf (results : List (Except DomainError Unit)) :
    (failuresOf results).map Except.error = results.filter (!·.isOk) := by
  induction results with
  | nil => rfl
  | cons result results ih =>
      cases result with
      | ok => exact ih
      | error failure => exact congrArg (Except.error failure :: ·) ih

theorem settled_eq_ok_iff {results : List (Except DomainError Unit)} :
    settled results = .ok () ↔ ∀ result ∈ results, result = .ok () := by
  refine ⟨fun h => ?_, settled_eq_ok⟩
  have hnone := map_error_failuresOf results
  rw [failuresOf_of_settled h] at hnone
  intro result hr
  have hok := List.filter_eq_nil_iff.1 hnone.symm result hr
  rcases result with failure | ⟨⟩
  · exact absurd rfl hok
  · rfl

theorem settled_eq_error_iff {results : List (Except DomainError Unit)} {failure : DomainError} :
    settled results = .error failure ↔
      DomainError.ofFailures? (failuresOf results) = some failure := by
  unfold settled
  split
  · rename_i other h
    rw [h, Option.some_inj, Except.error.injEq]
  · rename_i h
    rw [h]
    exact ⟨nofun, nofun⟩

/-- The failures of some results, as soon as they are known to be these. -/
theorem failuresOf_eq {results : List (Except DomainError Unit)} {failures : List DomainError}
    (h : results.filter (!·.isOk) = failures.map Except.error) : failuresOf results = failures := by
  rw [← map_error_failuresOf] at h
  exact (List.map_inj_right fun _ _ he => Except.error.inj he).1 h

theorem isSingle_of_mem_failuresOf {P σ : Type} {envelope : Envelope P}
    {subscribers : List (Subscriber (Sequential σ) P)} {state state' : σ}
    {results : List (Except DomainError Unit)}
    (hs : ∀ subscriber ∈ subscribers, subscriber.FailsSingly)
    (h : Offered envelope subscribers state results state') :
    ∀ failure ∈ failuresOf results, failure.IsSingle := by
  induction h with
  | nobody => exact fun _ hf => absurd hf List.not_mem_nil
  | @next _ _ result _ _ _ _ hy _ ih =>
      have hrest := ih fun other ho => hs other (List.mem_cons_of_mem _ ho)
      cases result with
      | ok => exact hrest
      | error failure =>
          exact List.forall_mem_cons.2 ⟨hs _ List.mem_cons_self _ _ _ _ hy, hrest⟩

end Dispatcher

end EventSourcing
