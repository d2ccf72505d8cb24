import EventSourcing.Crowd
import EventSourcing.Pool
import Mathlib.Logic.Hydra

/-!
# Pools that come to an end

Each step takes a routine on to a part of it, so that a pool in which some routine can always go on
comes to the end of all of them.
-/

namespace EventSourcing

variable {σ α : Type}

namespace Routine

theorem follows_of_advance? {r r' : Routine σ α} {s s' : σ} (h : r.advance? s = some (r', s')) :
    Follows r' r := by
  cases r with
  | done a => cases h
  | act change rest =>
      cases h
      exact .act change rest s
  | stop halt rest =>
      change (if halt.canGoOn s then some (rest, s) else none) = _ at h
      split at h
      · cases h
        exact .stop halt _
      · cases h

end Routine

namespace Pool

variable {pool pool' : Pool σ α} {i : Nat}

theorem of_advance? (h : pool.advance? i = some pool') :
    ∃ r r' s', pool.routines[i]? = some r ∧ r.advance? pool.state = some (r', s') ∧
      pool' = ⟨pool.routines.set i r', s'⟩ := by
  obtain ⟨r, hr, hrest⟩ := Option.bind_eq_some_iff.1 h
  obtain ⟨⟨r', s'⟩, ha, hend⟩ := Option.bind_eq_some_iff.1 hrest
  exact ⟨r, r', s', hr, ha, (Option.some.inj hend).symm⟩

theorem routines_of_results? {results : List α}
    (h : pool.results? = some results) : pool.routines = results.map .done := by
  obtain ⟨routines, s⟩ := pool
  unfold results? at h
  induction routines generalizing results with
  | nil =>
      cases h
      rfl
  | cons r routines ih =>
      rw [List.mapM_cons] at h
      obtain ⟨a, ha, hrest⟩ := Option.bind_eq_some_iff.1 h
      obtain ⟨as, has, hend⟩ := Option.bind_eq_some_iff.1 hrest
      cases hend
      cases r with
      | done b =>
          cases ha
          rw [List.map_cons, ← ih has]
      | act | stop => cases ha

theorem exists_results?
    (h : ∀ r ∈ pool.routines, ∃ a, r = .done a) : ∃ results, pool.results? = some results := by
  obtain ⟨routines, s⟩ := pool
  unfold results?
  induction routines with
  | nil => exact ⟨[], rfl⟩
  | cons r routines ih =>
      obtain ⟨a, rfl⟩ := h r List.mem_cons_self
      obtain ⟨results, hr⟩ := ih fun r hr => h r (List.mem_cons_of_mem _ hr)
      exact ⟨a :: results, by simp [hr, Routine.result?]⟩

theorem advance?_isSome {r : Routine σ α}
    (hi : pool.routines[i]? = some r) (h : (r.advance? pool.state).isSome) :
    (pool.advance? i).isSome := by
  obtain ⟨next, hn⟩ := Option.isSome_iff_exists.1 h
  simp [advance?, hi, hn]

theorem length_of_advance? (h : pool.advance? i = some pool') :
    pool'.routines.length = pool.routines.length := by
  obtain ⟨r, r', s', -, -, rfl⟩ := of_advance? h
  exact List.length_set

theorem cutExpand_of_advance? (h : pool.advance? i = some pool') :
    Relation.CutExpand Routine.Follows (pool'.routines : Multiset (Routine σ α)) pool.routines := by
  obtain ⟨r, r', s', hr, ha, rfl⟩ := of_advance? h
  obtain ⟨hi, rfl⟩ := List.getElem?_eq_some_iff.1 hr
  have hbefore := Multiset.coe_eq_coe.2 (List.getElem_cons_eraseIdx_perm hi)
  have hafter := Multiset.coe_eq_coe.2 (List.set_perm_cons_eraseIdx hi r')
  rw [hafter, ← hbefore, ← Multiset.cons_coe, ← Multiset.cons_coe, ← Multiset.singleton_add,
    ← Multiset.singleton_add]
  exact Relation.cutExpand_single_add (Routine.follows_of_advance? ha) _

/-- Where something holds that each step keeps, and that lets some routine go on as long as not all
of them have ended, all of them can be brought to their end. -/
theorem exists_end {P : Pool σ α → Prop}
    (hstep : ∀ pool i pool', P pool → pool.advance? i = some pool' → P pool')
    (hgo : ∀ pool, P pool → (∃ results, pool.results? = some results) ∨
      ∃ i, (pool.advance? i).isSome) (h : P pool) :
    ∃ schedule last results, pool.follow? schedule = some last ∧ last.results? = some results := by
  -- Of the routines that are left, taken as a multiset, a step replaces one by a part of it.
  have hwf := (WellFounded.intro (Routine.acc_follows (σ := σ) (α := α))).cutExpand
  generalize hm : (pool.routines : Multiset (Routine σ α)) = routines
  induction routines using hwf.induction generalizing pool with
  | _ routines ih =>
      subst hm
      obtain ⟨results, hr⟩ | ⟨i, hi⟩ := hgo pool h
      · exact ⟨[], pool, results, rfl, hr⟩
      · obtain ⟨next, hn⟩ := Option.isSome_iff_exists.1 hi
        obtain ⟨schedule, last, results, hf, hr⟩ :=
          ih _ (cutExpand_of_advance? hn) (hstep _ _ _ h hn) rfl
        refine ⟨i :: schedule, last, results, ?_, hr⟩
        rw [follow?, hn]
        exact hf

end Pool

end EventSourcing
