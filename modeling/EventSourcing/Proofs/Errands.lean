import Mathlib.Data.List.Nodup
import Mathlib.Logic.Function.Basic

/-!
# Errands one after the other

What calls on pages come to when they are done one after the other: a result for each, and the pages
in the end.
-/

namespace EventSourcing

/-- What a call comes to: a result, and the page of its entity as it leaves it. -/
structure Errand (P β : Type) where
  entity : Int64
  outcome : P → β × P

namespace Errand

variable {P β : Type}

/-- The pages after an errand. -/
def revise (errand : Errand P β) (pages : Int64 → P) : Int64 → P :=
  Function.update pages errand.entity (errand.outcome (pages errand.entity)).2

def pagesAfter (errands : Nat → Errand P β) (pages : Int64 → P) (order : List Nat) : Int64 → P :=
  order.foldl (fun pages i => (errands i).revise pages) pages

/-- The results of errands one after the other, with their numbers. -/
def results (errands : Nat → Errand P β) (pages : Int64 → P) : List Nat → List (Nat × β)
  | [] => []
  | i :: order =>
    (i, ((errands i).outcome (pages (errands i).entity)).1) ::
      results errands ((errands i).revise pages) order

theorem eq_revise {errand : Errand P β} {pages pages' : Int64 → P}
    (hown : pages' errand.entity = (errand.outcome (pages errand.entity)).2)
    (hothers : ∀ other, other ≠ errand.entity → pages' other = pages other) :
    pages' = errand.revise pages :=
  Function.eq_update_iff.2 ⟨hown, hothers⟩

variable {errands : Nat → Errand P β}

theorem pagesAfter_concat (pages : Int64 → P) (order : List Nat) (i : Nat) :
    pagesAfter errands pages (order ++ [i]) =
      (errands i).revise (pagesAfter errands pages order) := by
  simp [pagesAfter]

theorem results_concat (pages : Int64 → P) (order : List Nat) (i : Nat) :
    results errands pages (order ++ [i]) = results errands pages order ++
      [(i, ((errands i).outcome (pagesAfter errands pages order (errands i).entity)).1)] := by
  induction order generalizing pages with
  | nil => rfl
  | cons j order ih => simp only [List.cons_append, results, ih, pagesAfter, List.foldl_cons]

theorem map_fst_results (errands : Nat → Errand P β) (pages : Int64 → P) (order : List Nat) :
    (results errands pages order).map Prod.fst = order := by
  induction order generalizing pages with
  | nil => rfl
  | cons i order ih => rw [results, List.map_cons, ih]

theorem mem_of_result {pages : Int64 → P} {order : List Nat} {i : Nat} {b : β}
    (h : (i, b) ∈ results errands pages order) : i ∈ order := by
  rw [← map_fst_results errands pages order]
  exact List.mem_map_of_mem h

theorem result_unique {pages : Int64 → P} {order : List Nat} (hn : order.Nodup) {i : Nat} {b b' : β}
    (h : (i, b) ∈ results errands pages order) (h' : (i, b') ∈ results errands pages order) :
    b = b' := by
  rw [← map_fst_results errands pages order] at hn
  exact congrArg Prod.snd (List.inj_on_of_nodup_map hn h h' rfl)

theorem exists_outcome {pages : Int64 → P} {order : List Nat} {i : Nat} {b : β}
    (h : (i, b) ∈ results errands pages order) : ∃ page, ((errands i).outcome page).1 = b := by
  induction order generalizing pages with
  | nil => cases h
  | cons j order ih =>
      rcases List.mem_cons.1 h with h | h
      · cases h
        exact ⟨_, rfl⟩
      · exact ih h

/-- What is seen of some answers is what the errands come to, if it is for each errand. -/
theorem map_seen_of_results {α : Type} {seen : α → β} {answers : List α} {pages : Int64 → P}
    {order : List Nat} (h : ∀ i b, (i, b) ∈ results errands pages order →
      ∃ a, answers[i]? = some a ∧ seen a = b) :
    (order.filterMap (answers[·]?)).map seen = (results errands pages order).map Prod.snd := by
  induction order generalizing pages with
  | nil => rfl
  | cons i order ih =>
      obtain ⟨a, ha, hb⟩ := h i _ List.mem_cons_self
      have hrest := ih fun j b hj => h j b (List.mem_cons_of_mem _ hj)
      rw [List.filterMap_cons_some ha, List.map_cons, hrest, hb]
      rfl

/-- An errand that ends in the same way from every page and leaves it as it is. -/
def Idle (errand : Errand P β) (b : β) : Prop := ∀ page, errand.outcome page = (b, page)

theorem Idle.revise {errand : Errand P β} {b : β} (h : errand.Idle b) (pages : Int64 → P) :
    errand.revise pages = pages := by
  rw [Errand.revise, h, Function.update_eq_self]

/-- Idle errands in between make no difference. -/
theorem of_sublist {part whole : List Nat} (hs : part.Sublist whole) (hn : whole.Nodup)
    (hidle : ∀ i ∈ whole, i ∉ part → ∃ b, (errands i).Idle b) (pages : Int64 → P) :
    pagesAfter errands pages whole = pagesAfter errands pages part ∧
      ∀ i b, (i, b) ∈ results errands pages whole →
        (i, b) ∈ results errands pages part ∨ i ∉ part ∧ (errands i).Idle b := by
  induction hs generalizing pages with
  | slnil => exact ⟨rfl, fun i b h => .inl h⟩
  | @cons part whole i hs ih =>
      rw [List.nodup_cons] at hn
      have hni : i ∉ part := fun hi => hn.1 (hs.subset hi)
      obtain ⟨b, hb⟩ := hidle i List.mem_cons_self hni
      obtain ⟨hpages, hresults⟩ := ih hn.2
        (fun j hj => hidle j (List.mem_cons_of_mem _ hj)) pages
      refine ⟨?_, fun j c hj => ?_⟩
      · rw [← hpages, pagesAfter, List.foldl_cons, hb.revise]
        rfl
      · rw [results, hb.revise, hb] at hj
        rcases List.mem_cons.1 hj with hj | hj
        · cases hj
          exact .inr ⟨hni, hb⟩
        · exact hresults j c hj
  | @cons_cons part whole i hs ih =>
      rw [List.nodup_cons] at hn
      have hidle' : ∀ j ∈ whole, j ∉ part → ∃ b, (errands j).Idle b := fun j hj hjn =>
        hidle j (List.mem_cons_of_mem _ hj) fun hm =>
          (List.mem_cons.1 hm).elim (fun he => hn.1 (he ▸ hj)) hjn
      obtain ⟨hpages, hresults⟩ := ih hn.2 hidle' ((errands i).revise pages)
      refine ⟨hpages, fun j c hj => ?_⟩
      rcases List.mem_cons.1 hj with hj | hj
      · exact .inl (hj ▸ List.mem_cons_self)
      · rcases hresults j c hj with hr | ⟨hjn, hr⟩
        · exact .inl (List.mem_cons_of_mem _ hr)
        · refine .inr ⟨fun hm => ?_, hr⟩
          rcases List.mem_cons.1 hm with rfl | hm
          · exact hn.1 (mem_of_result hj)
          · exact hjn hm

end Errand

end EventSourcing
