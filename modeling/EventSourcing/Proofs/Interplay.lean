import EventSourcing.Proofs.Calls
import EventSourcing.Proofs.Watch
import Mathlib.Data.List.Induction

/-!
# Calls side by side

Calls that lock their entities, in any order of their steps, come to what they come to one after the
other, in the order in which their tickets let them through. What is on a page while a call works on
it is the call's own affair; on all other pages is what the calls that came through so far make of
them.
-/

namespace EventSourcing

variable {σ P α β : Type}

/-- Calls with an errand each, on pages that fit. Of a result is seen what is to be told of it. -/
structure Undertaking (σ P α β : Type) where
  place : Workplace σ P
  fit : Int64 → P → Prop
  seen : α → β
  errands : Nat → Errand P β
  start : Int64 → P
  fit_start : ∀ entity, fit entity (start entity)
  fit_outcome : ∀ i page, fit (errands i).entity page →
    fit (errands i).entity ((errands i).outcome page).2

namespace Undertaking

variable (work : Undertaking σ P α β)

def table (s : σ) : LockTable := work.place.locks.get s

def pages (order : List Nat) : Int64 → P := Errand.pagesAfter work.errands work.start order

def results (order : List Nat) : List (Nat × β) := Errand.results work.errands work.start order

theorem pages_concat (order : List Nat) (i : Nat) (entity : Int64) :
    work.pages (order ++ [i]) entity =
      if entity = (work.errands i).entity then
        ((work.errands i).outcome (work.pages order (work.errands i).entity)).2
      else work.pages order entity := by
  rw [pages, Errand.pagesAfter_concat, Errand.revise, Function.update_apply]
  rfl

theorem results_concat (order : List Nat) (i : Nat) :
    work.results (order ++ [i]) = work.results order ++
      [(i, ((work.errands i).outcome (work.pages order (work.errands i).entity)).1)] :=
  Errand.results_concat work.start order i

theorem fit_pages (order : List Nat) (entity : Int64) :
    work.fit entity (work.pages order entity) := by
  induction order using List.reverseRecOn with
  | nil => exact work.fit_start entity
  | append_singleton order i ih =>
      rw [pages_concat]
      split
      · rename_i he
        subst he
        exact work.fit_outcome i _ ih
      · exact ih

/-- Where a call stands, in a state that it shares with others. -/
inductive Call (s : σ) (watch : Watch) (i : Nat) : Interleaved σ α → Prop
  | outside {r : Interleaved σ α} (hn : i ∉ watch.takers) (he : i ∉ watch.entered)
      (h : work.place.Outside work.fit work.seen (work.errands i) r) : Call s watch i r
  | waiting {r : Interleaved σ α} {t : Ticket} (ho : watch.Owns (work.table s) i t)
      (ht : t.entity = (work.errands i).entity) (he : i ∉ watch.entered)
      (h : work.place.Waiting work.fit work.seen t (work.errands i) r) : Call s watch i r
  | inside {r : Interleaved σ α} {t : Ticket} {promise : β × P}
      (ho : watch.Owns (work.table s) i t) (hh : (work.table s).holds t = true)
      (he : i ∈ watch.entered) (hr : (i, promise.1) ∈ work.results watch.entered)
      (hp : promise.2 = work.pages watch.entered t.entity)
      (h : work.place.Inside work.seen t promise r (work.place.page s t.entity)) :
      Call s watch i r
  | left {r : Interleaved σ α} {b : β} (ho : ∀ t, ¬watch.Owns (work.table s) i t)
      (he : i ∈ watch.entered) (hr : (i, b) ∈ work.results watch.entered)
      (h : Workplace.Ends work.seen b r) : Call s watch i r

/-- What always holds of calls that are going on. -/
structure Underway (routines : List (Interleaved σ α)) (s : σ) (watch : Watch) : Prop where
  ground : work.place.Sound s
  sound : (work.table s).Sound
  issued : watch.takers.length = (work.table s).nextSerial
  once : watch.takers.Nodup
  present : ∀ i ∈ watch.takers, i < routines.length
  calls : ∀ i r, routines[i]? = some r → work.Call s watch i r
  /-- A page on which nobody works is as the calls that came through have left it. -/
  idle : ∀ entity, (∀ i t, watch.Owns (work.table s) i t → t.entity = entity →
    i ∉ watch.entered) → work.place.page s entity = work.pages watch.entered entity

/-! ## One step of a call -/

/-- What a step of a call comes to. -/
inductive Progress (s : σ) (watch : Watch) (i : Nat) (r' : Interleaved σ α) (s' : σ) : Watch → Prop
  | quiet (hs : s' = s) (h : work.Call s watch i r') : Progress s watch i r' s' watch
  | take (hn : i ∉ watch.takers) (he : i ∉ watch.entered)
      (hs : s' = work.place.locks.set ((work.table s).take (work.errands i).entity).2 s)
      (h : work.place.Waiting work.fit work.seen ((work.table s).take (work.errands i).entity).1
        (work.errands i) r') :
      Progress s watch i r' s' { watch with takers := watch.takers ++ [i] }
  | enter {t : Ticket} (ho : watch.Owns (work.table s) i t)
      (ht : t.entity = (work.errands i).entity) (hh : (work.table s).holds t = true)
      (he : i ∉ watch.entered) (hs : s' = s)
      (h : ∀ page, work.fit t.entity page →
        work.place.Inside work.seen t ((work.errands i).outcome page) r' page) :
      Progress s watch i r' s' { watch with entered := watch.entered ++ [i] }
  | work {t : Ticket} {promise : β × P} (ho : watch.Owns (work.table s) i t)
      (hh : (work.table s).holds t = true) (he : i ∈ watch.entered)
      (hr : (i, promise.1) ∈ work.results watch.entered)
      (hp : promise.2 = work.pages watch.entered t.entity)
      (hs : work.place.OnlyOn t.entity s s')
      (h : work.place.Inside work.seen t promise r' (work.place.page s' t.entity)) :
      Progress s watch i r' s' watch
  | leave {t : Ticket} {b : β} (ho : watch.Owns (work.table s) i t)
      (hh : (work.table s).holds t = true) (he : i ∈ watch.entered)
      (hr : (i, b) ∈ work.results watch.entered)
      (hp : work.place.page s t.entity = work.pages watch.entered t.entity)
      (hs : s' = work.place.locks.set ((work.table s).giveBack t) s)
      (h : Workplace.Ends work.seen b r') :
      Progress s watch i r' s' watch

theorem table_set (table : LockTable) (s : σ) : work.table (work.place.locks.set table s) = table :=
  work.place.locks.get_set table s

variable {work} {s s' : σ} {x x' : Session σ} {watch : Watch} {i : Nat} {r r' : Interleaved σ α}

theorem table_of_only {entity : Int64} (hs : work.place.OnlyOn entity s s') :
    work.table s' = work.table s := hs.locks

theorem Call.progress (hsound : (work.table x.state).Sound) (honce : watch.takers.Nodup)
    (h : work.Call x.state watch i r) (ha : r.advance? x = some (r', x')) :
    work.Progress x.state watch i r' x'.state
      (watch.step (work.table x.state) (work.table x'.state) i) := by
  cases h with
  | outside hn he h =>
      have hm : watch.mayEnter (work.table x.state) i = false := Watch.mayEnter_of_notMem hn
      cases h with
      | refused => cases ha
      | quiet hc hr =>
          cases ha
          rw [hc x, Watch.step_eq_self rfl (.inr hm)]
          exact .quiet rfl (.outside hn he (hr x))
      | @take change rest hc hr =>
          cases ha
          have hs : (change x).state = work.place.locks.set
              ((work.table x.state).take (work.errands i).entity).2 x.state := hc x
          have hstep : watch.step (work.table x.state)
              ((work.table x.state).take (work.errands i).entity).2 i =
                { watch with takers := watch.takers ++ [i] } := by
            rw [Watch.step, if_pos (by rw [LockTable.nextSerial_take]; omega), if_neg]
            rw [hm]
            simp
          rw [hs, table_set, hstep]
          exact .take hn he rfl (hr x)
  | @waiting t ho ht he h =>
      -- Whether it comes through, on its first look or later, depends on its ticket alone.
      have henter (hh : (work.table x.state).holds t = true) :
          watch.step (work.table x.state) (work.table x.state) i =
            { watch with entered := watch.entered ++ [i] } := by
        rw [Watch.step, if_neg (Nat.lt_irrefl _), if_pos ⟨he, Watch.mayEnter_iff.2 ⟨t, ho, hh⟩⟩]
      have hstay (hh : (work.table x.state).holds t ≠ true) :
          watch.step (work.table x.state) (work.table x.state) i = watch := by
        refine Watch.step_eq_self rfl (.inr (Bool.not_eq_true _ ▸ fun hm => ?_))
        obtain ⟨u, hu, huh⟩ := Watch.mayEnter_iff.1 hm
        rw [ho.unique hsound honce hu] at hh
        exact hh huh
      cases h with
      | @asking rest hr =>
          cases ha
          change work.Progress x.state watch i (if (work.table x.state).holds t then rest else _)
            x.state (watch.step (work.table x.state) (work.table x.state) i)
          by_cases hh : (work.table x.state).holds t = true
          · rw [henter hh, if_pos hh]
            exact .enter ho ht hh he rfl hr
          · rw [hstay hh, if_neg hh]
            exact .quiet rfl (.waiting ho ht he (.halted hr))
      | @halted rest hr =>
          change (if (work.table x.state).holds t = true then some (rest, x) else none) = _ at ha
          split at ha
          · rename_i hh
            cases ha
            rw [henter hh]
            exact .enter ho ht hh he rfl hr
          · cases ha
  | @inside t promise ho hh he hr hp h =>
      -- `Inside` has the page as an index, so that it has to be a variable in its cases.
      generalize hpage : work.place.page x.state t.entity = page at h
      cases h with
      | work hc hi =>
          cases ha
          rw [table_of_only (hc x hpage), Watch.step_eq_self rfl (.inl he)]
          exact .work ho hh he hr hp (hc x hpage) (hi x hpage)
      | @leave change rest hc hi =>
          cases ha
          have hs : (change x).state =
              work.place.locks.set ((work.table x.state).giveBack t) x.state := hc x
          have hstep :
              watch.step (work.table x.state) ((work.table x.state).giveBack t) i = watch :=
            Watch.step_eq_self rfl (.inl he)
          rw [hs, table_set, hstep]
          exact .leave ho hh he hr (hpage.trans hp) rfl (hi x)
  | left ho he hr h =>
      cases h with
      | done => cases ha
      | quiet hc hi =>
          cases ha
          rw [hc x, Watch.step_eq_self rfl (.inl he)]
          exact .quiet rfl (.left ho he hr (hi x))

/-- A call that has ended has no ticket out, and its result is that of its errand. -/
theorem Call.ended {a : α} (h : work.Call s watch i (.done a)) :
    (∀ t, ¬watch.Owns (work.table s) i t) ∧
      ((i, work.seen a) ∈ work.results watch.entered ∨
        i ∉ watch.entered ∧ (work.errands i).Idle (work.seen a)) := by
  generalize hr : Routine.done a = r at h
  cases h with
  | outside hn he h =>
      refine ⟨fun t ho => hn ho.mem_takers, .inr ⟨he, ?_⟩⟩
      cases h with
      | refused ha =>
          cases hr
          exact ha
      | quiet | take => cases hr
  | waiting _ _ _ h => cases h <;> cases hr
  | @inside t _ _ _ _ _ _ h =>
      generalize work.place.page s t.entity = page at h
      cases h <;> cases hr
  | left ho _ hres h =>
      cases h with
      | done ha =>
          cases hr
          exact ⟨ho, .inl (ha ▸ hres)⟩
      | quiet => cases hr

/-- A call that cannot go on has ended or has a ticket out. -/
theorem Call.stuck (h : work.Call s watch i r) (hn : r.advance? x = none) :
    (∃ a, r = .done a) ∨ ∃ t, watch.Owns (work.table s) i t := by
  cases h with
  | outside _ _ h =>
      cases h with
      | refused => exact .inl ⟨_, rfl⟩
      | quiet | take => cases hn
  | waiting ho | inside ho => exact .inr ⟨_, ho⟩
  | left _ _ _ h =>
      cases h with
      | done => exact .inl ⟨_, rfl⟩
      | quiet => cases hn

theorem Call.advance?_isSome (hsound : (work.table x.state).Sound) (honce : watch.takers.Nodup)
    (h : work.Call x.state watch i r) {u : Ticket} (hu : watch.Owns (work.table x.state) i u)
    (hh : (work.table x.state).holds u = true) : (r.advance? x).isSome := by
  cases h with
  | outside hn => exact absurd hu.mem_takers hn
  | @waiting t ho _ _ h =>
      rw [hu.unique hsound honce ho] at hh
      cases h with
      | asking => rfl
      | @halted rest =>
          change (if (work.table x.state).holds t = true then some (rest, x) else none).isSome
          rw [if_pos hh]
          rfl
  | @inside t _ _ _ _ _ _ h =>
      generalize work.place.page x.state t.entity = page at h
      cases h <;> rfl
  | left ho => exact absurd hu (ho u)

/-! ## What the others see of it -/

/-- What the step of a call leaves as it was for another one. -/
structure Elsewhere (work : Undertaking σ P α β) (j : Nat) (s s' : σ) (watch watch' : Watch) :
    Prop where
  takers : j ∈ watch'.takers → j ∈ watch.takers
  owns_iff : ∀ t, watch'.Owns (work.table s') j t ↔ watch.Owns (work.table s) j t
  holds : ∀ t, watch.Owns (work.table s) j t → (work.table s).holds t = true →
    (work.table s').holds t = true
  entered_iff : j ∈ watch'.entered ↔ j ∈ watch.entered
  results : ∀ b, (j, b) ∈ work.results watch.entered → (j, b) ∈ work.results watch'.entered
  pages : ∀ t, watch.Owns (work.table s) j t → (work.table s).holds t = true →
    work.place.page s' t.entity = work.place.page s t.entity ∧
      work.pages watch'.entered t.entity = work.pages watch.entered t.entity

theorem Call.elsewhere {watch' : Watch} {j : Nat} (h : work.Call s watch j r)
    (he : work.Elsewhere j s s' watch watch') : work.Call s' watch' j r := by
  cases h with
  | outside hn hne h => exact .outside (mt he.takers hn) (mt he.entered_iff.1 hne) h
  | waiting ho ht hne h => exact .waiting ((he.owns_iff _).2 ho) ht (mt he.entered_iff.1 hne) h
  | @inside t promise ho hh hin hr hp h =>
      obtain ⟨hpage, hpages⟩ := he.pages t ho hh
      exact .inside ((he.owns_iff t).2 ho) (he.holds t ho hh) (he.entered_iff.2 hin)
        (he.results _ hr) (hp.trans hpages.symm) (hpage ▸ h)
  | left ho hin hr h =>
      exact .left (fun t => mt (he.owns_iff t).1 (ho t)) (he.entered_iff.2 hin) (he.results _ hr) h

namespace Underway

variable {routines : List (Interleaved σ α)} {t u : Ticket} {j : Nat}

theorem exists_call (h : work.Underway routines s watch) (hi : i ∈ watch.takers) :
    ∃ r, routines[i]? = some r ∧ work.Call s watch i r :=
  have hr := List.getElem?_eq_getElem (h.present i hi)
  ⟨_, hr, h.calls i _ hr⟩

theorem exists_owner (h : work.Underway routines s watch) (ht : t ∈ (work.table s).tickets) :
    ∃ i, watch.Owns (work.table s) i t := by
  have hlt : t.serial < watch.takers.length := h.issued ▸ h.sound.issued t ht
  exact ⟨_, ht, List.getElem?_eq_getElem hlt⟩

theorem holds_of_entered (h : work.Underway routines s watch)
    (ho : watch.Owns (work.table s) i t) (he : i ∈ watch.entered) :
    (work.table s).holds t = true := by
  obtain ⟨r, -, hc⟩ := h.exists_call ho.mem_takers
  cases hc with
  | outside _ hn | waiting _ _ hn => exact absurd he hn
  | inside hu hh => rwa [ho.unique h.sound h.once hu]
  | left hn => exact absurd ho (hn t)

theorem apart (h : work.Underway routines s watch) (hji : j ≠ i)
    (ho : watch.Owns (work.table s) i t) (hh : (work.table s).holds t = true)
    (hu : watch.Owns (work.table s) j u) (huh : (work.table s).holds u = true) :
    u.entity ≠ t.entity := by
  intro he
  have := h.sound.eq_of_holds ho.1 hu.1 he hh huh
  subst this
  exact hji (Option.some.inj (hu.2.symm.trans ho.2))

/-- Where a ticket holds with which nobody came through, nobody works. -/
theorem page_of_holds (h : work.Underway routines s watch)
    (ho : watch.Owns (work.table s) i t) (hh : (work.table s).holds t = true)
    (he : i ∉ watch.entered) :
    work.place.page s t.entity = work.pages watch.entered t.entity := by
  refine h.idle t.entity fun j u hu hue hj => ?_
  by_cases hji : j = i
  · exact he (hji ▸ hj)
  · exact h.apart hji ho hh hu (h.holds_of_entered hu hj) hue

/-! ## Tickets that are taken and given back -/

theorem owns_take_iff (h : work.Underway routines s watch) {entity : Int64} {k : Nat} {u : Ticket} :
    Watch.Owns { watch with takers := watch.takers ++ [i] } ((work.table s).take entity).2 k u ↔
      watch.Owns (work.table s) k u ∨ k = i ∧ u = ((work.table s).take entity).1 := by
  simp only [Watch.Owns, LockTable.tickets_take, List.mem_append, List.mem_singleton]
  have hold (hu : u ∈ (work.table s).tickets) :
      (watch.takers ++ [i])[u.serial]? = watch.takers[u.serial]? :=
    List.getElem?_append_left (h.issued ▸ h.sound.issued u hu)
  have hnew : (watch.takers ++ [i])[((work.table s).take entity).1.serial]? = some i := by
    rw [LockTable.serial_take, ← h.issued, List.getElem?_concat_length]
  constructor
  · rintro ⟨hu | rfl, hk⟩
    · exact .inl ⟨hu, hold hu ▸ hk⟩
    · exact .inr ⟨Option.some.inj (hk.symm.trans hnew), rfl⟩
  · rintro (⟨hu, hk⟩ | ⟨rfl, rfl⟩)
    · exact ⟨.inl hu, (hold hu).trans hk⟩
    · exact ⟨.inr rfl, hnew⟩

theorem owns_giveBack_iff (h : work.Underway routines s watch) (ho : watch.Owns (work.table s) i t)
    {k : Nat} {u : Ticket} :
    watch.Owns ((work.table s).giveBack t) k u ↔ watch.Owns (work.table s) k u ∧ u ≠ t := by
  simp only [Watch.Owns, LockTable.tickets_giveBack, List.mem_filter, bne_iff_ne]
  constructor
  · rintro ⟨⟨hu, hs⟩, hk⟩
    exact ⟨⟨hu, hk⟩, fun he => hs (congrArg Ticket.serial he)⟩
  · rintro ⟨⟨hu, hk⟩, hne⟩
    exact ⟨⟨hu, fun hs => hne (h.sound.eq_of_serial hu ho.1 hs)⟩, hk⟩

/-! ## The others at each kind of step -/

theorem elsewhere_take (h : work.Underway routines s watch) (hji : j ≠ i) (entity : Int64) :
    work.Elsewhere j s (work.place.locks.set ((work.table s).take entity).2 s) watch
      { watch with takers := watch.takers ++ [i] } := by
  have howns (u : Ticket) :
      Watch.Owns { watch with takers := watch.takers ++ [i] } ((work.table s).take entity).2 j u ↔
        watch.Owns (work.table s) j u := by
    rw [h.owns_take_iff]
    simp [hji]
  refine ⟨fun hj => ?_, fun u => ?_, fun u hu hh => ?_, .rfl, fun _ hr => hr,
    fun u _ _ => ⟨?_, rfl⟩⟩
  · simpa [hji] using hj
  · rw [table_set, howns]
  · rw [table_set]
    exact h.sound.holds_after hu.1 hh (.take entity) ((howns u).2 hu).1
  · rw [work.place.page_locks]

theorem elsewhere_enter (h : work.Underway routines s watch) (hji : j ≠ i)
    (ho : watch.Owns (work.table s) i t) (ht : t.entity = (work.errands i).entity)
    (hh : (work.table s).holds t = true) :
    work.Elsewhere j s s watch { watch with entered := watch.entered ++ [i] } where
  takers := id
  owns_iff _ := .rfl
  holds _ _ := id
  entered_iff := by simp [hji]
  results b hr := by
    rw [results_concat]
    exact List.mem_append_left _ hr
  pages u hu huh := by
    refine ⟨rfl, ?_⟩
    rw [pages_concat, if_neg (ht ▸ h.apart hji ho hh hu huh)]

theorem elsewhere_work (h : work.Underway routines s watch) (hji : j ≠ i)
    (ho : watch.Owns (work.table s) i t) (hh : (work.table s).holds t = true)
    (hs : work.place.OnlyOn t.entity s s') : work.Elsewhere j s s' watch watch where
  takers := id
  owns_iff u := by rw [table_of_only hs]
  holds u _ huh := by rwa [table_of_only hs]
  entered_iff := .rfl
  results _ := id
  pages u hu huh := ⟨hs.others _ (h.apart hji ho hh hu huh), rfl⟩

theorem elsewhere_leave (h : work.Underway routines s watch) (hji : j ≠ i)
    (ho : watch.Owns (work.table s) i t) :
    work.Elsewhere j s (work.place.locks.set ((work.table s).giveBack t) s) watch watch := by
  have howns (u : Ticket) :
      watch.Owns ((work.table s).giveBack t) j u ↔ watch.Owns (work.table s) j u := by
    rw [h.owns_giveBack_iff ho, and_iff_left_iff_imp]
    rintro hu rfl
    exact hji (Option.some.inj (hu.2.symm.trans ho.2))
  refine ⟨id, fun u => ?_, fun u hu hh => ?_, .rfl, fun _ => id, fun u _ _ => ⟨?_, rfl⟩⟩
  · rw [table_set, howns]
  · rw [table_set]
    exact h.sound.holds_after hu.1 hh (.giveBack t) ((howns u).2 hu).1
  · rw [work.place.page_locks]

/-! ## One step of the pool -/

theorem of_step (h : work.Underway routines s watch) {watch' : Watch}
    (ground : work.place.Sound s') (sound : (work.table s').Sound)
    (issued : watch'.takers.length = (work.table s').nextSerial)
    (once : watch'.takers.Nodup) (present : ∀ k ∈ watch'.takers, k < routines.length)
    (call : work.Call s' watch' i r')
    (elsewhere : ∀ j, j ≠ i → work.Elsewhere j s s' watch watch')
    (idle : ∀ entity, (∀ k t, watch'.Owns (work.table s') k t → t.entity = entity →
      k ∉ watch'.entered) → work.place.page s' entity = work.pages watch'.entered entity) :
    work.Underway (routines.set i r') s' watch' where
  ground := ground
  sound := sound
  issued := issued
  once := once
  present k hk := by
    rw [List.length_set]
    exact present k hk
  calls j r hj := by
    by_cases hji : j = i
    · subst hji
      rw [List.getElem?_set_self'] at hj
      obtain ⟨_, -, rfl⟩ := Option.map_eq_some_iff.1 hj
      exact call
    · rw [List.getElem?_set_ne (Ne.symm hji)] at hj
      exact (h.calls j r hj).elsewhere (elsewhere j hji)
  idle := idle

theorem of_take (h : work.Underway routines s watch) (hi : i < routines.length)
    (hn : i ∉ watch.takers) (he : i ∉ watch.entered)
    (hw : work.place.Waiting work.fit work.seen ((work.table s).take (work.errands i).entity).1
      (work.errands i) r') :
    work.Underway (routines.set i r')
      (work.place.locks.set ((work.table s).take (work.errands i).entity).2 s)
      { watch with takers := watch.takers ++ [i] } := by
  refine h.of_step (work.place.sound_locks _ s h.ground) ?_ ?_
    (List.concat_eq_append ▸ h.once.concat hn) (fun k hk => ?_) (.waiting ?_ rfl he hw)
    (fun j hji => h.elsewhere_take hji _) fun entity hidle => ?_
  · rw [table_set]
    exact h.sound.take _
  · rw [table_set, LockTable.nextSerial_take, ← h.issued, List.length_append]
    rfl
  · rcases List.mem_append.1 hk with hk | hk
    · exact h.present k hk
    · rwa [List.mem_singleton.1 hk]
  · rw [table_set]
    exact h.owns_take_iff.2 (.inr ⟨rfl, rfl⟩)
  · rw [table_set] at hidle
    rw [work.place.page_locks]
    exact h.idle entity fun k u hu => hidle k u (h.owns_take_iff.2 (.inl hu))

theorem of_enter (h : work.Underway routines s watch) (ho : watch.Owns (work.table s) i t)
    (ht : t.entity = (work.errands i).entity) (hh : (work.table s).holds t = true)
    (he : i ∉ watch.entered)
    (hw : ∀ page, work.fit t.entity page →
      work.place.Inside work.seen t ((work.errands i).outcome page) r' page) :
    work.Underway (routines.set i r') s { watch with entered := watch.entered ++ [i] } := by
  have hres : (i, ((work.errands i).outcome (work.pages watch.entered t.entity)).1) ∈
      work.results (watch.entered ++ [i]) := by
    rw [results_concat, ht]
    exact List.mem_append_right _ List.mem_cons_self
  refine h.of_step h.ground h.sound h.issued h.once h.present
    (.inside ho hh (List.mem_append_right _ List.mem_cons_self) hres ?_ ?_)
    (fun j hji => h.elsewhere_enter hji ho ht hh) fun entity hidle => ?_
  · rw [pages_concat, if_pos ht, ht]
  · rw [h.page_of_holds ho hh he]
    exact hw _ (work.fit_pages watch.entered t.entity)
  · -- Its own page is not idle from now on, and the others are as they were.
    have hne : entity ≠ (work.errands i).entity := fun hent =>
      hidle i t ho (ht.trans hent.symm) (List.mem_append_right _ List.mem_cons_self)
    rw [pages_concat, if_neg hne]
    exact h.idle entity fun k u hu hue hk => hidle k u hu hue (List.mem_append_left _ hk)

theorem of_leave (h : work.Underway routines s watch) {b : β} (ho : watch.Owns (work.table s) i t)
    (he : i ∈ watch.entered) (hr : (i, b) ∈ work.results watch.entered)
    (hp : work.place.page s t.entity = work.pages watch.entered t.entity)
    (hw : Workplace.Ends work.seen b r') :
    work.Underway (routines.set i r') (work.place.locks.set ((work.table s).giveBack t) s)
      watch := by
  refine h.of_step (work.place.sound_locks _ s h.ground) ?_ ?_ h.once h.present
    (.left (fun u hu => ?_) he hr hw) (fun j hji => h.elsewhere_leave hji ho) fun entity hidle => ?_
  · rw [table_set]
    exact h.sound.giveBack t
  · rw [table_set]
    exact h.issued
  · rw [table_set] at hu
    obtain ⟨hu, hne⟩ := (h.owns_giveBack_iff ho).1 hu
    exact hne (hu.unique h.sound h.once ho)
  · -- Its own page becomes idle, as it was promised when it came through.
    rw [table_set] at hidle
    rw [work.place.page_locks]
    by_cases hent : entity = t.entity
    · rw [hent, hp]
    · refine h.idle entity fun k u hu hue =>
        hidle k u ((h.owns_giveBack_iff ho).2 ⟨hu, fun hut => ?_⟩) hue
      exact hent (hue ▸ hut ▸ rfl)

theorem progress (h : work.Underway routines s watch) {watch' : Watch}
    (hi : i < routines.length) (hp : work.Progress s watch i r' s' watch') :
    work.Underway (routines.set i r') s' watch' := by
  cases hp with
  | quiet hs hc =>
      subst hs
      exact h.of_step h.ground h.sound h.issued h.once h.present hc
        (fun j _ => ⟨id, fun _ => .rfl, fun _ _ => id, .rfl, fun _ => id, fun _ _ _ => ⟨rfl, rfl⟩⟩)
        h.idle
  | take hn he hs hw =>
      subst hs
      exact h.of_take hi hn he hw
  | enter ho ht hh he hs hw =>
      subst hs
      exact h.of_enter ho ht hh he hw
  | @work t promise ho hh he hr hp hs hw =>
      have ht := table_of_only hs
      refine h.of_step (hs.sound h.ground) (ht ▸ h.sound) (ht ▸ h.issued) h.once h.present
        (.inside (ht ▸ ho) (ht ▸ hh) he hr hp hw) (fun j hji => h.elsewhere_work hji ho hh hs)
        fun entity hidle => ?_
      rw [ht] at hidle
      rw [hs.others entity fun hent => hidle i t ho hent.symm he]
      exact h.idle entity hidle
  | leave ho hh he hr hp hs hw =>
      subst hs
      exact h.of_leave ho he hr hp hw

/-! ## A schedule -/

variable {pool : Pool (Session σ) α}

theorem start (hl : work.table s = {}) (hg : work.place.Sound s)
    (hp : work.place.page s = work.start)
    (hc : ∀ i r, routines[i]? = some r →
      work.place.Outside work.fit work.seen (work.errands i) r) : work.Underway routines s {} where
  ground := hg
  sound := hl ▸ LockTable.sound_empty
  issued := by rw [hl]; rfl
  once := .nil
  present := by simp
  calls i r hr := .outside (by simp) (by simp) (hc i r hr)
  idle entity _ := congrFun hp entity

theorem advance (h : work.Underway pool.routines pool.state.state watch) {next : Pool (Session σ) α}
    (hn : pool.advance? i = some next) :
    work.Underway next.routines next.state.state
      (watch.step (work.table pool.state.state) (work.table next.state.state) i) := by
  obtain ⟨r, r', s', hr, ha, rfl⟩ := Pool.of_advance? hn
  exact h.progress (List.getElem?_eq_some_iff.1 hr).1 ((h.calls i r hr).progress h.sound h.once ha)

theorem watched (h : work.Underway pool.routines pool.state.state watch) {schedule : List Nat}
    {pool' : Pool (Session σ) α} {watch' : Watch}
    (hw : pool.watched? work.place.locks watch schedule = some (pool', watch')) :
    work.Underway pool'.routines pool'.state.state watch' :=
  Pool.of_watched? (P := fun pool watch => work.Underway pool.routines pool.state.state watch)
    (fun _ _ _ _ hu hn => hu.advance hn) h hw

/-- As long as not all calls have ended, one of them can go on. -/
theorem goesOn (h : work.Underway pool.routines pool.state.state watch) :
    (∃ results, pool.results? = some results) ∨ ∃ i, (pool.advance? i).isSome := by
  by_cases hall : ∀ r ∈ pool.routines, ∃ a, r = .done a
  · exact .inl (Pool.exists_results? hall)
  simp only [not_forall] at hall
  obtain ⟨r, hr, hnd⟩ := hall
  obtain ⟨i, hi⟩ := List.getElem?_of_mem hr
  cases ha : r.advance? pool.state with
  | some next => exact .inr ⟨i, Pool.advance?_isSome hi (ha ▸ rfl)⟩
  | none =>
      -- It waits for its ticket, so that somebody else holds one of the entity.
      obtain hd | ⟨t, ho⟩ := (h.calls i r hi).stuck ha
      · exact absurd hd hnd
      obtain ⟨u, hu, -, hh, -⟩ := h.sound.exists_holds ho.1
      obtain ⟨j, hj⟩ := h.exists_owner hu
      obtain ⟨r', hi', hc⟩ := h.exists_call hj.mem_takers
      exact .inr ⟨j, Pool.advance?_isSome hi' (hc.advance?_isSome h.sound h.once hj hh)⟩

/-- Calls that are going on can be brought to their end. -/
theorem exists_end (h : work.Underway pool.routines pool.state.state watch) :
    ∃ schedule last results, pool.follow? schedule = some last ∧ last.results? = some results :=
  Pool.exists_end (P := fun pool => ∃ watch, work.Underway pool.routines pool.state.state watch)
    (fun _ _ _ ⟨_, hu⟩ hn => ⟨_, hu.advance hn⟩) (fun _ ⟨_, hu⟩ => hu.goesOn) ⟨watch, h⟩

/-! ## When all calls have ended -/

section

variable {results : List α} (h : work.Underway pool.routines pool.state.state watch)
  (hr : pool.results? = some results)

include h hr

theorem ended {a : α} (ha : results[i]? = some a) :
    (∀ t, ¬watch.Owns (work.table pool.state.state) i t) ∧
      ((i, work.seen a) ∈ work.results watch.entered ∨
        i ∉ watch.entered ∧ (work.errands i).Idle (work.seen a)) := by
  refine (h.calls i _ ?_).ended
  rw [Pool.routines_of_results? hr, List.getElem?_map, ha]
  rfl

theorem pages_of_ended : work.place.page pool.state.state = work.pages watch.entered := by
  funext entity
  refine h.idle entity fun i t ho => ?_
  have hlt := h.present i ho.mem_takers
  rw [Pool.routines_of_results? hr, List.length_map] at hlt
  exact absurd ho ((h.ended hr (List.getElem?_eq_getElem hlt)).1 t)

theorem exists_outcome {a : α} (ha : results[i]? = some a) :
    ∃ page, ((work.errands i).outcome page).1 = work.seen a := by
  rcases (h.ended hr ha).2 with hres | ⟨-, hidle⟩
  · exact Errand.exists_outcome hres
  · exact ⟨work.start 0, congrArg Prod.fst (hidle _)⟩

/-- What calls side by side have come to in the end is what they come to one after the other, in any
order in which those that came through come as they came through. -/
theorem one_by_one {order : List Nat} (hs : watch.entered.Sublist order) (hn : order.Nodup)
    (hall : ∀ i ∈ order, i < results.length) :
    work.place.page pool.state.state = work.pages order ∧
      (order.filterMap (results[·]?)).map work.seen = (work.results order).map Prod.snd := by
  have hended (i : Nat) (hi : i ∈ order) := h.ended hr (List.getElem?_eq_getElem (hall i hi))
  have hidle : ∀ i ∈ order, i ∉ watch.entered → ∃ b, (work.errands i).Idle b := by
    intro i hi he
    rcases (hended i hi).2 with hres | ⟨-, hidle⟩
    · exact absurd (Errand.mem_of_result hres) he
    · exact ⟨_, hidle⟩
  obtain ⟨hpages, hresults⟩ := Errand.of_sublist hs hn hidle work.start
  refine ⟨(h.pages_of_ended hr).trans hpages.symm, Errand.map_seen_of_results fun i b hb => ?_⟩
  have hi : i ∈ order := Errand.mem_of_result hb
  refine ⟨_, List.getElem?_eq_getElem (hall i hi), ?_⟩
  rcases hresults i b hb with hb | ⟨he, hb⟩ <;> rcases (hended i hi).2 with hres | ⟨hne, hidle⟩
  · exact Errand.result_unique (hs.nodup hn) hres hb
  · exact absurd (Errand.mem_of_result hb) hne
  · exact absurd (Errand.mem_of_result hres) he
  · exact congrArg Prod.fst ((hidle (work.start 0)).symm.trans (hb (work.start 0)))

end

end Underway

end Undertaking

end EventSourcing
