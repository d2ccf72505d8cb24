import EventSourcing.LockTable
import EventSourcing.Proofs.Tables

/-!
# Working on one page

Interleaved programs share a page for each entity. A program that is alone on the page of an entity
finds the page at each step as it left it, whatever goes on on other pages in the meantime, so that
its result and what it leaves on the page follow from what the page was.
-/

namespace EventSourcing

/-- A state with a page for each entity, and with a table of locks that is on no page. What is sound
about it is left so by whoever works on it. -/
structure Workplace (σ P : Type) where
  locks : Cell σ LockTable
  page : σ → Int64 → P
  Sound : σ → Prop
  page_locks : ∀ table s, page (locks.set table s) = page s
  sound_locks : ∀ table s, Sound s → Sound (locks.set table s)

namespace Workplace

variable {σ P α β : Type} {place : Workplace σ P} {entity : Int64}

/-- A state is as sound as another one and differs from it on the page of an entity at most. -/
structure OnlyOn (place : Workplace σ P) (entity : Int64) (s s' : σ) : Prop where
  locks : place.locks.get s' = place.locks.get s
  others : ∀ other, other ≠ entity → place.page s' other = place.page s other
  sound : place.Sound s → place.Sound s'

theorem OnlyOn.refl (s : σ) : place.OnlyOn entity s s := ⟨rfl, fun _ _ => rfl, id⟩

/-- Alone on the page of an entity, a program does not halt, changes no other page, and ends with a
result and a page as told. -/
def Works (place : Workplace σ P) (entity : Int64) :
    Interleaved σ α → P → (α → P → Prop) → Prop
  | .done a, page, ends => ends a page
  | .act change rest, page, ends => ∀ s, place.page s.state entity = page →
      place.OnlyOn entity s.state (change s).state ∧
        Works place entity (rest s) (place.page (change s).state entity) ends
  | .stop _ _, _, _ => False

/-- A table of snapshots in which the entry of an entity is on the page of the entity, and which is
to be kept tidy. -/
structure Shelf (place : Workplace σ P) (S : Type) where
  table : Cell σ (SnapshotTable S)
  entry : P → Option S
  put : Option S → P → P
  entry_page : ∀ s entity, entry (place.page s entity) = (table.get s).find entity
  locks_set : ∀ t s, place.locks.get (table.set t s) = place.locks.get s
  page_set : ∀ t s entity, place.page (table.set t s) entity =
    put (t.find entity) (place.page s entity)
  sound_set : ∀ t s, ((table.get s).Tidy → t.Tidy) → place.Sound s → place.Sound (table.set t s)
  put_entry : ∀ page, put (entry page) page = page

namespace Works

variable {r : Interleaved σ α} {page : P} {ends : β → P → Prop}

theorem mono {r : Interleaved σ β} {ends' : β → P → Prop} (h : place.Works entity r page ends)
    (hends : ∀ b page', ends b page' → ends' b page') : place.Works entity r page ends' := by
  induction r generalizing page with
  | done b => exact hends b page h
  | act change rest ih => exact fun s hs => ⟨(h s hs).1, ih s (h s hs).2⟩
  | stop halt rest => exact h

theorem bind {f : α → Interleaved σ β}
    (h : place.Works entity r page fun a page' => place.Works entity (f a) page' ends) :
    place.Works entity (r >>= f) page ends := by
  change place.Works entity (r.bind f) page ends
  induction r generalizing page with
  | done a => exact h
  | act change rest ih =>
      intro s hs
      obtain ⟨honly, hrest⟩ := h s hs
      exact ⟨honly, ih s hrest⟩
  | stop halt rest => exact h

theorem step {f : Session σ → β × Session σ}
    (h : ∀ s, place.page s.state entity = page → place.OnlyOn entity s.state (f s).2.state ∧
      ends (f s).1 (place.page (f s).2.state entity)) :
    place.Works entity (Host.step f) page ends := h

theorem emit {entry : Trace.Entry} {ends : Unit → P → Prop} (h : ends () page) :
    place.Works entity (Host.emit entry) page ends :=
  step fun s hs => ⟨.refl s.state, hs ▸ h⟩

theorem freshId {ends : Uuid → P → Prop} (h : ∀ id, ends id page) :
    place.Works entity Host.freshId page ends :=
  step fun s hs => ⟨.refl s.state, hs ▸ h _⟩

theorem onState {f : σ → β × σ}
    (h : ∀ s, place.page s entity = page → place.OnlyOn entity s (f s).2 ∧
      ends (f s).1 (place.page (f s).2 entity)) :
    place.Works entity (Host.onState f) page ends :=
  step fun s hs => h s.state hs

theorem look {τ : Type} {cell : Cell σ τ} {f : τ → β}
    (h : ∀ s, place.page s entity = page → ends (f (cell.get s)) page) :
    place.Works entity (cell.look f) page ends :=
  onState fun s hs => ⟨.refl s, hs ▸ h s hs⟩

theorem visit {τ : Type} {cell : Cell σ τ} {f : τ → β × τ}
    (h : ∀ s, place.page s entity = page →
      place.OnlyOn entity s (cell.set (f (cell.get s)).2 s) ∧
        ends (f (cell.get s)).1 (place.page (cell.set (f (cell.get s)).2 s) entity)) :
    place.Works entity (cell.visit f) page ends := onState h

theorem attempt {τ ε : Type} {cell : Cell σ τ} {f : τ → Except ε (β × τ)}
    {ends : Except ε β → P → Prop}
    (h : ∀ s, place.page s entity = page → ∃ b v, f (cell.get s) = .ok (b, v) ∧
      place.OnlyOn entity s (cell.set v s) ∧ ends (.ok b) (place.page (cell.set v s) entity)) :
    place.Works entity (cell.attempt f) page ends := by
  refine onState fun s hs => ?_
  obtain ⟨b, v, hf, honly, hends⟩ := h s hs
  rw [hf]
  exact ⟨honly, hends⟩

theorem together {p : Interleaved σ β} {ends : List β → P → Prop}
    (h : place.Works entity p page fun b page' => ends [b] page') :
    place.Works entity (Host.together [p]) page ends := by
  have hboth : place.Works entity (Routine.both p (.done [])) page
      fun results page' => ends (results.1 :: results.2) page' := by
    induction p generalizing page with
    | done b => exact h
    | act change rest ih => exact fun s hs => ⟨(h s hs).1, ih s (h s hs).2⟩
    | stop halt rest => exact h
  exact bind (r := Routine.both p (.done [])) hboth

/-! ## Programs that may fail -/

variable {p : Fallible (Interleaved σ) α} {f : α → Fallible (Interleaved σ) β}
  {ends : Except DomainError β → P → Prop}

theorem andThen
    (h : place.Works entity p.run page fun result page' =>
      match result with
      | .ok a => place.Works entity (f a).run page' ends
      | .error failure => ends (.error failure) page') :
    place.Works entity (p >>= f).run page ends := by
  refine bind (r := p.run) (f := ExceptT.bindCont f) ?_
  refine h.mono fun result page' hr => ?_
  cases result with
  | ok a => exact hr
  | error failure => exact hr

theorem settle {result : Except DomainError β} (h : ends result page) :
    place.Works entity (Host.settle result : Fallible (Interleaved σ) β).run page ends := h

theorem sure {q : Interleaved σ β} (h : place.Works entity q page fun b page' => ends (.ok b) page') :
    place.Works entity (Host.sure q : Fallible (Interleaved σ) β).run page ends :=
  bind (r := q) h

theorem note {entry : Trace.Entry} {ends : Except DomainError Unit → P → Prop}
    (h : ends (.ok ()) page) :
    place.Works entity (Host.note entry : Fallible (Interleaved σ) Unit).run page ends :=
  sure (emit h)

theorem tried {p : Fallible (Interleaved σ) β}
    {ends : Except DomainError (Except DomainError β) → P → Prop}
    (h : place.Works entity p.run page fun result page' => ends (.ok result) page') :
    place.Works entity (Host.sure (Host.attempt p)).run page ends := sure h

theorem during {span : Trace.Span} {p : Fallible (Interleaved σ) β}
    (h : place.Works entity p.run page ends) :
    place.Works entity (Host.during span p).run page ends :=
  bind (r := Host.emit (.opened span)) <| emit <| bind (r := p.run) <|
    h.mono fun _ _ hends => bind (r := Host.emit (.closed span.name)) <| emit hends

/-! ## Tables of snapshots -/

section

variable {S : Type} [Snapshot S] (shelf : place.Shelf S)

theorem find {ends : Except DomainError (Option S) → P → Prop}
    (h : ends (.ok (shelf.entry page)) page) :
    place.Works entity ((SnapshotTable.store shelf.table).find entity).run page ends :=
  sure <| look fun s hs => by
    subst hs
    rwa [shelf.entry_page] at h

theorem persist {snapshot : S} (hid : Snapshot.id? snapshot = some entity)
    {ends : Except DomainError S → P → Prop}
    (h : ends (.ok snapshot) (shelf.put (some snapshot) page)) :
    place.Works entity ((SnapshotTable.store shelf.table).persist snapshot).run page ends := by
  refine sure <| visit fun s hs => ?_
  obtain ⟨table', hp⟩ := (shelf.table.get s).persist_of_id? hid
  have hfind := SnapshotTable.find_of_persist hp
  simp only [hid, Option.some.injEq] at hfind
  have honly : place.OnlyOn entity s (shelf.table.set table' s) := by
    refine ⟨shelf.locks_set table' s, fun other hne => ?_,
      shelf.sound_set table' s fun ht => ht.persist hid hp⟩
    rw [shelf.page_set, hfind, if_neg (Ne.symm hne), ← shelf.entry_page, shelf.put_entry]
  rw [hp]
  refine ⟨honly, ?_⟩
  rw [shelf.page_set, hfind, if_pos rfl, hs]
  exact h

end

/-! ## Fan-outs -/

theorem deliver {P' : Type} {traffic : Traffic} {envelope : Envelope P'}
    {subscriber : Subscriber (Interleaved σ) P'} {ends : Except DomainError Unit → P → Prop}
    (h : place.Works entity (subscriber.handle envelope).run page ends) :
    place.Works entity (Dispatcher.deliver traffic envelope subscriber) page ends := by
  refine bind (r := (subscriber.handle envelope).run) (h.mono fun result page' hends => ?_)
  cases result with
  | ok => exact hends
  | error failure => exact bind (emit hends)

theorem dispatch {P' : Type} [PayloadKind P'] {traffic : Traffic} {envelope : Envelope P'}
    {subscriber : Subscriber (Interleaved σ) P'} {ends : Except DomainError Unit → P → Prop}
    (h : place.Works entity (subscriber.handle envelope).run page ends) :
    place.Works entity (Dispatcher.dispatch ⟨traffic, [subscriber]⟩ envelope).run page ends := by
  refine andThen (during (sure (together (deliver (h.mono fun result page' hends => ?_)))))
  refine settle ?_
  rwa [Dispatcher.settled_cons (by simp)]

end Works

end Workplace

end EventSourcing
