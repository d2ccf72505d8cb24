import EventSourcing.Account.Summary
import EventSourcing.Proofs.Atomicity
import EventSourcing.Proofs.Projection
import Mathlib.Data.List.Induction

/-!
# Read models as folds

A view is made by registrations, of which the last one for the type of an event counts. Whatever events
it is given and however many of them fail, the model of each entity is what the events of this entity
alone, in their order, make of the model that was there before.
-/

namespace EventSourcing

open EventSourcing.Sequential

/-- What a view is to do with the events of a variant: make the model anew, or change the one that is
stored. -/
inductive Registration (E M : Type) where
  | create {V : Type} (variant : Variant E V) (make : Envelope E → V → Except DomainError M)
  | update {V : Type} (variant : Variant E V) (change : M → Envelope E → V → Except DomainError M)

namespace Registration

variable {E M : Type}

def typeName : Registration E M → String
  | .create variant _ => variant.typeName
  | .update variant _ => variant.typeName

/-! ## The last registration for a type -/

def last? (registrations : List (Registration E M)) (type : String) : Option (Registration E M) :=
  registrations.reverse.find? fun registration => registration.typeName == type

theorem last?_eq_none {registrations : List (Registration E M)} {type : String}
    (h : ∀ registration ∈ registrations, registration.typeName ≠ type) :
    last? registrations type = none := by
  simpa [last?] using h

theorem last?_eq_some {before after : List (Registration E M)} {registration : Registration E M}
    {type : String} (ht : registration.typeName = type)
    (ha : ∀ later ∈ after, later.typeName ≠ type) :
    last? (before ++ registration :: after) type = some registration := by
  have hnone : after.reverse.find? (fun later => later.typeName == type) = none := by simpa using ha
  simp [last?, List.find?_append, hnone, ht]

theorem mem_of_last? {registrations : List (Registration E M)} {registration : Registration E M}
    {type : String} (h : last? registrations type = some registration) :
    registration ∈ registrations :=
  List.mem_reverse.1 (List.mem_of_find?_eq_some h)

/-! ## What a registration answers -/

variable [Snapshot M]

def transform : Registration E M → Transform E M
  | .create variant make => View.creating variant make
  | .update variant change => View.updating variant change

/-- What a registration answers to an event, given the model that is stored. A new model is made
whatever is stored; that there is no model to be changed is noticed before the payload is looked at. -/
inductive Answers : Registration E M → Option M → Envelope E → Except DomainError M → Prop
  | created {V : Type} {variant : Variant E V} {make : Envelope E → V → Except DomainError M}
      {current : Option M} {event : Envelope E} {payload : V}
      (hp : event.payloadAs variant = some payload) :
      Answers (.create variant make) current event (make event payload)
  | notCreated {V : Type} {variant : Variant E V} {make : Envelope E → V → Except DomainError M}
      {current : Option M} {event : Envelope E} (hp : event.payloadAs variant = none) :
      Answers (.create variant make) current event
        (.error (.validation s!"event {event.name} does not carry a {variant.typeName} payload"))
  | unmodelled {V : Type} {variant : Variant E V}
      {change : M → Envelope E → V → Except DomainError M} {event : Envelope E} :
      Answers (.update variant change) none event
        (.error (.notFound (Snapshot.kind M) event.entity.id))
  | updated {V : Type} {variant : Variant E V}
      {change : M → Envelope E → V → Except DomainError M} {model : M} {event : Envelope E}
      {payload : V} (hp : event.payloadAs variant = some payload) :
      Answers (.update variant change) (some model) event (change model event payload)
  | notUpdated {V : Type} {variant : Variant E V}
      {change : M → Envelope E → V → Except DomainError M} {model : M} {event : Envelope E}
      (hp : event.payloadAs variant = none) :
      Answers (.update variant change) (some model) event
        (.error (.validation s!"event {event.name} does not carry a {variant.typeName} payload"))

theorem answers_transform (registration : Registration E M) (current : Option M)
    (event : Envelope E) :
    registration.Answers current event (registration.transform current event) := by
  cases registration with
  | create variant make =>
      have hanswer : transform (.create variant make) current event =
          View.payloadOf variant event >>= make event := rfl
      rw [hanswer, View.payloadOf]
      cases hp : event.payloadAs variant with
      | none => exact .notCreated hp
      | some payload => exact .created hp
  | update variant change =>
      cases current with
      | none => exact .unmodelled
      | some model =>
          have hanswer : transform (.update variant change) (some model) event =
              View.payloadOf variant event >>= change model event := rfl
          rw [hanswer, View.payloadOf]
          cases hp : event.payloadAs variant with
          | none => exact .notUpdated hp
          | some payload => exact .updated hp

/-- A registration gives a model no other id than that of the entity of the event, if the model that
was stored has none but that. -/
def Owned : Registration E M → Prop
  | .create _ make => ∀ event payload model id, make event payload = .ok model →
    Snapshot.id? model = some id → id = event.entity.id
  | .update _ change => ∀ stored event payload model id,
    Snapshot.id? stored = some event.entity.id → change stored event payload = .ok model →
    Snapshot.id? model = some id → id = event.entity.id

theorem Owned.id?_stamped {registration : Registration E M} (h : registration.Owned)
    {current : Option M} {event : Envelope E} {model : M}
    (hc : ∀ stored, current = some stored → Snapshot.id? stored = some event.entity.id)
    (ht : registration.transform current event = .ok model) :
    Snapshot.id? (Snapshot.stamped event.entity.id event.sequenceNo model) =
      some event.entity.id := by
  have hid (id : Int64) (hm : Snapshot.id? model = some id) : id = event.entity.id := by
    have ha := registration.answers_transform current event
    generalize hanswer : registration.transform current event = answer at ha
    rw [hanswer] at ht
    cases ha with
    | created => exact h event _ model id ht hm
    | updated => exact h _ event _ model id (hc _ rfl) ht hm
    | notCreated | unmodelled | notUpdated => cases ht
  rw [Snapshot.id?_stamped]
  cases hm : Snapshot.id? model with
  | none => rfl
  | some id => rw [hid id hm, Option.getD_some]

/-- What an event makes of the model of its entity: what fails changes nothing. -/
def modelAfter [PayloadKind E] (registrations : List (Registration E M)) (current : Option M)
    (event : Envelope E) : Option M :=
  match last? registrations event.payloadType with
  | none => current
  | some registration =>
    match registration.transform current event with
    | .ok model => some (Snapshot.stamped event.entity.id event.sequenceNo model)
    | .error _ => current

end Registration

namespace View

section

variable {m : Type → Type} {E M : Type} [Snapshot M]

def register (view : View m E M) : Registration E M → View m E M
  | .create variant make => view.onCreate variant make
  | .update variant change => view.onUpdate variant change

/-- The view that is made by some registrations, one after the other. -/
def registered (name : String) (models : SnapshotStore m M)
    (registrations : List (Registration E M)) : View m E M :=
  registrations.foldl register { name, models }

variable (name : String) (models : SnapshotStore m M) (registrations : List (Registration E M))

theorem registered_concat (registration : Registration E M) :
    registered name models (registrations ++ [registration]) =
      (registered name models registrations).register registration := by
  rw [registered, List.foldl_append]
  rfl

theorem models_registered : (registered name models registrations).models = models := by
  induction registrations using List.reverseRecOn with
  | nil => rfl
  | append_singleton registrations registration ih =>
      rw [registered_concat]
      cases registration <;> exact ih

theorem transforms_register (view : View m E M) (registration : Registration E M) (type : String) :
    (view.register registration).transforms[type]? =
      if registration.typeName = type then some registration.transform
      else view.transforms[type]? := by
  cases registration with
  | create variant make => exact transforms_on view variant (creating variant make) type
  | update variant change => exact transforms_on view variant (updating variant change) type

/-- Of several registrations for a type the last one counts. -/
theorem transforms_registered (type : String) :
    (registered name models registrations).transforms[type]? =
      (Registration.last? registrations type).map Registration.transform := by
  induction registrations using List.reverseRecOn with
  | nil => exact Std.ExtTreeMap.getElem?_empty
  | append_singleton registrations registration ih =>
      rw [registered_concat, transforms_register, ih]
      by_cases ht : registration.typeName = type
      · simp [Registration.last?, ht]
      · simp [Registration.last?, ht]

end

variable {σ E M : Type} [PayloadKind E] [Snapshot M] {view : View (Sequential σ) E M}
  {table : Cell σ (SnapshotTable M)} {registrations : List (Registration E M)}

/-! ## One event -/

/-- A view keeps its models in a table, and its transforms are those of some registrations. -/
structure MadeBy (view : View (Sequential σ) E M) (table : Cell σ (SnapshotTable M))
    (registrations : List (Registration E M)) : Prop where
  models : view.models = SnapshotTable.store table
  transforms : ∀ type, view.transforms[type]? =
    (Registration.last? registrations type).map Registration.transform
  owned : ∀ registration ∈ registrations, registration.Owned

variable {event : Envelope E} {state state' : σ} {result : Except DomainError Unit}

theorem Handling.of_unregistered (hv : view.MadeBy table registrations)
    (hn : ∀ registration ∈ registrations, registration.typeName ≠ event.payloadType)
    (h : Handling view table event state result state') : result = .ok () ∧ state' = state := by
  cases h with
  | ignored => exact ⟨rfl, rfl⟩
  | failed ht | updated ht =>
      rw [hv.transforms, Registration.last?_eq_none hn] at ht
      cases ht

/-- How a view is done with an event that a registration gave an answer to: a failure changes nothing,
and a model is stored for the entity, with its id and the number of the event. -/
inductive Settled (table : Cell σ (SnapshotTable M)) (event : Envelope E) (state : σ) :
    Except DomainError M → Except DomainError Unit → σ → Prop
  | failed (failure : DomainError) : Settled table event state (.error failure) (.error failure) state
  | stored {model stored : M} {table' : SnapshotTable M}
      (hs : stored = Snapshot.stamped event.entity.id event.sequenceNo model)
      (hid : Snapshot.id? stored = some event.entity.id)
      (hv : Snapshot.version stored = event.sequenceNo)
      (hf : ∀ id, table'.find id =
        if id = event.entity.id then some stored else (table.get state).find id) :
      Settled table event state (.ok model) (.ok ()) (table.set table' state)

theorem Handling.settled (hv : view.MadeBy table registrations)
    (hreach : (table.get state).Reachable) {registration : Registration E M}
    (hl : Registration.last? registrations event.payloadType = some registration)
    (h : Handling view table event state result state') :
    Settled table event state
      (registration.transform ((table.get state).find event.entity.id) event) result state' := by
  cases h with
  | ignored ht =>
      rw [hv.transforms, hl] at ht
      cases ht
  | failed ht hf =>
      rw [hv.transforms, hl, Option.map_some, Option.some_inj] at ht
      rw [ht, hf]
      exact .failed _
  | updated ht hf hp =>
      rw [hv.transforms, hl, Option.map_some, Option.some_inj] at ht
      have howned := hv.owned registration (Registration.mem_of_last? hl)
      have hid := howned.id?_stamped (fun _ hc => hreach.id?_of_find hc) (ht ▸ hf)
      rw [ht, hf]
      refine .stored rfl hid (Snapshot.version_withVersion _ _) fun id => ?_
      rw [SnapshotTable.find_of_persist hp, hid]
      simp [eq_comm]

theorem Handling.reachable (hreach : (table.get state).Reachable)
    (h : Handling view table event state result state') : (table.get state').Reachable := by
  cases h with
  | ignored | failed => exact hreach
  | updated _ _ hp =>
      rw [table.get_set]
      exact hreach.persist hp

theorem Handling.find (hv : view.MadeBy table registrations) (hreach : (table.get state).Reachable)
    (h : Handling view table event state result state') (entity : Int64) :
    (table.get state').find entity =
      if event.entity.id = entity then
        Registration.modelAfter registrations ((table.get state).find entity) event
      else (table.get state).find entity := by
  unfold Registration.modelAfter
  cases hl : Registration.last? registrations event.payloadType with
  | none =>
      cases h with
      | ignored => simp
      | failed ht | updated ht =>
          rw [hv.transforms, hl] at ht
          cases ht
  | some registration =>
      have hs := h.settled hv hreach hl
      generalize hanswer :
        registration.transform ((table.get state).find event.entity.id) event = answer at hs
      by_cases he : event.entity.id = entity
      · subst he
        dsimp only
        rw [if_pos rfl, hanswer]
        cases hs with
        | failed => rfl
        | stored hstored _ _ hf => rw [table.get_set, hf, if_pos rfl, hstored]
      · rw [if_neg he]
        cases hs with
        | failed => rfl
        | stored _ _ _ hf => rw [table.get_set, hf, if_neg (Ne.symm he)]

/-! ## Events one after the other -/

/-- The session in which a view was given some events, whether they failed or not. -/
def handed (view : View (Sequential σ) E M) (start : Session σ) (events : List (Envelope E)) :
    Session σ :=
  events.foldl (fun s event => (exec (view.handle event) s).2) start

theorem handled (hv : view.MadeBy table registrations) (event : Envelope E) (s : Session σ) :
    Handling view table event s.state (exec (view.handle event) s).1
      (exec (view.handle event) s).2.state :=
  handling hv.models (yields_exec _ s)

theorem reachable_handed (hv : view.MadeBy table registrations) {start : Session σ}
    (hreach : (table.get start.state).Reachable) (events : List (Envelope E)) :
    (table.get (view.handed start events).state).Reachable := by
  induction events generalizing start with
  | nil => exact hreach
  | cons event events ih => exact ih ((handled hv event start).reachable hreach)

theorem find_handed (hv : view.MadeBy table registrations) {start : Session σ}
    (hreach : (table.get start.state).Reachable) (events : List (Envelope E)) (entity : Int64) :
    (table.get (view.handed start events).state).find entity =
      (events.filter fun event => event.entity.id = entity).foldl
        (Registration.modelAfter registrations) ((table.get start.state).find entity) := by
  induction events generalizing start with
  | nil => rfl
  | cons event events ih =>
      have hh := handled hv event start
      rw [handed, List.foldl_cons, ← handed, ih (hh.reachable hreach), hh.find hv hreach]
      by_cases he : event.entity.id = entity
      · simp [he]
      · simp [he]

omit [PayloadKind E] in
theorem madeBy_registered (name : String) (table : Cell σ (SnapshotTable M))
    (howned : ∀ registration ∈ registrations, registration.Owned) :
    (registered name (SnapshotTable.store table) registrations).MadeBy table registrations where
  models := models_registered name _ registrations
  transforms := transforms_registered name _ registrations
  owned := howned

/-- Whatever a view was given before: an event of a type for which nothing is registered changes
nothing; otherwise the last registration for the type answers, and the answer is the failure of the
view, which changes nothing, or becomes the model of the entity and changes no other. So the model of
each entity is the fold of the events of this entity. -/
theorem fold_of_events (name : String) (table : Cell σ (SnapshotTable M))
    (registrations : List (Registration E M))
    (howned : ∀ registration ∈ registrations, registration.Owned) (start : Session σ)
    (hreach : (table.get start.state).Reachable) (events : List (Envelope E)) :
    let view := registered name (SnapshotTable.store table) registrations
    let s := view.handed start events
    (∀ event, (∀ registration ∈ registrations, registration.typeName ≠ event.payloadType) →
      (exec (view.handle event) s).1 = .ok () ∧ (exec (view.handle event) s).2.state = s.state) ∧
    (∀ event before registration after, registrations = before ++ registration :: after →
      registration.typeName = event.payloadType →
      (∀ later ∈ after, later.typeName ≠ event.payloadType) →
      let current := (table.get s.state).find event.entity.id
      registration.Answers current event (registration.transform current event) ∧
        Settled table event s.state (registration.transform current event)
          (exec (view.handle event) s).1 (exec (view.handle event) s).2.state) ∧
    ∀ entity, (table.get s.state).find entity =
      (events.filter fun event => event.entity.id = entity).foldl
        (Registration.modelAfter registrations) ((table.get start.state).find entity) := by
  intro view s
  have hv : view.MadeBy table registrations := madeBy_registered name table howned
  have hreached : (table.get s.state).Reachable := reachable_handed hv hreach events
  refine ⟨fun event hn => (handled hv event s).of_unregistered hv hn, ?_,
    find_handed hv hreach events⟩
  intro event before registration after hr ht ha current
  have hl : Registration.last? registrations event.payloadType = some registration := by
    rw [hr]
    exact Registration.last?_eq_some ht ha
  exact ⟨registration.answers_transform current event, (handled hv event s).settled hv hreached hl⟩

end View

/-! ## The summaries of accounts -/

namespace AccountSummary

open Account (Event)

/-- The registrations of which the view of summaries is made. -/
def registrations : List (Registration Event AccountSummary) := [
  .create Event.createdVariant fun _ created => .ok (ofCreated created),
  .update Event.depositedVariant fun summary _ deposited =>
    .ok (summary.afterTransaction deposited.balance),
  .update Event.withdrawnVariant fun summary _ withdrawn =>
    .ok (summary.afterTransaction withdrawn.balance),
  .update Event.closedVariant fun summary _ closed => .ok (summary.afterClosing closed.finalBalance)]

/-- A change of a summary that leaves its id alone gives it no other id than it had. -/
theorem owned_update {V : Type} (variant : Variant Event V)
    {change : AccountSummary → V → AccountSummary}
    (h : ∀ summary payload, (change summary payload).id = summary.id) :
    (Registration.update variant fun summary _ payload => .ok (change summary payload)).Owned := by
  intro stored event payload model id hs hm hid
  cases hm
  have hsame := (h stored payload).symm.trans hid
  exact Option.some.inj (hsame.symm.trans hs)

theorem owned_registrations : ∀ registration ∈ registrations, registration.Owned := by
  refine List.forall_mem_cons.2 ⟨fun _ _ _ _ hm hid => ?_, List.forall_mem_cons.2 ⟨?_,
    List.forall_mem_cons.2 ⟨?_, List.forall_mem_singleton.2 ?_⟩⟩⟩
  · cases hm
    cases hid
  all_goals exact owned_update _ fun _ _ => rfl

/-- To the view of summaries a registration is added under the name of deposits, for withdrawals. -/
def misled : List (Registration Event AccountSummary) := registrations ++
  [.update { Event.withdrawnVariant with typeName := "account.deposited" } fun summary _ withdrawn =>
    .ok (summary.afterTransaction withdrawn.balance)]

def told (entity sequenceNo : Int64) (payload : Event) : Envelope Event :=
  (Envelope.new (.existing entity) payload (.new ⟨7⟩ Books.epoch)).atSequenceNo sequenceNo

/-- The last registration counts, so that no deposit gets through; the other events are taken, each for
its own entity. -/
theorem fold_of_events_of_misled :
    let view := View.registered "account-summary" (SnapshotTable.store (.whole _)) misled
    let s := view.handed { state := {} } [told 1 1 (.created ⟨"Ada", 10⟩),
      told 1 2 (.deposited ⟨5, 15⟩), told 2 1 (.created ⟨"Ben", 0⟩), told 1 3 (.withdrawn ⟨4, 6⟩)]
    (exec (view.handle (told 1 4 (.deposited ⟨1, 7⟩))) s).1 =
        .error (.validation "event account.deposited does not carry a account.deposited payload") ∧
      (exec (view.handle (told 3 1 (.closed ⟨0⟩))) s).1 =
        .error (.notFound "account summary" 3) ∧
      s.state.find 1 = some ⟨some 1, 3, "Ada", 6, 2, false⟩ := by
  intro view s
  have howned : ∀ registration ∈ misled, registration.Owned :=
    List.forall_mem_append.2 ⟨owned_registrations,
      List.forall_mem_singleton.2 (owned_update _ fun _ _ => rfl)⟩
  obtain ⟨-, -, hfold⟩ := View.fold_of_events "account-summary" (.whole _) misled howned
    { state := {} } .empty [told 1 1 (.created ⟨"Ada", 10⟩), told 1 2 (.deposited ⟨5, 15⟩),
      told 2 1 (.created ⟨"Ben", 0⟩), told 1 3 (.withdrawn ⟨4, 6⟩)]
  refine ⟨by decide +kernel, by decide +kernel, (hfold 1).trans ?_⟩
  decide +kernel

end AccountSummary

end EventSourcing
