import EventSourcing.Dispatcher
import EventSourcing.Store.Interface
import Std.Data.ExtTreeMap

/-!
# Views

A view keeps a read model for each entity and brings it up to date with every event for which it has
a transform. A transform either makes the model anew or changes the one that is stored.
-/

namespace EventSourcing

abbrev Transform (E M : Type) : Type := Option M → Envelope E → Except DomainError M

/-- A view: what it is called, where its models are, and its transforms by type of event. -/
structure View (m : Type → Type) (E M : Type) where
  name : String
  models : SnapshotStore m M
  transforms : Std.ExtTreeMap String (Transform E M) := ∅

namespace View

variable {σ : Type} {m : Type → Type} [Host σ m] {E M V : Type} [PayloadKind E] [Snapshot M]

/-- The payload of an event, which has to be of a given variant. -/
def payloadOf (variant : Variant E V) (event : Envelope E) : Except DomainError V :=
  match event.payloadAs variant with
  | some payload => .ok payload
  | none => .error <| .validation <|
      s!"event {event.name} does not carry a {variant.typeName} payload"

def creating (variant : Variant E V) (create : Envelope E → V → Except DomainError M) :
    Transform E M := fun _ event => do
  let payload ← payloadOf variant event
  create event payload

/-- The transform that changes the model that is stored; there has to be one. -/
def updating (variant : Variant E V) (update : M → Envelope E → V → Except DomainError M) :
    Transform E M := fun current event =>
  match current with
  | none => .error (.notFound (Snapshot.kind M) event.entity.id)
  | some model => do
    let payload ← payloadOf variant event
    update model event payload

/-- The same view with a transform for the type of a variant; an earlier one gives way. -/
def on (view : View m E M) (variant : Variant E V) (transform : Transform E M) : View m E M :=
  { view with transforms := view.transforms.insert variant.typeName transform }

/-- The same view, which makes its model anew on events of a variant. -/
def onCreate (view : View m E M) (variant : Variant E V)
    (create : Envelope E → V → Except DomainError M) : View m E M :=
  view.on variant (creating variant create)

/-- The same view, which changes its model on events of a variant. -/
def onUpdate (view : View m E M) (variant : Variant E V)
    (update : M → Envelope E → V → Except DomainError M) : View m E M :=
  view.on variant (updating variant update)

def handles (view : View m E M) (eventType : String) : Bool := view.transforms.contains eventType

def target : String := "eventline_runtime::view"

/-- Brings the model of the entity of an event up to date. -/
def handle (view : View m E M) (event : Envelope E) : Fallible m Unit :=
  match view.transforms[event.payloadType]? with
  | none =>
    Host.note <| .event .trace target
      [("view", view.name), ("event_type", event.payloadType)]
      "no transform registered; skipping"
  | some transform => do
    let current ← view.models.find event.entity.id
    let next ← Host.settle (transform current event)
    let _ ← view.models.persist (Snapshot.stamped event.entity.id event.sequenceNo next)
    Host.note <| .event .debug target
      [("view", view.name), ("event_type", event.payloadType), ("entity_id", event.entity.id),
        ("sequence_no", event.sequenceNo)]
      "view model updated"

def subscriber (view : View m E M) : Subscriber m E := ⟨view.name, view.handle⟩

end View

end EventSourcing
