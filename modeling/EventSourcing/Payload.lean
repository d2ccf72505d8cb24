import EventSourcing.Error
import EventSourcing.Json.Form

/-!
# Payloads

The payloads of commands, and those of events, form a kind: a choice between variants. Each payload
tells the name of its type and is written as JSON, which may fail. Two variants of a kind may share a
name.
-/

namespace EventSourcing

class PayloadKind (P : Type) where
  typeName : P → String
  payloadJson : P → Except DomainError Json

export PayloadKind (typeName payloadJson)

/-- What a payload is written as, from what the writer of its variant makes of it. -/
def written (outcome : Except String Json) : Except DomainError Json :=
  outcome.mapError fun text => .store s!"payload serialization failed: {text}"

/-- One variant of a kind: the name of its type, and how values of `V` and of the kind go into one
another. -/
structure Variant (P V : Type) where
  typeName : String
  wrap : V → P
  peek : P → Option V
  peek_wrap : ∀ v, peek (wrap v) = some v
  wrap_of_peek : ∀ p v, peek p = some v → wrap v = p

def Variant.read {P V : Type} [JsonForm V] (variant : Variant P V) (json : Json) :
    Except Mismatch P :=
  (ofJson json).map variant.wrap

structure AnyVariant (P : Type) where
  {V : Type}
  [form : JsonForm V]
  variant : Variant P V

attribute [instance] AnyVariant.form

namespace AnyVariant

variable {P : Type}

def typeName (v : AnyVariant P) : String := v.variant.typeName

def sees (v : AnyVariant P) (payload : P) : Bool := (v.variant.peek payload).isSome

/-- A payload as JSON, if it is of the variant. -/
def peekJson? (v : AnyVariant P) (payload : P) : Option Json :=
  (v.variant.peek payload).map toJson

def find? (name : String) (variants : List (AnyVariant P)) : Option (AnyVariant P) :=
  variants.find? fun v => v.typeName == name

end AnyVariant

end EventSourcing
