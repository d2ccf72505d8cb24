import EventSourcing.Account.Summary

/-!
# Twins

A kind of payloads whose two variants share the name of their type.
-/

namespace EventSourcing

inductive Twin where
  | left (n : Int64)
  | right (n : Int64)
  deriving DecidableEq

namespace Twin

def sharedName : String := "twin.same"

def leftVariant : Variant Twin Int64 where
  typeName := sharedName
  wrap := .left
  peek | .left n => some n | .right _ => none
  peek_wrap _ := rfl
  wrap_of_peek p v h := by cases p <;> simp_all

def rightVariant : Variant Twin Int64 where
  typeName := sharedName
  wrap := .right
  peek | .left _ => none | .right n => some n
  peek_wrap _ := rfl
  wrap_of_peek p v h := by cases p <;> simp_all

instance : PayloadKind Twin where
  typeName _ := sharedName
  payloadJson
    | .left n | .right n => written (.ok (.record [("n", toJson n)]))

/-- A view of twins that makes its model anew from one variant. -/
def creating {m : Type → Type} (view : View m Twin AccountSummary)
    (variant : Variant Twin Int64) : View m Twin AccountSummary :=
  view.onCreate variant fun _ n => .ok { balance := n }

def adding {m : Type → Type} (view : View m Twin AccountSummary)
    (variant : Variant Twin Int64) : View m Twin AccountSummary :=
  view.onUpdate variant fun summary _ n => .ok (summary.afterTransaction (summary.balance + n))

end Twin

end EventSourcing
