import EventSourcing.Error
import EventSourcing.Json.Form

/-!
# References to entities

A command names the entity that it is about by a positive id, and says whether it creates it.
-/

namespace EventSourcing

/-- A reference to an entity that is to be created or to one that exists. -/
structure EntityReference where
  id : Int64
  isNew : Bool
  deriving DecidableEq

namespace EntityReference

def fresh (id : Int64) : EntityReference := ⟨id, true⟩

def existing (id : Int64) : EntityReference := ⟨id, false⟩

/-- The id of an entity has to be positive. -/
def validate (entity : EntityReference) : Except DomainError Unit :=
  if 0 < entity.id.toInt then .ok ()
  else .error (.validation s!"entity id must be positive, got {Word.text entity.id}")

theorem validate_eq_ok_iff {entity : EntityReference} :
    entity.validate = .ok () ↔ 0 < entity.id.toInt := by
  unfold validate
  split <;> simp_all

def fields : Fields (Int64 × Bool) := (Fields.one Int64 "id").andThen (.one Bool "is_new")

instance : JsonForm EntityReference where
  toJson entity := .record [("id", toJson entity.id), ("is_new", toJson entity.isNew)]
  ofJson json := do
    let (id, isNew) ← fields.read "EntityReference" json
    return ⟨id, isNew⟩

end EntityReference

end EventSourcing
