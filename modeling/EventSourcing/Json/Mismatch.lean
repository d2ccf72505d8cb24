import EventSourcing.Json.Basic
import EventSourcing.Text.Quoted

/-!
# Why a JSON value does not fit a type

The causes for which reading a value of some type out of a JSON value fails, and their wording.
-/

namespace EventSourcing

def Json.boolText (value : Bool) : String := if value then "true" else "false"

def Json.describe : Json → String
  | .null => "null"
  | .bool value => s!"boolean `{boolText value}`"
  | .int value => s!"integer `{value}`"
  | .real value => s!"floating point `{value.text}`"
  | .text value => s!"string {Text.quoted value}"
  | .list _ => "sequence"
  | .record _ => "map"

/-- A cause for which a JSON value does not fit a type. -/
inductive Mismatch where
  /-- The value is of another kind than the type asks for. -/
  | invalidType (found : Json) (expected : String)
  /-- The value is of the right kind and out of range. -/
  | invalidValue (found : Json) (expected : String)
  | invalidLength (length : Nat) (expected : String)
  | missingField (name : String)
  /-- A text is not one of the texts of the type. -/
  | malformed (expected : String)
  deriving DecidableEq

def Mismatch.message : Mismatch → String
  | .invalidType found expected => s!"invalid type: {found.describe}, expected {expected}"
  | .invalidValue found expected => s!"invalid value: {found.describe}, expected {expected}"
  | .invalidLength length expected => s!"invalid length {length}, expected {expected}"
  | .missingField name => s!"missing field `{name}`"
  | .malformed expected => s!"malformed text, expected {expected}"

end EventSourcing
