import EventSourcing.Decimal.Layout

/-!
# JSON values

Whole numbers and floating point numbers are kept apart, because a reader of one refuses the other.
An object is a list of fields; `Json.object` puts them in the order of their keys, each key once.
-/

namespace EventSourcing

/-- A finite floating point number, by its bits. -/
structure Real64 where
  bits : UInt64
  deriving DecidableEq

def Real64.layout : Decimal.Layout where
  plainFrom := -5
  plainBelow := 16

def Real64.text (x : Real64) : String := (Decimal.Binary.ofBits x.bits).text layout

/-- A whole number keeps its point. -/
example : Real64.text ⟨0x4014000000000000⟩ = "5.0" := by decide +kernel

/-- The last power of ten that is written positionally, and the first that is not. -/
example : Real64.text ⟨0x430C6BF526340000⟩ = "1000000000000000.0" ∧
    Real64.text ⟨0x4341C37937E08000⟩ = "1e+16" := by decide +kernel

/-- The same at the lower end. -/
example : Real64.text ⟨0x3EE4F8B588E368F1⟩ = "0.00001" ∧
    Real64.text ⟨0xBEB0C6F7A0B5ED8D⟩ = "-1e-6" := by decide +kernel

/-- The least positive number has a single digit. -/
example : Real64.text ⟨1⟩ = "5e-324" := by decide +kernel

/-- Of two nearest decimals the even one is taken. -/
example : Real64.text ⟨0x3E60000000000000⟩ = "2.9802322387695312e-8" := by decide +kernel

inductive Json where
  | null
  | bool (value : Bool)
  | int (value : Int)
  | real (value : Real64)
  | text (value : String)
  | list (items : List Json)
  | record (fields : List (String × Json))
  deriving Inhabited

namespace Json

/-- Puts a field where its key belongs; a field with the same key gives way. -/
def putField (key : String) (value : Json) : List (String × Json) → List (String × Json)
  | [] => [(key, value)]
  | (k, v) :: rest =>
    if key < k then (key, value) :: (k, v) :: rest
    else if key = k then (key, value) :: rest
    else (k, v) :: putField key value rest

/-- The object with the given fields: sorted by key, the last of two fields with one key stays. -/
def object (fields : List (String × Json)) : Json :=
  .record (fields.foldl (fun sorted f => putField f.1 f.2 sorted) [])

def field? (key : String) : Json → Option Json
  | .record fields => fields.lookup key
  | _ => none

mutual

def decEq : (a b : Json) → Decidable (a = b)
  | .null, .null => isTrue rfl
  | .bool a, .bool b => decidable_of_iff (a = b) (by simp)
  | .int a, .int b => decidable_of_iff (a = b) (by simp)
  | .real a, .real b => decidable_of_iff (a = b) (by simp)
  | .text a, .text b => decidable_of_iff (a = b) (by simp)
  | .list a, .list b =>
    have := decEqItems a b
    decidable_of_iff (a = b) (by simp)
  | .record a, .record b =>
    have := decEqFields a b
    decidable_of_iff (a = b) (by simp)
  | .null, .bool _ | .null, .int _ | .null, .real _ | .null, .text _ | .null, .list _
  | .null, .record _ | .bool _, .null | .bool _, .int _ | .bool _, .real _ | .bool _, .text _
  | .bool _, .list _ | .bool _, .record _ | .int _, .null | .int _, .bool _ | .int _, .real _
  | .int _, .text _ | .int _, .list _ | .int _, .record _ | .real _, .null | .real _, .bool _
  | .real _, .int _ | .real _, .text _ | .real _, .list _ | .real _, .record _ | .text _, .null
  | .text _, .bool _ | .text _, .int _ | .text _, .real _ | .text _, .list _ | .text _, .record _
  | .list _, .null | .list _, .bool _ | .list _, .int _ | .list _, .real _ | .list _, .text _
  | .list _, .record _ | .record _, .null | .record _, .bool _ | .record _, .int _
  | .record _, .real _ | .record _, .text _ | .record _, .list _ => isFalse (by simp)

def decEqItems : (a b : List Json) → Decidable (a = b)
  | [], [] => isTrue rfl
  | [], _ :: _ | _ :: _, [] => isFalse (by simp)
  | x :: xs, y :: ys =>
    have := decEq x y
    have := decEqItems xs ys
    decidable_of_iff (x = y ∧ xs = ys) (by simp)

def decEqFields : (a b : List (String × Json)) → Decidable (a = b)
  | [], [] => isTrue rfl
  | [], _ :: _ | _ :: _, [] => isFalse (by simp)
  | (k, x) :: xs, (l, y) :: ys =>
    have := decEq x y
    have := decEqFields xs ys
    decidable_of_iff (k = l ∧ x = y ∧ xs = ys) (by simp [and_assoc])

end

instance : DecidableEq Json := decEq

end Json

end EventSourcing
