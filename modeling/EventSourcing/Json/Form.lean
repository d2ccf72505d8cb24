import EventSourcing.Json.Mismatch
import EventSourcing.Instant
import EventSourcing.Uuid
import EventSourcing.Word
import Std.Data.ExtTreeMap

/-!
# Types with a JSON form

Writing a value as JSON and reading it back, for the plain types and for records of fields.

A record is read from an object or from the list of its fields in order. In an object the fields
are visited in the order of their names, unknown ones are passed over, and the first that does not
fit is the fault; only if all fit does the first absent field, in declared order, become the fault.
-/

namespace EventSourcing

/-- A table from texts to texts, in the order of its keys. -/
abbrev Properties := Std.ExtTreeMap String String

/-- A type whose values are written as JSON and read back. -/
class JsonForm (α : Type) where
  toJson : α → Json
  ofJson : Json → Except Mismatch α

export JsonForm (toJson ofJson)

/-! ## Plain types -/

/-- Any JSON value stands for itself. -/
instance : JsonForm Json where
  toJson json := json
  ofJson json := .ok json

instance : JsonForm Bool where
  toJson value := .bool value
  ofJson
    | .bool value => .ok value
    | json => .error (.invalidType json "a boolean")

instance : JsonForm String where
  toJson value := .text value
  ofJson
    | .text value => .ok value
    | json => .error (.invalidType json "a string")

/-- A word is a whole number in range; `5.0` is none. -/
instance : JsonForm Int64 where
  toJson value := .int value.toInt
  ofJson
    | .int n =>
      match Word.ofInt? n with
      | some value => .ok value
      | none => .error (.invalidValue (.int n) "i64")
    | json => .error (.invalidType json "i64")

/-- A natural number is a whole number that is not negative. -/
instance : JsonForm Nat where
  toJson value := .int value
  ofJson
    | .int (.ofNat n) => .ok n
    | .int n => .error (.invalidValue (.int n) "a natural number")
    | json => .error (.invalidType json "a natural number")

/-- A count is a whole number of 32 bits. -/
instance : JsonForm UInt32 where
  toJson value := .int value.toNat
  ofJson
    | .int n =>
      if 0 ≤ n ∧ n < UInt32.size then .ok (.ofNat n.toNat)
      else .error (.invalidValue (.int n) "u32")
    | json => .error (.invalidType json "u32")

/-- Reads texts into a table, one field after the other. -/
def readProperties : List (String × Json) → Properties → Except Mismatch Properties
  | [], table => .ok table
  | (key, json) :: fields, table => do
    let value : String ← ofJson json
    readProperties fields (table.insert key value)

instance : JsonForm Properties where
  toJson table := .record (table.toList.map fun entry => (entry.1, .text entry.2))
  ofJson
    | .record fields => readProperties fields ∅
    | json => .error (.invalidType json "a map")

instance : JsonForm Uuid where
  toJson id := .text id.text
  ofJson
    | .text s =>
      match Uuid.parse? s with
      | some id => .ok id
      | none => .error (.malformed "a formatted UUID string")
    | json => .error (.invalidType json "a formatted UUID string")

instance : JsonForm Instant where
  toJson t := .text t.text
  ofJson
    | .text s =>
      match Instant.parse? s with
      | some t => .ok t
      | none => .error (.malformed "an RFC 3339 formatted date and time string")
    | json => .error (.invalidType json "an RFC 3339 formatted date and time string")

/-! ## Records -/

/-- What is known of some fields of an object: the fault under the least name, the first absent
field, and the value if there is neither. -/
structure Reading (α : Type) where
  fault : Option (String × Mismatch)
  absent : Option String
  value : Option α

def leastFault : Option (String × Mismatch) → Option (String × Mismatch) →
    Option (String × Mismatch)
  | none, fault => fault
  | fault, none => fault
  | some a, some b => if b.1 < a.1 then some b else some a

/-- The value, or else the fault that is reported. -/
def Reading.result {α : Type} (reading : Reading α) (record : String) : Except Mismatch α :=
  match reading.fault, reading.absent, reading.value with
  | some fault, _, _ => .error fault.2
  | none, some name, _ => .error (.missingField name)
  | none, none, some value => .ok value
  | none, none, none => .error (.malformed record)

/-- How some fields in a row are read: out of an object by name, and off the front of a list. -/
structure Fields (α : Type) where
  count : Nat
  named : (String → Option Json) → Reading α
  listed : Mismatch → List Json → Except Mismatch (α × List Json)

namespace Fields

def one (α : Type) [JsonForm α] (name : String) : Fields α where
  count := 1
  named look :=
    match look name with
    | none => ⟨none, some name, none⟩
    | some json =>
      match ofJson json with
      | .error fault => ⟨some (name, fault), none, none⟩
      | .ok value => ⟨none, none, some value⟩
  listed tooShort
    | [] => .error tooShort
    | json :: rest => (ofJson json).map fun value => (value, rest)

/-- Some fields, and some more after them. -/
def andThen {α β : Type} (first : Fields α) (second : Fields β) : Fields (α × β) where
  count := first.count + second.count
  named look :=
    let a := first.named look
    let b := second.named look
    ⟨leastFault a.fault b.fault, a.absent <|> b.absent,
      match a.value, b.value with
      | some x, some y => some (x, y)
      | _, _ => none⟩
  listed tooShort items :=
    match first.listed tooShort items with
    | .error fault => .error fault
    | .ok (x, rest) =>
      match second.listed tooShort rest with
      | .error fault => .error fault
      | .ok (y, rest) => .ok ((x, y), rest)

def countText (count : Nat) : String :=
  if count = 1 then "1 element" else s!"{count} elements"

def read {α : Type} (fields : Fields α) (record : String) : Json → Except Mismatch α
  | .record entries => (fields.named fun name => entries.lookup name).result record
  | .list items =>
    let tooShort := .invalidLength items.length s!"struct {record} with {countText fields.count}"
    match fields.listed tooShort items with
    | .error fault => .error fault
    | .ok (value, []) => .ok value
    | .ok (_, _ :: _) => .error (.invalidLength items.length "fewer elements in array")
  | json => .error (.invalidType json s!"struct {record}")

end Fields

/-- The value of a field of an object; one that is `null` counts as absent. -/
def ofField? {α : Type} [JsonForm α] (name : String) (json : Json) : Except Mismatch (Option α) :=
  match json.field? name with
  | none | some .null => .ok none
  | some value => (ofJson value).map some

/-- The value of a field of an object, or a given one if it is absent. -/
def ofFieldD {α : Type} [JsonForm α] (name : String) (json : Json) (absent : α) :
    Except Mismatch α := do
  return (← ofField? name json).getD absent

/-- Reads a record without fields, which is written as `null`. -/
def readUnit {α : Type} (value : α) (record : String) : Json → Except Mismatch α
  | .null => .ok value
  | json => .error (.invalidType json s!"unit struct {record}")

end EventSourcing
