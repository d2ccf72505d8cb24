import EventSourcing.Json.Basic
import EventSourcing.Uuid

/-!
# Numbering new identifiers

New identifiers differ from run to run. To compare two runs, the identifiers that were given to them
stay and every other one is replaced by its number in the order in which they are met.
-/

namespace EventSourcing.Numbering

mutual

/-- The identifiers among the texts of a value, in any spelling. -/
def idsOf : Json → List Uuid
  | .text s => (Uuid.parse? s).toList
  | .list items => idsOfItems items
  | .record fields => idsOfFields fields
  | _ => []

def idsOfItems : List Json → List Uuid
  | [] => []
  | item :: items => idsOf item ++ idsOfItems items

def idsOfFields : List (String × Json) → List Uuid
  | [] => []
  | (_, value) :: fields => idsOf value ++ idsOfFields fields

end

/-- A source of identifiers that gives none of the given ones: all that it gives have leading bits
that none of them has. -/
def sourceBeside (given : List Uuid) : IdSource :=
  let used := given.map fun id => id.value.toNat >>> 80
  let block := (List.range (given.length + 1)).find? fun n => !used.contains n
  { nth := fun n => Uuid.ofSerial ((block.getD 0 <<< 74) + n) }

def label (n : Nat) : String := s!"#{n}"

/-- Numbers a text, if it is an identifier in five groups that was not given. `met` are those that
were met so far. -/
def numberText (given : List Uuid) (s : String) : StateM (List Uuid) Json := do
  match if s.length = 36 then Uuid.parse? s else none with
  | none => return .text s
  | some id =>
    if given.contains id then return .text s
    else
      let met ← get
      match met.findIdx? fun other => other == id with
      | some i => return .text (label (i + 1))
      | none =>
        set (met ++ [id])
        return .text (label (met.length + 1))

mutual

def number (given : List Uuid) : Json → StateM (List Uuid) Json
  | .text s => numberText given s
  | .list items => return .list (← numberItems given items)
  | .record fields => return .record (← numberFields given fields)
  | json => return json

def numberItems (given : List Uuid) : List Json → StateM (List Uuid) (List Json)
  | [] => return []
  | item :: items => do
    let item ← number given item
    let items ← numberItems given items
    return item :: items

def numberFields (given : List Uuid) :
    List (String × Json) → StateM (List Uuid) (List (String × Json))
  | [] => return []
  | (key, value) :: fields => do
    let value ← number given value
    let fields ← numberFields given fields
    return (key, value) :: fields

end

/-- A value with its identifiers numbered, those given apart. -/
def numbered (given : List Uuid) (json : Json) : Json := ((number given json).run []).1

end EventSourcing.Numbering
