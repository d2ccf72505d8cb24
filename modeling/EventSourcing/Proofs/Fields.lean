import EventSourcing.Payload

/-!
# Which JSON values fit a type

What the plain types take, and what is asked of the fields of a record: out of an object they are
taken by their names, whatever else is in it, and off a list by their places, with nothing left over.
A value that was written fits its type and is read back as it was.
-/

namespace EventSourcing

def ReadsBack (α : Type) [JsonForm α] : Prop := ∀ a : α, ofJson (toJson a) = .ok a

/-! ## Plain types -/

theorem ofJson_string_eq_ok_iff {json : Json} {s : String} :
    ofJson json = .ok s ↔ json = .text s := by
  cases json <;> simp [ofJson]

theorem ofJson_bool_eq_ok_iff {json : Json} {b : Bool} : ofJson json = .ok b ↔ json = .bool b := by
  cases json <;> simp [ofJson]

theorem ofJson_int64_eq_ok_iff {json : Json} {n : Int64} :
    ofJson json = .ok n ↔ json = .int n.toInt := by
  cases json with
  | int i =>
      rw [Json.int.injEq, eq_comm (a := i), ← Word.ofInt?_eq_some_iff]
      simp only [ofJson]
      cases Word.ofInt? i <;> simp
  | _ => simp [ofJson]

theorem readsBack_json : ReadsBack Json := fun _ => rfl

theorem readsBack_string : ReadsBack String := fun _ => ofJson_string_eq_ok_iff.2 rfl

theorem readsBack_bool : ReadsBack Bool := fun _ => ofJson_bool_eq_ok_iff.2 rfl

theorem readsBack_int64 : ReadsBack Int64 := fun _ => ofJson_int64_eq_ok_iff.2 rfl

/-! ## Fields -/

/-- What is known of fields that are all there and all fit. -/
def Reading.whole {α : Type} (a : α) : Reading α := ⟨none, none, some a⟩

theorem Reading.result_eq_ok_iff {α : Type} {reading : Reading α} {record : String} {a : α} :
    reading.result record = .ok a ↔ reading = .whole a := by
  obtain ⟨fault, absent, value⟩ := reading
  cases fault <;> cases absent <;> cases value <;> simp [result, whole]

theorem leastFault_eq_none_iff {a b : Option (String × Mismatch)} :
    leastFault a b = none ↔ a = none ∧ b = none := by
  cases a <;> cases b <;> simp [leastFault]
  split <;> simp

namespace Fields

variable {α β : Type} {look : String → Option Json}

theorem named_one_eq_whole_iff [JsonForm α] {name : String} {a : α} :
    (one α name).named look = .whole a ↔ ∃ json, look name = some json ∧ ofJson json = .ok a := by
  simp only [one, Reading.whole]
  cases look name with
  | none => simp
  | some json => cases h : (ofJson json : Except Mismatch α) <;> simp [h]

theorem named_andThen_eq_whole_iff {first : Fields α} {second : Fields β} {a : α} {b : β} :
    (first.andThen second).named look = .whole (a, b) ↔
      first.named look = .whole a ∧ second.named look = .whole b := by
  rcases hf : first.named look with ⟨fault, absent, value⟩
  rcases hs : second.named look with ⟨fault', absent', value'⟩
  simp only [andThen, Reading.whole, hf, hs, Reading.mk.injEq, leastFault_eq_none_iff,
    Option.orElse_eq_orElse, Option.orElse_eq_or, Option.or_eq_none_iff]
  cases value <;> cases value' <;> simp [and_assoc, and_left_comm]

theorem listed_one_eq_ok_iff [JsonForm α] {name : String} {tooShort : Mismatch}
    {items rest : List Json} {a : α} :
    (one α name).listed tooShort items = .ok (a, rest) ↔
      ∃ json, items = json :: rest ∧ ofJson json = .ok a := by
  simp only [one]
  cases items with
  | nil => simp
  | cons json items =>
      simp only [List.cons.injEq, and_assoc, exists_eq_left']
      cases (ofJson json : Except Mismatch α) <;> simp [Except.map, and_comm]

theorem listed_andThen_eq_ok_iff {first : Fields α} {second : Fields β} {tooShort : Mismatch}
    {items rest : List Json} {a : α} {b : β} :
    (first.andThen second).listed tooShort items = .ok ((a, b), rest) ↔
      ∃ between, first.listed tooShort items = .ok (a, between) ∧
        second.listed tooShort between = .ok (b, rest) := by
  simp only [andThen]
  rcases first.listed tooShort items with fault | ⟨a', between⟩
  · simp
  · simp only [Except.ok.injEq, Prod.mk.injEq, and_assoc, exists_and_left, exists_eq_left']
    rcases second.listed tooShort between with fault | ⟨b', rest'⟩ <;> simp [and_assoc]

/-- The list of fields that is asked for, when one of some length was too short for it. -/
def tooShort (fields : Fields α) (record : String) (items : List Json) : Mismatch :=
  .invalidLength items.length s!"struct {record} with {countText fields.count}"

/-- A record is read from an object in which all fields fit, or from a list of them and no more. -/
theorem read_eq_ok_iff {fields : Fields α} {record : String} {json : Json} {a : α} :
    fields.read record json = .ok a ↔
      (∃ entries, json = .record entries ∧
        fields.named (fun name => entries.lookup name) = .whole a) ∨
      ∃ items, json = .list items ∧
        fields.listed (fields.tooShort record items) items = .ok (a, []) := by
  cases json with
  | record entries => simp [read, Reading.result_eq_ok_iff]
  | list items =>
      simp only [read, reduceCtorEq, false_and, exists_false, false_or, Json.list.injEq,
        exists_eq_left', tooShort]
      split <;> simp_all
  | _ => simp [read]

theorem read_one_eq_ok_iff [JsonForm α] {name record : String} {json : Json} {a : α} :
    (one α name).read record json = .ok a ↔
      (∃ entries, json = .record entries ∧
        ∃ value, entries.lookup name = some value ∧ ofJson value = .ok a) ∨
      ∃ value, json = .list [value] ∧ ofJson value = .ok a := by
  simp only [read_eq_ok_iff, named_one_eq_whole_iff, listed_one_eq_ok_iff]
  refine or_congr_right ⟨?_, ?_⟩
  · rintro ⟨_, hj, value, rfl, hv⟩
    exact ⟨value, hj, hv⟩
  · rintro ⟨value, hj, hv⟩
    exact ⟨_, hj, value, rfl, hv⟩

theorem read_two_eq_ok_iff [JsonForm α] [JsonForm β] {name name' record : String} {json : Json}
    {a : α} {b : β} :
    ((one α name).andThen (one β name')).read record json = .ok (a, b) ↔
      (∃ entries, json = .record entries ∧
        (∃ value, entries.lookup name = some value ∧ ofJson value = .ok a) ∧
        ∃ value, entries.lookup name' = some value ∧ ofJson value = .ok b) ∨
      ∃ value value', json = .list [value, value'] ∧ ofJson value = .ok a ∧
        ofJson value' = .ok b := by
  simp only [read_eq_ok_iff, named_andThen_eq_whole_iff, named_one_eq_whole_iff,
    listed_andThen_eq_ok_iff, listed_one_eq_ok_iff]
  refine or_congr_right ⟨?_, ?_⟩
  · rintro ⟨_, hj, _, ⟨value, rfl, hv⟩, value', rfl, hv'⟩
    exact ⟨value, value', hj, hv, hv'⟩
  · rintro ⟨value, value', hj, hv, hv'⟩
    exact ⟨_, hj, _, ⟨value, rfl, hv⟩, value', rfl, hv'⟩

theorem named_one [JsonForm α] (h : ReadsBack α) {name : String} {a : α}
    (hl : look name = some (toJson a)) : (one α name).named look = .whole a :=
  named_one_eq_whole_iff.2 ⟨_, hl, h a⟩

theorem named_andThen {first : Fields α} {second : Fields β} {a : α} {b : β}
    (ha : first.named look = .whole a) (hb : second.named look = .whole b) :
    (first.andThen second).named look = .whole (a, b) :=
  named_andThen_eq_whole_iff.2 ⟨ha, hb⟩

end Fields

/-! ## Records -/

section

variable {R α : Type} [JsonForm R] {fields : Fields α} {record : String} {make : α → R}

/-- A value of a type is read off some fields and made of them, and of nothing else. -/
def MadeOf (fields : Fields α) (record : String) (make : α → R) : Prop :=
  ∀ json, ofJson json = (fields.read record json).map make

theorem MadeOf.ofJson_eq_ok_iff (h : MadeOf fields record make) {json : Json} {r : R} :
    ofJson json = .ok r ↔ ∃ a, fields.read record json = .ok a ∧ make a = r := by
  rw [h json]
  cases fields.read record json <;> simp [Except.map]

/-- A record is read back if each of its fields is found as it was written. -/
theorem MadeOf.readsBack (h : MadeOf fields record make)
    (hw : ∀ r : R, ∃ entries a, toJson r = .record entries ∧
      fields.named (fun name => entries.lookup name) = .whole a ∧ make a = r) : ReadsBack R := by
  intro r
  obtain ⟨entries, a, hr, ha, hm⟩ := hw r
  exact h.ofJson_eq_ok_iff.2 ⟨a, Fields.read_eq_ok_iff.2 (.inl ⟨entries, hr, ha⟩), hm⟩

end

/-! ## Variants -/

theorem Variant.read_eq_ok_iff {P V : Type} [JsonForm V] {variant : Variant P V} {json : Json}
    {payload : P} :
    variant.read json = .ok payload ↔
      ∃ value, ofJson json = .ok value ∧ variant.wrap value = payload := by
  unfold read
  cases (ofJson json : Except Mismatch V) <;> simp [Except.map]

end EventSourcing
