import EventSourcing.Proofs.Account.Payloads
import EventSourcing.Proofs.Texts.Instant
import EventSourcing.Proofs.Texts.Uuid
import EventSourcing.StoredCommand

/-!
# There and back again

Whatever has a JSON form is read back as it was written. Reading takes more than what is written, but
all that was read once is read in the same way again after it was written.
-/

namespace EventSourcing

/-! ## Identifiers, instants and properties -/

theorem readsBack_uuid : ReadsBack Uuid := fun id => by
  simp only [toJson, ofJson, Uuid.parse?_text]

theorem readsBack_instant : ReadsBack Instant := fun t => by
  simp only [toJson, ofJson, Instant.parse?_text]

theorem readProperties_eq_insertMany (entries : List (String × String)) (table : Properties) :
    readProperties (entries.map fun entry => (entry.1, .text entry.2)) table =
      .ok (table.insertMany entries) := by
  rw [Std.ExtTreeMap.insertMany_list_eq_foldl]
  induction entries generalizing table with
  | nil => rfl
  | cons entry entries ih => exact ih (table.insert entry.1 entry.2)

theorem insertMany_toList (table : Properties) : (∅ : Properties).insertMany table.toList = table := by
  apply Std.ExtTreeMap.ext_getElem?
  intro key
  cases h : table[key]? with
  | none =>
      have hkey : (table.toList.map Prod.fst).contains key = false := by
        simpa using h
      rw [Std.ExtTreeMap.getElem?_insertMany_list_of_contains_eq_false hkey]
      rfl
  | some value =>
      exact Std.ExtTreeMap.getElem?_insertMany_list_of_mem Std.ReflCmp.compare_self
        Std.ExtTreeMap.distinct_keys_toList (Std.ExtTreeMap.mem_toList_iff_getElem?_eq_some.2 h)

theorem readsBack_properties : ReadsBack Properties := fun table => by
  simp only [toJson, ofJson, readProperties_eq_insertMany, insertMany_toList]

/-! ## Records -/

open Fields (named_one named_andThen)

theorem readsBack_entityReference : ReadsBack EntityReference :=
  MadeOf.readsBack (fun _ => rfl) fun entity => ⟨_, (entity.id, entity.isNew), rfl,
    named_andThen (named_one readsBack_int64 rfl) (named_one readsBack_bool rfl), rfl⟩

theorem readsBack_metadata : ReadsBack Metadata :=
  MadeOf.readsBack (fun _ => rfl) fun metadata =>
    ⟨_, (metadata.eventId, metadata.occurredOn, metadata.sequenceNo, metadata.isReplay,
      metadata.properties), rfl,
      named_andThen (named_one readsBack_uuid rfl) <|
      named_andThen (named_one readsBack_instant rfl) <|
      named_andThen (named_one readsBack_int64 rfl) <|
      named_andThen (named_one readsBack_bool rfl) (named_one readsBack_properties rfl), rfl⟩

theorem readsBack_storedCommand : ReadsBack StoredCommand :=
  MadeOf.readsBack (fun _ => rfl) fun record =>
    ⟨_, (record.entityId, record.sequenceNo, record.commandName, record.commandType,
      record.payload, record.metadata, record.recordedAt), rfl,
      named_andThen (named_one readsBack_int64 rfl) <|
      named_andThen (named_one readsBack_int64 rfl) <|
      named_andThen (named_one readsBack_string rfl) <|
      named_andThen (named_one readsBack_string rfl) <|
      named_andThen (named_one readsBack_json rfl) <|
      named_andThen (named_one readsBack_metadata rfl) (named_one readsBack_instant rfl), rfl⟩

/-- An envelope is read back if its payload is. -/
theorem readsBack_envelope {P : Type} [JsonForm P] (h : ReadsBack P) : ReadsBack (Envelope P) :=
  MadeOf.readsBack (fun _ => rfl) fun envelope =>
    ⟨_, (envelope.name, envelope.metadata, envelope.entity, envelope.payload), rfl,
      named_andThen (named_one readsBack_string rfl) <|
      named_andThen (named_one readsBack_metadata rfl) <|
      named_andThen (named_one readsBack_entityReference rfl) (named_one h rfl), rfl⟩

/-! ## There and back -/

/-- What is written is read back, and whatever is read stays as it is when it is written and read
once more. -/
structure RoundTrips (α : Type) [JsonForm α] : Prop where
  readsBack : ReadsBack α
  settles : ∀ json : Json, (ofJson json >>= fun a : α => ofJson (toJson a)) =
    (ofJson json : Except Mismatch α)

theorem ReadsBack.roundTrips {α : Type} [JsonForm α] (h : ReadsBack α) : RoundTrips α where
  readsBack := h
  settles json := by
    cases hj : (ofJson json : Except Mismatch α) with
    | error fault => rfl
    | ok a => exact h a

open Account in
/-- All that is kept or sent makes the round trip: the references of entities, metadata, records
with any payload, and the envelopes of commands and events. -/
theorem json_forms_round_trip :
    RoundTrips EntityReference ∧ RoundTrips Metadata ∧ RoundTrips StoredCommand ∧
    RoundTrips (Envelope CreateAccount) ∧ RoundTrips (Envelope Deposit) ∧
    RoundTrips (Envelope Withdraw) ∧ RoundTrips (Envelope CloseAccount) ∧
    RoundTrips (Envelope AccountCreated) ∧ RoundTrips (Envelope FundsDeposited) ∧
    RoundTrips (Envelope FundsWithdrawn) ∧ RoundTrips (Envelope AccountClosed) ∧
    toJson CloseAccount.mk = .null :=
  ⟨readsBack_entityReference.roundTrips, readsBack_metadata.roundTrips,
    readsBack_storedCommand.roundTrips,
    (readsBack_envelope readsBack_createAccount).roundTrips,
    (readsBack_envelope readsBack_deposit).roundTrips,
    (readsBack_envelope readsBack_withdraw).roundTrips,
    (readsBack_envelope readsBack_closeAccount).roundTrips,
    (readsBack_envelope readsBack_accountCreated).roundTrips,
    (readsBack_envelope readsBack_fundsDeposited).roundTrips,
    (readsBack_envelope readsBack_fundsWithdrawn).roundTrips,
    (readsBack_envelope readsBack_accountClosed).roundTrips, rfl⟩

/-- A list of the fields and an object with one more are read as the same reference. -/
example :
    let entity := EntityReference.fresh 7
    ofJson (.list [.int 7, .bool true]) = .ok entity ∧
      ofJson (.record [("note", .null), ("is_new", .bool true), ("id", .int 7)]) = .ok entity :=
  ⟨rfl, rfl⟩

end EventSourcing
