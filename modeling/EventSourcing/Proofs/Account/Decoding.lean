import EventSourcing.Proofs.Reading

/-!
# What is decoded

A record is decoded exactly if the type of its command is known and its payload spells a command of
this type; then it gives this command. So it does not matter in which form a payload is stored, and
the form in which the command itself is written is one of them.
-/

namespace EventSourcing

namespace Decoders

variable {C : Type} {variants : List (AnyVariant C)} {record : StoredCommand}

theorem Distinct.of_subset {readers readers' : List (String × (Json → Except Mismatch C))}
    (h : Distinct readers) (hs : readers' ⊆ readers) : Distinct readers' :=
  fun d hd d' hd' => h d (hs hd) d' (hs hd')

/-- A record is decoded by a variant under its type, if it reads the payload. -/
theorem decodeStored_eq_ok_iff (h : Distinct (variants.map fun v => (v.typeName, v.variant.read)))
    {command : Envelope C} :
    (ofVariants variants).decodeStored record = .ok command ↔
      command = replayed record command.payload ∧ ∃ v ∈ variants,
        v.typeName = record.commandType ∧ v.variant.read record.payload = .ok command.payload := by
  constructor
  · intro hd
    exact ⟨eq_replayed_of_decodeStored hd, read_of_decodeStored hd⟩
  · rintro ⟨hc, v, hv, hn, hr⟩
    simp only [decodeStored, decode, ← hn, entries_ofVariants h hv, hr]
    rw [← hc]

theorem decodeStored_of_unknown (h : ∀ v ∈ variants, v.typeName ≠ record.commandType) :
    (ofVariants variants).decodeStored record =
      .error (.store (DecodeFault.unknownType record.commandType).message) := by
  have hnone : (ofVariants variants).entries[record.commandType]? = none := by
    rw [Option.eq_none_iff_forall_ne_some]
    intro read hread
    obtain ⟨v, hv, hn, -⟩ := exists_variant_of_entries hread
    exact h v hv hn
  simp only [decodeStored, decode, hnone]

theorem exists_message_of_decodeStored {decoders : Decoders C} {failure : DomainError}
    (h : decoders.decodeStored record = .error failure) : ∃ message, failure = .store message := by
  unfold decodeStored at h
  split at h
  · cases h
  · cases h
    exact ⟨_, rfl⟩

end Decoders

namespace Account

variable {registered : List (AnyVariant Command)}

theorem distinct_of_registered (h : registered ⊆ Command.variants) :
    Decoders.Distinct (registered.map fun v => (v.typeName, v.variant.read)) :=
  (Decoders.distinct_of_nodup (by decide)).of_subset (List.map_subset _ h)

/-- Variants that read a value read what it spells. -/
theorem decodeStored_eq_ok_iff_spells (h : registered ⊆ Command.variants) {record : StoredCommand}
    {command : Envelope Command} :
    (Decoders.ofVariants registered).decodeStored record = .ok command ↔
      (∃ v ∈ registered, v.typeName = record.commandType) ∧
        typeName command.payload = record.commandType ∧ Spells record.payload command.payload ∧
        command = Decoders.replayed record command.payload := by
  rw [Decoders.decodeStored_eq_ok_iff (distinct_of_registered h)]
  constructor
  · rintro ⟨hc, v, hv, hn, hr⟩
    obtain ⟨ht, hs⟩ := spells_of_read (h hv) hr
    exact ⟨⟨v, hv, hn⟩, ht ▸ hn, hs, hc⟩
  · rintro ⟨⟨v, hv, hn⟩, ht, hs, hc⟩
    obtain ⟨v', hv', ht', hr⟩ := exists_read_of_spells hs
    -- Both have the name of the type, so they read in the same way.
    have hsame : (v.typeName, v.variant.read) = (v'.typeName, v'.variant.read) :=
      distinct_of_registered (List.Subset.refl _) _ (List.mem_map.2 ⟨v, h hv, rfl⟩) _
        (List.mem_map.2 ⟨v', hv', rfl⟩) (hn.trans (ht.symm.trans ht'.symm))
    exact ⟨hc, v, hv, hn, (Prod.mk.inj hsame).2 ▸ hr⟩

/-- Whichever types of commands are known, a record is decoded exactly if its type is among them and
its payload spells a command of this type, and what comes out is this command. All payloads that
spell a command are decoded alike, with the object that the command is written as among them. When a
record is not decoded this is a failure of the store. -/
theorem decodes_what_is_spelled (h : registered ⊆ Command.variants) (record : StoredCommand) :
    let decoders := Decoders.ofVariants registered
    (∀ command, decoders.decodeStored record = .ok command ↔
      (∃ v ∈ registered, v.typeName = record.commandType) ∧
        typeName command.payload = record.commandType ∧ Spells record.payload command.payload ∧
        command = Decoders.replayed record command.payload) ∧
    (∀ json payload, typeName payload = record.commandType → Spells record.payload payload →
      Spells json payload →
      decoders.decodeStored { record with payload := json } = decoders.decodeStored record) ∧
    (∀ command, decoders.decodeStored record = .ok command →
      payloadJson command.payload = .ok command.payload.canonical ∧
      decoders.decodeStored { record with payload := command.payload.canonical } = .ok command) ∧
    ∀ failure, decoders.decodeStored record = .error failure →
      ∃ message, failure = .store message := by
  intro decoders
  have halike (json : Json) (payload : Command) (ht : typeName payload = record.commandType)
      (hs : Spells record.payload payload) (hj : Spells json payload) :
      decoders.decodeStored { record with payload := json } = decoders.decodeStored record := by
    by_cases hv : ∃ v ∈ registered, v.typeName = record.commandType
    · have hd : decoders.decodeStored record = .ok (Decoders.replayed record payload) :=
        (decodeStored_eq_ok_iff_spells h).2 ⟨hv, ht, hs, rfl⟩
      rw [hd]
      exact (decodeStored_eq_ok_iff_spells h).2 ⟨hv, ht, hj, rfl⟩
    · have hunknown : ∀ v ∈ registered, v.typeName ≠ record.commandType := by simpa using hv
      rw [Decoders.decodeStored_of_unknown hunknown]
      exact Decoders.decodeStored_of_unknown hunknown
  refine ⟨fun command => decodeStored_eq_ok_iff_spells h, halike, fun command hd => ?_,
    fun failure => Decoders.exists_message_of_decodeStored⟩
  obtain ⟨-, ht, hs, -⟩ := (decodeStored_eq_ok_iff_spells h).1 hd
  refine ⟨congrArg Except.ok (json_eq_canonical command.payload), ?_⟩
  rw [halike _ _ ht hs (spells_canonical command.payload), hd]

/-- A deposit as the second command for account 4, with some payload. -/
def depositRecord (payload : Json) : StoredCommand where
  entityId := 4
  sequenceNo := 2
  commandName := "account.deposit"
  commandType := "account.deposit"
  payload := payload
  metadata := Metadata.new ⟨0⟩ .epoch
  recordedAt := .epoch

/-- An amount alone in a list is decoded like one in an object with a note beside it; neither the
number `5.0` nor one that is no word is an amount. -/
theorem decodes_what_is_spelled_of_deposits :
    let registered : List (AnyVariant Command) := [⟨Command.closeVariant⟩, ⟨Command.depositVariant⟩]
    let decoders := Decoders.ofVariants registered
    let command := Decoders.replayed (depositRecord .null) (.deposit ⟨5⟩)
    registered ⊆ Command.variants ∧
    decoders.decodeStored (depositRecord (.list [.int 5])) = .ok command ∧
    decoders.decodeStored (depositRecord (.record [("amount", .int 5), ("note", .text "gift")])) =
      .ok command ∧
    (∃ message, decoders.decodeStored (depositRecord (.list [.real ⟨0x4014000000000000⟩])) =
      .error (.store message)) ∧
    ∃ message, decoders.decodeStored (depositRecord (.record [("amount", .int 9223372036854775808)])) =
      .error (.store message) := by
  intro registered decoders command
  have h : registered ⊆ Command.variants := by
    intro v hv
    simp only [registered, List.mem_cons, List.not_mem_nil, or_false] at hv
    rcases hv with rfl | rfl <;> simp [Command.variants]
  have hregistered : ∃ v ∈ registered, v.typeName = "account.deposit" :=
    ⟨⟨Command.depositVariant⟩, by simp [registered], rfl⟩
  have hdecoded (json : Json) (hs : SpellsAmount 5 json) :
      decoders.decodeStored (depositRecord json) = .ok command :=
    ((decodes_what_is_spelled h (depositRecord json)).1 command).2 ⟨hregistered, rfl, hs, rfl⟩
  have hrefused (json : Json) (hs : ∀ amount, ¬ SpellsAmount amount json) :
      ∃ message, decoders.decodeStored (depositRecord json) = .error (.store message) := by
    obtain ⟨hiff, -, -, hstore⟩ := decodes_what_is_spelled h (depositRecord json)
    cases hd : decoders.decodeStored (depositRecord json) with
    | ok found =>
        obtain ⟨-, ht, hspelled, -⟩ := (hiff found).1 hd
        cases hp : found.payload with
        | deposit d => exact absurd (by rw [hp] at hspelled; exact hspelled) (hs d.amount)
        | _ => simp [hp, typeName, depositRecord] at ht
    | error failure =>
        obtain ⟨message, rfl⟩ := hstore failure hd
        exact ⟨message, rfl⟩
  refine ⟨h, hdecoded _ .list, hdecoded _ (.record rfl), hrefused _ ?_, hrefused _ ?_⟩
  · rintro amount ⟨⟩
  · rintro amount (ha | _)
    have hn : amount.toInt = 9223372036854775808 := by simpa using ha.symm
    have hlt := amount.toInt_lt
    omega

end Account

end EventSourcing
