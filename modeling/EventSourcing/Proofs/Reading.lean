import EventSourcing.Proofs.Account.Payloads
import Mathlib.Data.List.Induction
import Mathlib.Data.List.Nodup

/-!
# Reading records back

Each variant that was registered reads the payloads under the name of its type, so a record gives
back the command that was recorded.
-/

namespace EventSourcing

/-! ## Decoders -/

namespace Decoders

variable {C : Type}

/-- A record is decoded by what is there under the name of its type. -/
theorem read_payload_of_decodeStored {decoders : Decoders C} {record : StoredCommand}
    {command : Envelope C} (h : decoders.decodeStored record = .ok command) :
    command = replayed record command.payload ∧
      ∃ read, decoders.entries[record.commandType]? = some read ∧
        read record.payload = .ok command.payload := by
  unfold decodeStored decode at h
  split at h
  · rename_i hd
    cases h
    split at hd
    · cases hd
    rename_i read hread
    split at hd
    · cases hd
    rename_i hp
    cases hd
    exact ⟨rfl, read, hread, hp⟩
  · cases h

/-- What is decoded is always one of a replay, in the place of its record. -/
theorem eq_replayed_of_decodeStored {decoders : Decoders C} {record : StoredCommand}
    {command : Envelope C} (h : decoders.decodeStored record = .ok command) :
    command = replayed record command.payload := (read_payload_of_decodeStored h).1

/-- The decoders with others added, of which each takes the place of one with its name. -/
def insertAll (decoders : Decoders C) (readers : List (String × (Json → Except Mismatch C))) :
    Decoders C :=
  readers.foldl (fun decoders d => ⟨decoders.entries.insert d.1 d.2⟩) decoders

section

variable {decoders : Decoders C} {readers : List (String × (Json → Except Mismatch C))}
  {name : String} {read : Json → Except Mismatch C}

theorem insertAll_concat (decoders : Decoders C)
    (readers : List (String × (Json → Except Mismatch C)))
    (d : String × (Json → Except Mismatch C)) :
    decoders.insertAll (readers ++ [d]) = ⟨(decoders.insertAll readers).entries.insert d.1 d.2⟩ := by
  simp [insertAll]

theorem mem_of_getElem?_insertAll (h : (decoders.insertAll readers).entries[name]? = some read) :
    (name, read) ∈ readers ∨ decoders.entries[name]? = some read := by
  induction readers using List.reverseRecOn with
  | nil => exact .inr h
  | append_singleton front d ih =>
      rw [insertAll_concat, Std.ExtTreeMap.getElem?_insert] at h
      split at h
      · rename_i hn
        simp at hn h
        simp [← hn, ← h]
      · exact (ih h).imp_left (List.mem_append_left _)

/-- No name is given to two decoders; the same decoder may be there more than once. -/
def Distinct (readers : List (String × (Json → Except Mismatch C))) : Prop :=
  ∀ d ∈ readers, ∀ d' ∈ readers, d.1 = d'.1 → d = d'

theorem distinct_of_nodup (h : (readers.map Prod.fst).Nodup) : Distinct readers :=
  fun _ hd _ hd' => List.inj_on_of_nodup_map h hd hd'

theorem getElem?_insertAll_of_mem (h : Distinct readers) (hm : (name, read) ∈ readers) :
    (decoders.insertAll readers).entries[name]? = some read := by
  induction readers using List.reverseRecOn with
  | nil => cases hm
  | append_singleton front d ih =>
      have hfront : Distinct front := fun a ha b hb =>
        h a (List.mem_append_left _ ha) b (List.mem_append_left _ hb)
      rw [insertAll_concat, Std.ExtTreeMap.getElem?_insert]
      split
      · rename_i hn
        simp at hn
        rw [h d (by simp) (name, read) hm hn]
      · rename_i hn
        rcases List.mem_append.1 hm with hm | hm
        · exact ih hfront hm
        · rw [← List.mem_singleton.1 hm] at hn
          simp at hn

end

theorem ofVariants_eq (variants : List (AnyVariant C)) :
    ofVariants variants = insertAll {} (variants.map fun v => (v.typeName, v.variant.read)) := by
  rw [insertAll, List.foldl_map]
  rfl

/-- Among variants with different names each is found under its own. -/
theorem entries_ofVariants {variants : List (AnyVariant C)}
    (h : Distinct (variants.map fun v => (v.typeName, v.variant.read))) {v : AnyVariant C}
    (hv : v ∈ variants) : (ofVariants variants).entries[v.typeName]? = some v.variant.read := by
  rw [ofVariants_eq]
  exact getElem?_insertAll_of_mem h (List.mem_map.2 ⟨v, hv, rfl⟩)

theorem exists_variant_of_entries {variants : List (AnyVariant C)} {name : String}
    {read : Json → Except Mismatch C} (h : (ofVariants variants).entries[name]? = some read) :
    ∃ v ∈ variants, v.typeName = name ∧ v.variant.read = read := by
  rw [ofVariants_eq] at h
  rcases mem_of_getElem?_insertAll h with hm | hnone
  · obtain ⟨v, hv, he⟩ := List.mem_map.1 hm
    exact ⟨v, hv, Prod.mk.inj he⟩
  · simp at hnone

/-- What is decoded was read by the variant under the type of its record. -/
theorem read_of_decodeStored {variants : List (AnyVariant C)} {record : StoredCommand}
    {command : Envelope C} (h : (ofVariants variants).decodeStored record = .ok command) :
    ∃ v ∈ variants, v.typeName = record.commandType ∧
      v.variant.read record.payload = .ok command.payload := by
  obtain ⟨-, read, hread, hp⟩ := read_payload_of_decodeStored h
  obtain ⟨v, hv, hn, rfl⟩ := exists_variant_of_entries hread
  exact ⟨v, hv, hn, hp⟩

variable [PayloadKind C]

/-- All payloads are read back as they were written. -/
def ReadBack (decoders : Decoders C) : Prop :=
  ∀ payload : C, ∃ json read, payloadJson payload = .ok json ∧
    decoders.entries[typeName payload]? = some read ∧ read json = .ok payload

/-- A record gives back its command, as one of a replay. -/
theorem ReadBack.decodeStored_ofCommand {decoders : Decoders C} (h : decoders.ReadBack)
    {command : Envelope C} {now : Instant} {record : StoredCommand}
    (hw : StoredCommand.ofCommand command now = .ok record) :
    decoders.decodeStored record = .ok (replayed record command.payload) := by
  obtain ⟨json, hj, rfl⟩ := StoredCommand.exists_payload_of_ofCommand hw
  obtain ⟨json', read, hj', hn, hr⟩ := h command.payload
  obtain rfl := Except.ok.inj (hj.symm.trans hj')
  simp only [decodeStored, decode, StoredCommand.holding, Envelope.payloadType, hn, hr]

end Decoders

/-! ## Commands for accounts -/

namespace Account

def Knows (decoders : Decoders Command) : Prop :=
  ∀ v ∈ Command.variants, decoders.entries[v.typeName]? = some v.variant.read

theorem knows_commandDecoders : Knows commandDecoders := fun _ =>
  Decoders.entries_ofVariants (Decoders.distinct_of_nodup (by decide))

/-- All decoders that know the commands read a record in the same way. -/
theorem Knows.decodeStored {decoders : Decoders Command} (h : Knows decoders)
    {record : StoredCommand} {command : Envelope Command}
    (hc : commandDecoders.decodeStored record = .ok command) :
    decoders.decodeStored record = .ok command := by
  obtain ⟨v, hv, hn, hr⟩ := Decoders.read_of_decodeStored hc
  simp only [Decoders.decodeStored, Decoders.decode, ← hn, h v hv, hr]
  rw [← Decoders.eq_replayed_of_decodeStored hc]

theorem Knows.readBack {decoders : Decoders Command} (h : Knows decoders) : decoders.ReadBack := by
  intro payload
  obtain ⟨v, hv, hn, hr⟩ := exists_read_of_spells (spells_canonical payload)
  exact ⟨payload.json, v.variant.read, rfl, hn ▸ h v hv, json_eq_canonical payload ▸ hr⟩

/-- What a log keeps of a command for an account; these can always be written. -/
def entry (command : Envelope Command) (now : Instant) : StoredCommand :=
  .holding command command.payload.json now

theorem ofCommand_eq (command : Envelope Command) (now : Instant) :
    StoredCommand.ofCommand command now = .ok (entry command now) := rfl

theorem eq_entry {command : Envelope Command} {now : Instant} {record : StoredCommand}
    (hw : StoredCommand.ofCommand command now = .ok record) : record = entry command now :=
  (Except.ok.inj hw).symm

theorem Knows.decodeStored_entry {decoders : Decoders Command} (h : Knows decoders)
    (command : Envelope Command) (now : Instant) :
    decoders.decodeStored (entry command now) =
      .ok (Decoders.replayed (entry command now) command.payload) :=
  h.readBack.decodeStored_ofCommand (ofCommand_eq command now)

theorem payloadType_of_decodeStored {record : StoredCommand} {command : Envelope Command}
    (h : commandDecoders.decodeStored record = .ok command) :
    command.payloadType = record.commandType := by
  obtain ⟨v, hv, hn, hr⟩ := Decoders.read_of_decodeStored h
  rw [← hn, (spells_of_read hv hr).1, Envelope.payloadType]

end Account

end EventSourcing
