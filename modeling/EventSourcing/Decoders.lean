import EventSourcing.StoredCommand
import Std.Data.ExtTreeMap

/-!
# Decoding stored commands

A stored command is decoded by the variant that is registered under the name of its type. The
command that comes out is one of a replay, at the place of its record in the history.
-/

namespace EventSourcing

/-- How payloads are read, by the name of their type. -/
structure Decoders (C : Type) where
  entries : Std.ExtTreeMap String (Json → Except Mismatch C) := ∅

inductive DecodeFault where
  | unknownType (commandType : String)
  | misfit (record : StoredCommand) (cause : Mismatch)
  deriving DecidableEq

def DecodeFault.message : DecodeFault → String
  | .unknownType commandType => s!"no decoder registered for command type {commandType}"
  | .misfit record cause =>
    s!"failed to decode {record.commandType} #{Word.text record.sequenceNo} for entity " ++
      s!"{Word.text record.entityId}: {cause.message}"

namespace Decoders

variable {C : Type}

/-- Registers a variant; it takes the place of another with the same name. -/
def register {V : Type} [JsonForm V] (decoders : Decoders C) (variant : Variant C V) :
    Decoders C :=
  ⟨decoders.entries.insert variant.typeName variant.read⟩

def ofVariants (variants : List (AnyVariant C)) : Decoders C :=
  variants.foldl (fun decoders v => decoders.register v.variant) {}

def size (decoders : Decoders C) : Nat := decoders.entries.size

def replayed (record : StoredCommand) (payload : C) : Envelope C where
  name := record.commandName
  metadata := { record.metadata with sequenceNo := record.sequenceNo, isReplay := true }
  entity := ⟨record.entityId, record.sequenceNo = 1⟩
  payload := payload

def decode (decoders : Decoders C) (record : StoredCommand) : Except DecodeFault (Envelope C) :=
  match decoders.entries[record.commandType]? with
  | none => .error (.unknownType record.commandType)
  | some read =>
    match read record.payload with
    | .error cause => .error (.misfit record cause)
    | .ok payload => .ok (replayed record payload)

/-- Decodes a record; a failure is one of the store. -/
def decodeStored (decoders : Decoders C) (record : StoredCommand) :
    Except DomainError (Envelope C) :=
  match decoders.decode record with
  | .ok command => .ok command
  | .error fault => .error (.store fault.message)

end Decoders

end EventSourcing
