import EventSourcing.Account.Books
import EventSourcing.Proofs.FanOuts
import EventSourcing.Proofs.Publishing
import EventSourcing.Proofs.Reading
import EventSourcing.Proofs.Rehearsals

/-!
# Parts in any order

A runtime is made of the parts that it is wired from, not of the order in which they are listed: what
counts is the order among the views, among the sagas and among the other subscribers, the last clock,
and which types of commands can be decoded.
-/

namespace EventSourcing

open EventSourcing.Sequential

/-! ## Parts by kind -/

namespace Part

variable {m : Type → Type} {C E : Type}

def clock? : Part m C E → Option Instant
  | .clock now => some now
  | _ => none

def decoder? : Part m C E → Option (String × (Json → Except Mismatch C))
  | .decoder typeName read => some (typeName, read)
  | _ => none

def view? : Part m C E → Option (Subscriber m E)
  | .view viewer => some viewer
  | _ => none

def saga? : Part m C E → Option (EventQueue m E → Subscriber m C)
  | .saga build => some build
  | _ => none

def subscriber? : Part m C E → Option (Subscriber m C)
  | .subscriber other => some other
  | _ => none

end Part

/-! ## Decoders -/

namespace Decoders

variable {C : Type}

end Decoders

/-! ## Wirings -/

namespace Wiring

variable {m : Type → Type} {C E : Type}

theorem addAll_cons (wiring : Wiring m C E) (part : Part m C E) (parts : List (Part m C E)) :
    wiring.addAll (part :: parts) = (wiring.add part).addAll parts := rfl

/-- What a wiring is made of, kind by kind. -/
theorem addAll_eq (wiring : Wiring m C E) (parts : List (Part m C E)) :
    wiring.addAll parts =
      { store := wiring.store
        gate := wiring.gate
        now := (parts.filterMap Part.clock?).getLast?.getD wiring.now
        decoders := wiring.decoders.insertAll (parts.filterMap Part.decoder?)
        views := wiring.views ++ parts.filterMap Part.view?
        sagas := wiring.sagas ++ parts.filterMap Part.saga?
        subscribers := wiring.subscribers ++ parts.filterMap Part.subscriber? } := by
  induction parts generalizing wiring with
  | nil => simp [addAll, Decoders.insertAll]
  | cons part parts ih =>
      rw [addAll_cons, ih]
      cases part with
      | clock | decoder | view | saga | subscriber =>
          simp [add, Part.clock?, Part.decoder?, Part.view?, Part.saga?, Part.subscriber?,
            Decoders.insertAll, List.getLast?_cons, List.filterMap_cons]

/-- A wiring over a store at a time, which is the one that counts if there is no clock among the
parts. -/
def ofParts (store : CommandStore m) (gate : Gate m) (now : Instant) (parts : List (Part m C E)) :
    Wiring m C E :=
  addAll { store, gate, now } parts

theorem subscribers_runtime (store : CommandStore m) (gate : Gate m) (now : Instant)
    (parts : List (Part m C E)) :
    (ofParts store gate now parts).runtime.bus.dispatcher.subscribers =
      (parts.filterMap Part.saga?).map (fun build => build (.ofSubscribers (parts.filterMap Part.view?)))
        ++ parts.filterMap Part.subscriber? := by
  simp [ofParts, addAll_eq, runtime, commandSubscribers, events]

variable {σ : Type} [Host σ m] [PayloadKind C] [PayloadKind E]

open AccountService (decoderParts)

end Wiring

end EventSourcing
