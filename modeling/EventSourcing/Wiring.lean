import EventSourcing.CommandBus

/-!
# Wiring a runtime

A runtime is wired from parts that may be listed in any order: all views stand behind one event
queue, which every saga gets, and commands go to the sagas first and to the other subscribers after
them.
-/

namespace EventSourcing

inductive Part (m : Type → Type) (C E : Type) where
  | clock (now : Instant)
  | decoder (typeName : String) (read : Json → Except Mismatch C)
  | view (subscriber : Subscriber m E)
  | saga (build : EventQueue m E → Subscriber m C)
  | subscriber (subscriber : Subscriber m C)

def Part.ofVariant {m : Type → Type} {C E V : Type} [JsonForm V] (variant : Variant C V) :
    Part m C E :=
  .decoder variant.typeName variant.read

structure Wiring (m : Type → Type) (C E : Type) where
  store : CommandStore m
  gate : Gate m
  now : Instant
  decoders : Decoders C := {}
  views : List (Subscriber m E) := []
  sagas : List (EventQueue m E → Subscriber m C) := []
  subscribers : List (Subscriber m C) := []

structure Runtime (m : Type → Type) (C E : Type) where
  bus : CommandBus m C
  events : EventQueue m E

namespace Wiring

variable {σ : Type} {m : Type → Type} [Host σ m] {C E : Type}

def add (wiring : Wiring m C E) : Part m C E → Wiring m C E
  | .clock now => { wiring with now }
  | .decoder name read => { wiring with decoders := ⟨wiring.decoders.entries.insert name read⟩ }
  | .view subscriber => { wiring with views := wiring.views ++ [subscriber] }
  | .saga build => { wiring with sagas := wiring.sagas ++ [build] }
  | .subscriber subscriber => { wiring with subscribers := wiring.subscribers ++ [subscriber] }

def addAll (wiring : Wiring m C E) (parts : List (Part m C E)) : Wiring m C E :=
  parts.foldl add wiring

def events (wiring : Wiring m C E) : EventQueue m E := .ofSubscribers wiring.views

/-- The subscribers of commands, the sagas first. -/
def commandSubscribers (wiring : Wiring m C E) : List (Subscriber m C) :=
  wiring.sagas.map (fun build => build wiring.events) ++ wiring.subscribers

def runtime (wiring : Wiring m C E) : Runtime m C E where
  bus :=
    { store := wiring.store
      dispatcher := ⟨.commands, wiring.commandSubscribers⟩
      decoders := wiring.decoders
      now := wiring.now
      gate := wiring.gate }
  events := wiring.events

def build (wiring : Wiring m C E) : m (Runtime m C E) := do
  Host.emit <| .event .debug "eventline_runtime::builder"
    [("command_subscribers", wiring.commandSubscribers.length),
      ("replayable_types", wiring.decoders.size)]
    "runtime wired"
  pure wiring.runtime

end Wiring

end EventSourcing
