import EventSourcing.Account.Command
import EventSourcing.Account.Event
import EventSourcing.Decoders

/-!
# The types of account payloads

All types of commands and events by their names.
-/

namespace EventSourcing.Account

def commandDecoders : Decoders Command := .ofVariants Command.variants

def eventDecoders : Decoders Event := .ofVariants Event.variants

end EventSourcing.Account
