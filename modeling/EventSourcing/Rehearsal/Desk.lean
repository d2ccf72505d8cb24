import EventSourcing.LockTable

/-!
# The ticket desk

A table of locks with the tickets that are out under labels: those that hold their locks and those
that wait, the latter in the order in which they came.
-/

namespace EventSourcing

structure Desk where
  table : LockTable := {}
  held : List (String × Ticket) := []
  waiting : List (String × Ticket) := []

namespace Desk

/-- Some labelled tickets without those of a label. -/
def without (label : String) (tickets : List (String × Ticket)) : List (String × Ticket) :=
  tickets.filter fun t => t.1 != label

/-- Keeps a ticket that holds its lock; an older one with the same label is given back. -/
def keep (desk : Desk) (label : String) (ticket : Ticket) : Desk :=
  let table := match desk.held.lookup label with
    | some older => desk.table.giveBack older
    | none => desk.table
  { desk with table, held := without label desk.held ++ [(label, ticket)] }

/-- Gives back the ticket with a label that holds its lock, if there is one. -/
def giveBack (desk : Desk) (label : String) : Desk :=
  match desk.held.lookup label with
  | some ticket =>
    { desk with table := desk.table.giveBack ticket, held := without label desk.held }
  | none => desk

/-- Gives back the tickets with a label, those that wait as well. -/
def release (desk : Desk) (label : String) : Desk :=
  let desk := desk.giveBack label
  let givenUp := desk.waiting.filter fun t => t.1 == label
  { desk with
    table := givenUp.foldl (fun table t => table.giveBack t.2) desk.table
    waiting := without label desk.waiting }

/-- Takes a ticket for an entity, which waits until it is tried. -/
def acquire (desk : Desk) (label : String) (entity : Int64) : Desk :=
  let (ticket, table) := desk.table.take entity
  { desk with table, waiting := desk.waiting ++ [(label, ticket)] }

/-- Takes a ticket for an entity without waiting; it is given back at once unless it holds its lock
and is to be kept. -/
def grab (desk : Desk) (label : String) (hold : Bool) (entity : Int64) : Desk :=
  let (ticket, table) := desk.table.take entity
  if hold && table.holds ticket then { desk with table }.keep label ticket
  else { desk with table := table.giveBack ticket }

/-- Tries some of the waiting tickets in order, and gives the labels of those that hold now. -/
def tryAll (desk : Desk) : List (String × Ticket) → List String × Desk
  | [] => ([], desk)
  | (label, ticket) :: rest =>
    if desk.table.holds ticket then
      let waiting := desk.waiting.filter fun w => w.2.serial != ticket.serial
      let (granted, desk) := ({ desk with waiting }.keep label ticket).tryAll rest
      (label :: granted, desk)
    else desk.tryAll rest

/-- Tries all waiting tickets in the order in which they came. -/
def grant (desk : Desk) : List String × Desk := desk.tryAll desk.waiting

/-- The label of the ticket of an entity in a range of them. -/
def rangeLabel (label : String) (entity : Int64) : String := label ++ Word.text entity

/-- The entities of a range, both ends included. -/
def range (first last : Int64) : List Int64 :=
  let count := (last.toInt - first.toInt + 1).toNat
  (List.range count).map fun (i : Nat) => Int64.ofInt (first.toInt + i)

/-- Takes tickets for all entities of a range, as `grab` does. -/
def grabRange (desk : Desk) (label : String) (hold : Bool) (first last : Int64) : Desk :=
  (range first last).foldl (fun desk id => desk.grab (rangeLabel label id) hold id) desk

/-- Gives back the tickets of a range that hold their locks. -/
def releaseRange (desk : Desk) (label : String) (first last : Int64) : Desk :=
  (range first last).foldl (fun desk id => desk.giveBack (rangeLabel label id)) desk

end Desk

end EventSourcing
