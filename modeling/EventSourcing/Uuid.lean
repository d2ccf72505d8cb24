import EventSourcing.Text.Reader

/-!
# Identifiers of 128 bits

The text of an identifier has 32 lower-case hexadecimal digits in five groups. It is read in any
case, with or without its hyphens, in braces or as a URN. New identifiers are drawn from a source, one
after the other; which ones it gives is left to the source.
-/

namespace EventSourcing

structure Uuid where
  value : BitVec 128
  deriving DecidableEq

namespace Uuid

/-- The last `count` hexadecimal digits of a number, most significant first. -/
def hexDigits : (count : Nat) → Nat → List Char
  | 0, _ => []
  | count + 1, n => hexDigits count (n / 16) ++ [Nat.digitChar (n % 16)]

/-- The identifier written by 32 digits without hyphens. -/
def ofDigits? (cs : List Char) : Option Uuid :=
  if cs.length = 32 then
    (Text.hexNumber? cs).map fun n => ⟨BitVec.ofNat 128 n⟩
  else none

/-- Takes the hyphens out of a text in groups of 8, 4, 4, 4 and 12. -/
def ungroup? (cs : List Char) : Option (List Char) :=
  let (a, rest) := cs.splitAt 8
  match rest with
  | '-' :: rest =>
    let (b, rest) := rest.splitAt 4
    match rest with
    | '-' :: rest =>
      let (c, rest) := rest.splitAt 4
      match rest with
      | '-' :: rest =>
        let (d, rest) := rest.splitAt 4
        match rest with
        | '-' :: e => some (a ++ b ++ c ++ d ++ e)
        | _ => none
      | _ => none
    | _ => none
  | _ => none

def ofGrouped? (cs : List Char) : Option Uuid := (ungroup? cs).bind ofDigits?

/-- Reads an identifier in any of its spellings: plain, grouped, in braces, as a URN. The scheme of
a URN may be in any case. -/
def parse? (s : String) : Option Uuid :=
  let cs := s.toList
  if cs.length = 32 then ofDigits? cs
  else if cs.length = 36 then ofGrouped? cs
  else if cs.length = 38 ∧ cs.head? = some '\x7b' ∧ cs.getLast? = some '\x7d' then
    ofGrouped? (cs.drop 1).dropLast
  else if cs.length = 45 ∧ (cs.take 9).map Char.toLower = "urn:uuid:".toList then
    ofGrouped? (cs.drop 9)
  else none

/-- The text of an identifier, lower-case and in five groups. -/
def text (id : Uuid) : String :=
  let cs := hexDigits 32 id.value.toNat
  String.ofList (cs.take 8 ++ '-' :: (cs.drop 8).take 4 ++ '-' :: (cs.drop 12).take 4 ++
    '-' :: (cs.drop 16).take 4 ++ '-' :: cs.drop 20)

/-- The identifier number `n` of those with the layout of version 4: all bits are free but the
four of the version and the two of the variant. -/
def ofSerial (n : Nat) : Uuid where
  value := BitVec.ofNat 48 (n >>> 74) ++ 4#4 ++ BitVec.ofNat 12 (n >>> 62) ++ 2#2 ++
    BitVec.ofNat 62 n

end Uuid

/-- Where new identifiers come from: the ones it gives, in order, and how many of them were drawn. -/
structure IdSource where
  nth : Nat → Uuid := Uuid.ofSerial
  drawn : Nat := 0
  deriving Inhabited

def IdSource.draw (source : IdSource) : Uuid × IdSource :=
  (source.nth source.drawn, { source with drawn := source.drawn + 1 })

end EventSourcing
