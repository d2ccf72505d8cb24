import EventSourcing.Json.Basic
import EventSourcing.Text.Quoted

/-!
# The compact text of a JSON value

No blank outside strings; in a string the quote, the backslash and the control characters are
escaped and every other character stands for itself.
-/

namespace EventSourcing.Json

def hexPair (n : Nat) : String :=
  String.ofList [Nat.digitChar (n / 16), Nat.digitChar (n % 16)]

def escapedChar (c : Char) : String :=
  if c = '"' then "\\\""
  else if c = '\\' then "\\\\"
  else if c = '\x08' then "\\b"
  else if c = '\x0c' then "\\f"
  else if c = '\n' then "\\n"
  else if c = '\r' then "\\r"
  else if c = '\t' then "\\t"
  else if c.toNat < 0x20 then "\\u00" ++ hexPair c.toNat
  else String.singleton c

def escaped (s : String) : String :=
  "\"" ++ String.join (s.toList.map escapedChar) ++ "\""

def commaSeparated (texts : List String) : String := ",".intercalate texts

mutual

def compact : Json → String
  | .null => "null"
  | .bool value => if value then "true" else "false"
  | .int value => toString value
  | .real value => value.text
  | .text value => escaped value
  | .list items => "[" ++ commaSeparated (compactItems items) ++ "]"
  | .record fields => "\x7b" ++ commaSeparated (compactFields fields) ++ "\x7d"

def compactItems : List Json → List String
  | [] => []
  | item :: items => compact item :: compactItems items

def compactFields : List (String × Json) → List String
  | [] => []
  | (key, value) :: fields => (escaped key ++ ":" ++ compact value) :: compactFields fields

end

end EventSourcing.Json
