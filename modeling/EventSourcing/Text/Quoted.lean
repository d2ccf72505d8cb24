import EventSourcing.Text.Blank
import EventSourcing.Text.Hidden
import EventSourcing.Text.Marks

/-!
# Quoted text

A text between double quotes, with a backslash before quote and backslash, letters for the common
controls, and a code point in braces for every mark and every character without a visible shape.
-/

namespace EventSourcing.Text

def hexadecimal (n : Nat) : String := String.ofList (Nat.toDigits 16 n)

def quotedChar (c : Char) : String :=
  if c = '"' then "\\\""
  else if c = '\\' then "\\\\"
  else if c = '\x00' then "\\0"
  else if c = '\t' then "\\t"
  else if c = '\r' then "\\r"
  else if c = '\n' then "\\n"
  else if inRanges markRanges c.toNat || inRanges hiddenRanges c.toNat then
    "\\u\x7b" ++ hexadecimal c.toNat ++ "\x7d"
  else String.singleton c

def quoted (s : String) : String :=
  "\"" ++ String.join (s.toList.map quotedChar) ++ "\""

/-- Letters stand for the common controls. -/
example : quoted "a\t\"\\" = "\"a\\t\\\"\\\\\"" := by decide +kernel

/-- A mark does not join the quote before it. -/
example : quoted "\u0301é" = "\"\\u\x7b301\x7dé\"" := by decide +kernel

end EventSourcing.Text
