import EventSourcing.Text.Pattern
import EventSourcing.Text.Pattern.Mode

/-!
# Atoms of patterns

The smallest parts of a pattern, and those that are written with a backslash.
-/

namespace EventSourcing.Text.Pattern

inductive Atom where
  | char (c : Char)
  | set (set : CharSet)
  | boundary (edge : Edge)

def nextChars (mode : Mode) : Nat → Reader (List Char)
  | 0 => pure []
  | count + 1 => do
    skip mode
    let c ← found (← next?)
    return c :: (← nextChars mode count)

def charOfCode? (code : Nat) : Option Char :=
  if code < 0xD800 ∨ 0xDFFF < code ∧ code < 0x110000 then some (Char.ofNat code) else none

/-- Reads the character with a code point of some hexadecimal digits. Two digits stand for a byte,
which is a character of its own only in ASCII or if all characters count. -/
def coded (mode : Mode) (digits : Nat) : Reader Atom := do
  let code ← found (hexNumber? (← nextChars mode digits))
  if digits == 2 && !mode.wide && 0x80 ≤ code then failure
  Atom.char <$> found (charOfCode? code)

def escape (mode : Mode) : Reader Atom := do
  match ← found (← next?) with
  | 'x' => coded mode 2
  | 'u' => coded mode 4
  | 'U' => coded mode 8
  | 'd' => Atom.set <$> found (mode.letterSet? CharSet.digits)
  | 's' => Atom.set <$> found (mode.letterSet? CharSet.asciiBlanks)
  | 'w' => Atom.set <$> found (mode.letterSet? CharSet.asciiWord)
  | 'a' => return .char '\x07'
  | 'f' => return .char '\x0c'
  | 't' => return .char '\t'
  | 'n' => return .char '\n'
  | 'r' => return .char '\r'
  | 'v' => return .char '\x0b'
  | 'A' => return .boundary .textStart
  | 'z' => return .boundary .textEnd
  | 'b' => return .boundary .wordEdge
  | 'B' => return .boundary .noWordEdge
  | '<' => return .boundary .wordStart
  | '>' => return .boundary .wordEnd
  | c => if c.toNat < 0x80 && !c.isAlphanum then return .char c else failure

end EventSourcing.Text.Pattern
