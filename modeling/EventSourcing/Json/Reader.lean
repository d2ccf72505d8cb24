import EventSourcing.Json.Basic
import EventSourcing.Text.Reader

/-!
# Reading JSON text

A number without fraction and exponent is a whole number as long as it fits into 64 bits, with a
sign or without; `-0` is none. Every other number is a floating point number: the digits that fit
into 64 bits, multiplied or divided by a power of ten, each of the three rounded to nearest.
-/

namespace EventSourcing.Json

open Text (Reader)

def isGap (c : Char) : Bool := c == ' ' || c == '\n' || c == '\t' || c == '\r'

def gap : Reader Unit := modify fun cs => cs.dropWhile isGap

/-! ## Strings -/

def escape? : Char → Option Char
  | '"' => some '"'
  | '\\' => some '\\'
  | '/' => some '/'
  | 'b' => some '\x08'
  | 'f' => some '\x0c'
  | 'n' => some '\n'
  | 'r' => some '\r'
  | 't' => some '\t'
  | _ => none

/-- The character beyond the first plane that a pair of code units stands for. -/
def ofPair? (high low : Nat) : Option Char :=
  if 0xDC00 ≤ low ∧ low < 0xE000 then
    some (Char.ofNat (0x10000 + 0x400 * (high - 0xD800) + (low - 0xDC00)))
  else none

/-- Reads a string up to its closing quote; `read` is what was read of it, latest first. -/
def readString (read : List Char) : List Char → Option (String × List Char)
  | [] => none
  | '"' :: rest => some (String.ofList read.reverse, rest)
  | '\\' :: 'u' :: a :: b :: c :: d :: rest => do
    let unit ← Text.hexNumber? [a, b, c, d]
    if 0xD800 ≤ unit ∧ unit < 0xDC00 then
      match rest with
      | '\\' :: 'u' :: e :: f :: g :: h :: rest => do
        let low ← Text.hexNumber? [e, f, g, h]
        let c ← ofPair? unit low
        readString (c :: read) rest
      | _ => none
    else if 0xDC00 ≤ unit ∧ unit < 0xE000 then none
    else readString (Char.ofNat unit :: read) rest
  | '\\' :: c :: rest => do
    let c ← escape? c
    readString (c :: read) rest
  | c :: rest => if c.toNat < 0x20 then none else readString (c :: read) rest

/-! ## Numbers -/

structure NumberText where
  negative : Bool
  whole : List Char
  fraction : Option (List Char)
  exponent : Option Int

/-- Reads some digits, at least one. -/
def someDigits : Reader (List Char) := do
  let digits ← Text.digits
  if digits.isEmpty then failure else pure digits

def readNumber : Reader NumberText := do
  let sign ← Text.oneOf? ['-']
  let whole ← someDigits
  if whole.length ≠ 1 ∧ whole.head? = some '0' then failure
  let fraction ← match ← Text.oneOf? ['.'] with
    | some _ => some <$> someDigits
    | none => pure none
  let exponent ← match ← Text.oneOf? ['e', 'E'] with
    | some _ => do
      let sign ← Text.oneOf? ['+', '-']
      let digits ← someDigits
      let n : Int := Text.decimalNumber digits
      pure (some (if sign = some '-' then -n else n))
    | none => pure none
  pure ⟨sign.isSome, whole, fraction, exponent⟩

/-- Adds digits to a number for as long as it fits into 64 bits, and gives those that are left. -/
def takeDigits (n : Nat) : List Char → Nat × List Char
  | [] => (n, [])
  | c :: cs =>
    let next := 10 * n + (c.toNat - '0'.toNat)
    if next < 0x10000000000000000 then takeDigits next cs else (n, c :: cs)

/-- The greatest exponent of a power of ten that is a finite floating point number. -/
def maxPower : Nat := 308

def power (exponent : Nat) : Float := Float.ofScientific 1 false exponent

/-- A number times a power of ten, if it is finite. -/
def scaled? (x : Float) (exponent : Int) : Option Float :=
  if x == 0.0 then some x
  else if exponent < -maxPower then scaled? (x / power maxPower) (exponent + maxPower)
  else if exponent < 0 then some (x / power exponent.natAbs)
  else if exponent ≤ maxPower then
    let y := x * power exponent.natAbs
    if y.isFinite then some y else none
  else none
termination_by exponent.natAbs
decreasing_by simp only [maxPower] at *; omega

/-- The floating point number with a sign, some digits and an exponent. -/
def real? (negative : Bool) (n : Nat) (exponent : Int) : Option Json :=
  (scaled? n.toUInt64.toFloat exponent).map fun x =>
    .real ⟨(if negative then -x else x).toBits⟩

def NumberText.value? (number : NumberText) : Option Json :=
  let (n, left) := takeDigits 0 number.whole
  match number.fraction, number.exponent, left with
  | none, none, [] =>
    if !number.negative then some (.int n)
    else if n = 0 ∨ 0x8000000000000000 < n then real? true n 0
    else some (.int (-n))
  | fraction, exponent, left =>
    let digits := fraction.getD []
    let (n, dropped) := takeDigits n digits
    let places : Int := digits.length - dropped.length
    real? number.negative n (left.length - places + exponent.getD 0)

/-! ## Values -/

mutual

def readValue : (fuel : Nat) → Reader Json
  | 0 => failure
  | fuel + 1 => do
    gap
    let value ← match ← get with
      | 'n' :: _ => do Text.word "null"; pure .null
      | 't' :: _ => do Text.word "true"; pure (.bool true)
      | 'f' :: _ => do Text.word "false"; pure (.bool false)
      | '"' :: rest => do
        set rest
        text <$> readString []
      | '[' :: rest => do
        set rest
        gap
        match ← Text.oneOf? [']'] with
        | some _ => pure (.list [])
        | none => list <$> readItems fuel
      | '\x7b' :: rest => do
        set rest
        gap
        match ← Text.oneOf? ['\x7d'] with
        | some _ => pure (.record [])
        | none => object <$> readFields fuel
      | _ => do
        let number ← readNumber
        match number.value? with
        | some value => pure value
        | none => failure
    gap
    pure value

def readItems : (fuel : Nat) → Reader (List Json)
  | 0 => failure
  | fuel + 1 => do
    let item ← readValue fuel
    match ← Text.oneOf? [',', ']'] with
    | some ',' => do
      let items ← readItems fuel
      pure (item :: items)
    | some _ => pure [item]
    | none => failure

def readFields : (fuel : Nat) → Reader (List (String × Json))
  | 0 => failure
  | fuel + 1 => do
    gap
    Text.char '"'
    let key ← readString []
    gap
    Text.char ':'
    let value ← readValue fuel
    match ← Text.oneOf? [',', '\x7d'] with
    | some ',' => do
      let fields ← readFields fuel
      pure ((key, value) :: fields)
    | some _ => pure [(key, value)]
    | none => failure

end

/-- Reads a text that is one value. Reading a value within a list or an object takes at least one
character off the text for every two calls. -/
def parse? (s : String) : Option Json :=
  let cs := s.toList
  match readValue (2 * cs.length + 2) cs with
  | some (value, []) => some value
  | _ => none

end EventSourcing.Json
