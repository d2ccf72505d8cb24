import EventSourcing.Text.Alphanumeric
import EventSourcing.Text.Blank
import EventSourcing.Text.Bytes
import EventSourcing.Text.Pattern.Reader
import EventSourcing.Text.Reader
import EventSourcing.Trace

/-!
# Directives of log filters

A directive sets a level for a subject: a part of the program, the spans with a name, what has a
field, perhaps with a certain value, or several of these at once. It is written as
`part[span{field=value}]=level`; what does not matter is left out.
-/

namespace EventSourcing.Logging

/-- The most verbose level that is let through; none lets nothing through. -/
abbrev Ceiling := Option Trace.Level

/-- What the value of a field has to be. -/
inductive Condition where
  | flag (value : Bool)
  | number (value : Int)
  /-- A number that is not written as a whole number; no field of a span is one. -/
  | decimal (text : String)
  /-- A text that fits a pattern, which is kept as it was written, too. -/
  | text (written : String) (pattern : Text.Pattern)
  deriving DecidableEq

/-- A value is as it has to be. -/
def Condition.holdsOf : Condition → Trace.Value → Bool
  | flag expected, .flag value => value == expected
  | number expected, .number value => value == expected
  | text _ pattern, .text value => pattern.fits value
  | _, _ => false

/-- What a directive is about; what is absent does not matter. -/
structure Subject where
  /-- The start of the name of a part of the program. -/
  target : Option String := none
  span : Option String := none
  /-- A field and what its value has to be. -/
  field : Option (String × Option Condition) := none
  deriving DecidableEq

structure Directive where
  subject : Subject
  ceiling : Ceiling
  deriving DecidableEq

inductive FilterFault where
  | directive
  | level
  /-- What a value has to be is said by a pattern that cannot be used. -/
  | field (fault : Text.Pattern.Fault)
  deriving DecidableEq

def FilterFault.message : FilterFault → String
  | .directive => "invalid filter directive"
  | .level =>
    "error parsing level filter: expected one of \"off\", \"error\", \"warn\", \"info\", " ++
      "\"debug\", \"trace\", or a number 0-5"
  | .field .unreadable => "invalid field filter: error building NFA"
  | .field .wideWordEdge =>
    "invalid field filter: unsupported regex feature for DFAs: cannot build DFAs for regexes " ++
      "with Unicode word boundaries; switch to ASCII word boundaries, or heuristically enable " ++
      "Unicode word boundaries or use a different regex engine"

/-! ## Levels -/

namespace Ceiling

/-- The place of a ceiling: that of its level, and 0 for none. -/
def verbosity : Ceiling → Nat
  | some level => level.verbosity
  | none => 0

def admits (ceiling : Ceiling) (level : Trace.Level) : Bool :=
  level.verbosity ≤ ceiling.verbosity

def ofNumber? : Nat → Option Ceiling
  | 0 => some none
  | 1 => some (some .error)
  | 2 => some (some .warn)
  | 3 => some (some .info)
  | 4 => some (some .debug)
  | 5 => some (some .trace)
  | _ => none

/-- The ceiling with a name, which may be in any case. -/
def ofName? (name : List Char) : Option Ceiling :=
  match Text.lowerAscii (String.ofList name) with
  | "off" => some none
  | "error" => some (some .error)
  | "warn" => some (some .warn)
  | "info" => some (some .info)
  | "debug" => some (some .debug)
  | "trace" => some (some .trace)
  | _ => none

end Ceiling

/-- Reads a number: digits, and one plus sign in front of them if there is one. -/
def plainNumber? (cs : List Char) : Option Nat :=
  let digits := if cs.head? = some '+' then cs.drop 1 else cs
  if !digits.isEmpty && digits.all Text.isDigit then some (Text.decimalNumber digits) else none

def signedNumber? (cs : List Char) : Option Int :=
  match cs with
  | '-' :: digits =>
    if digits.head? = some '+' then none else (plainNumber? digits).map fun n => -(n : Int)
  | _ => (plainNumber? cs).map fun n => (n : Int)

/-- Reads a ceiling: the number of a level or its name. -/
def Ceiling.parse? (cs : List Char) : Option Ceiling :=
  match plainNumber? cs with
  | some n => ofNumber? n
  | none => ofName? cs

/-- The ceiling behind a `=`; if nothing is there, everything is let through. -/
def Ceiling.parse (cs : List Char) : Except FilterFault Ceiling :=
  if cs.isEmpty then .ok (some .trace)
  else
    match parse? cs with
    | some ceiling => .ok ceiling
    | none => .error .level

/-! ## Fields -/

/-- A text without the sign in front of it, if it has one. -/
def unsigned (cs : List Char) : List Char :=
  if cs.head? = some '+' || cs.head? = some '-' then cs.drop 1 else cs

def isExponent : List Char → Bool
  | [] => true
  | mark :: digits =>
    mark.toLower = 'e' && !(unsigned digits).isEmpty && (unsigned digits).all Text.isDigit

/-- A text stands for a number: digits, with a point among or around them and an exponent if need
be; or the name of the infinite number or of what is no number. -/
def isDecimal (cs : List Char) : Bool :=
  let cs := unsigned cs
  let whole := cs.takeWhile Text.isDigit
  let behind := cs.drop whole.length
  let fraction := if behind.head? = some '.' then (behind.drop 1).takeWhile Text.isDigit else []
  let exponent := if behind.head? = some '.' then behind.drop (fraction.length + 1) else behind
  ["inf", "infinity", "nan"].contains (Text.lowerAscii (String.ofList cs)) ||
    !(whole ++ fraction).isEmpty && isExponent exponent

/-- Reads what the value of a field has to be: a flag, a number, or else a pattern. -/
def Condition.ofChars (cs : List Char) : Except FilterFault Condition :=
  let written := String.ofList cs
  match written, signedNumber? cs with
  | "true", _ => .ok (.flag true)
  | "false", _ => .ok (.flag false)
  | _, some n => .ok (.number n)
  | _, none =>
    if isDecimal cs then .ok (.decimal written)
    else (Text.Pattern.parse written).map (.text written) |>.mapError .field

/-- Reads a field with what its value has to be, up to a second `=`. -/
def fieldOfChars (cs : List Char) : Except FilterFault (String × Option Condition) :=
  let name := cs.takeWhile (· != '=')
  match cs.drop name.length with
  | _ :: value =>
    (Condition.ofChars (value.takeWhile (· != '='))).map fun c => (String.ofList name, some c)
  | [] => .ok (String.ofList name, none)

/-! ## Directives -/

/-- A character with which the name of a target or of a level may start. -/
def startsName (c : Char) : Bool := Text.isAlphanumeric c || c == '-' || c == ':' || c == '_'

/-- A directive starts with a name or with what it says of spans. -/
def startsDirective : List Char → Bool
  | [] => false
  | c :: _ => c == '[' || startsName c

/-- A directive without marks: a level for the whole program, or a part of it that is let through
whole. -/
def Directive.ofName (name : List Char) : Directive :=
  match Ceiling.parse? name with
  | some ceiling => ⟨{}, ceiling⟩
  | none => ⟨{ target := some (String.ofList name) }, some .trace⟩

/-- The piece of a text at the place that one end of another text has before a later end of it. The
place is counted in bytes. -/
def pieceAt (whole other : List Char) (start stop : List Char) : List Char :=
  Text.takeBytes (Text.byteCount start - Text.byteCount stop)
    (Text.dropBytes (Text.byteCount other - Text.byteCount start) whole)

/-- A text, if it is not empty. -/
def nonEmpty? (cs : List Char) : Option String :=
  if cs.isEmpty then none else some (String.ofList cs)

/-- Reads what a directive says of spans, behind the opening bracket: the name of a span, a field in
braces, or both, up to the closing bracket. Gives it with what follows; `piece` is the text between
two places. -/
def spanSubject (target : Option String) (piece : List Char → List Char → List Char)
    (cs : List Char) : Except FilterFault (Subject × List Char) :=
  let ending := cs.dropWhile fun c => c != ']' && c != '\x7b'
  match ending with
  | ']' :: rest => .ok ({ target, span := some (String.ofList (piece cs ending)) }, rest)
  | _ :: field => do
    let fieldEnding := field.dropWhile (· != '\x7d')
    let text := piece field fieldEnding
    if fieldEnding.isEmpty || text.isEmpty then .error .directive
    let field ← fieldOfChars text
    match fieldEnding.drop 1 with
    | ']' :: rest =>
      .ok ({ target, span := nonEmpty? (piece cs ending), field := some field }, rest)
    | _ => .error .directive
  | [] => .error .directive

/-- Reads one directive. Where its marks stand is found without the blanks around it and counted in
bytes; the pieces are cut at these places out of the text with its blanks. -/
def Directive.parse (text : String) : Except FilterFault Directive :=
  let whole := text.toList
  let bare := (Text.trim text).toList
  let piece := pieceAt whole bare
  let behind (rest : List Char) : List Char :=
    Text.dropBytes (Text.byteCount bare - Text.byteCount rest) whole
  if startsDirective bare then
    let rest := bare.dropWhile fun c => c != '=' && c != '['
    match rest with
    | [] => .ok (.ofName whole)
    | '[' :: cs => do
      let (subject, rest) ← spanSubject (nonEmpty? (piece bare rest)) piece cs
      match rest with
      | [] => .ok ⟨subject, some .trace⟩
      | '=' :: level => (Ceiling.parse (behind level)).map (⟨subject, ·⟩)
      | _ => .error .directive
    | _ :: level =>
      (Ceiling.parse (behind level)).map
        (⟨{ target := some (String.ofList (piece bare rest)) }, ·⟩)
  else .error .directive

end EventSourcing.Logging
