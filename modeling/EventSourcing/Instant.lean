import EventSourcing.Text.Blank
import EventSourcing.Text.Reader

/-!
# Instants

An instant is a date of the proleptic Gregorian calendar and a time of day in UTC, to the
nanosecond. A leap second is kept as second 59 with a thousand million nanoseconds more.

Its text is that of RFC 3339. Reading is lenient: blanks may stand between the parts, a space may
stand for the `T`, the year may carry a sign, and the offset may be any that is less than a day.
-/

namespace EventSourcing

def isLeapYear (year : Int) : Bool := year % 4 == 0 && (year % 100 != 0 || year % 400 == 0)

def daysInMonth (year : Int) (month : Nat) : Nat :=
  if month = 2 then if isLeapYear year then 29 else 28
  else if month = 4 ∨ month = 6 ∨ month = 9 ∨ month = 11 then 30
  else 31

structure Date where
  year : Int
  month : Nat
  day : Nat
  year_range : -262143 ≤ year ∧ year ≤ 262142
  month_range : 1 ≤ month ∧ month ≤ 12
  day_range : 1 ≤ day ∧ day ≤ daysInMonth year month
  deriving DecidableEq

namespace Date

/-- The day with the given year, month and day of the month, where there is one. -/
def ofFields? (year : Int) (month day : Nat) : Option Date :=
  if hy : -262143 ≤ year ∧ year ≤ 262142 then
    if hm : 1 ≤ month ∧ month ≤ 12 then
      if hd : 1 ≤ day ∧ day ≤ daysInMonth year month then some ⟨year, month, day, hy, hm, hd⟩
      else none
    else none
  else none

def next? (d : Date) : Option Date :=
  if d.day < daysInMonth d.year d.month then ofFields? d.year d.month (d.day + 1)
  else if d.month < 12 then ofFields? d.year (d.month + 1) 1
  else ofFields? (d.year + 1) 1 1

def previous? (d : Date) : Option Date :=
  if 1 < d.day then ofFields? d.year d.month (d.day - 1)
  else if 1 < d.month then
    ofFields? d.year (d.month - 1) (daysInMonth d.year (d.month - 1))
  else ofFields? (d.year - 1) 12 31

end Date

structure Instant where
  date : Date
  hour : Nat
  minute : Nat
  second : Nat
  nano : Nat
  hour_lt : hour < 24
  minute_lt : minute < 60
  second_lt : second < 60
  nano_lt : nano < 2000000000
  leap : 1000000000 ≤ nano → second = 59
  deriving DecidableEq

namespace Instant

/-- The beginning of the year 1970. -/
def epoch : Instant where
  date := ⟨1970, 1, 1, by decide, by decide, by decide⟩
  hour := 0
  minute := 0
  second := 0
  nano := 0
  hour_lt := by decide
  minute_lt := by decide
  second_lt := by decide
  nano_lt := by decide
  leap := by decide

/-! ## Writing -/

def decimalDigits : (count : Nat) → Nat → List Char
  | 0, _ => []
  | count + 1, n => decimalDigits count (n / 10) ++ [Nat.digitChar (n % 10)]

/-- The text of a year: four digits, or a sign and at least four digits outside 0 to 9999. -/
def yearText (year : Int) : List Char :=
  if 0 ≤ year ∧ year ≤ 9999 then decimalDigits 4 year.toNat
  else
    let digits := Nat.toDigits 10 year.natAbs
    (if year < 0 then '-' else '+') :: List.replicate (4 - digits.length) '0' ++ digits

/-- The fraction of a second, with the fewest of 0, 3, 6 or 9 digits that are exact. -/
def fractionText (nano : Nat) : List Char :=
  if nano = 0 then []
  else if nano % 1000000 = 0 then '.' :: decimalDigits 3 (nano / 1000000)
  else if nano % 1000 = 0 then '.' :: decimalDigits 6 (nano / 1000)
  else '.' :: decimalDigits 9 nano

/-- The text of an instant, in UTC. -/
def text (t : Instant) : String :=
  let (second, nano) :=
    if 1000000000 ≤ t.nano then (60, t.nano - 1000000000) else (t.second, t.nano)
  String.ofList (yearText t.date.year ++ '-' :: decimalDigits 2 t.date.month ++
    '-' :: decimalDigits 2 t.date.day ++ 'T' :: decimalDigits 2 t.hour ++
    ':' :: decimalDigits 2 t.minute ++ ':' :: decimalDigits 2 second ++ fractionText nano ++ ['Z'])

/-! ## Reading -/

open Text (Reader number char isDigit digitValue? decimalNumber)

def blanks : Reader Unit := fun cs => some ((), Text.trimFront cs)

/-- Reads a number of at most two digits, after blanks. -/
def twoDigits : Reader Nat := do blanks; number 2

/-- Reads a year: a sign and any number of digits, or at most four digits. -/
def year : Reader Int := do
  blanks
  match ← get with
  | '-' :: cs => do set cs; return -(Int.ofNat (← number cs.length))
  | '+' :: cs => do set cs; return Int.ofNat (← number cs.length)
  | _ => return Int.ofNat (← number 4)

/-- Reads the fraction of a second as nanoseconds; digits after the ninth are dropped. -/
def fraction : Reader Nat := fun cs =>
  match cs with
  | '.' :: cs =>
    let digits := cs.takeWhile isDigit
    if digits.isEmpty then none
    else
      let kept := digits.take 9
      some (decimalNumber (kept ++ List.replicate (9 - kept.length) '0'), cs.drop digits.length)
  | _ => some (0, cs)

/-- Reads the sign of an offset; the typographic minus counts. -/
def offsetSign : Reader Int
  | '+' :: cs => some (1, cs)
  | '-' :: cs => some (-1, cs)
  | '\u2212' :: cs => some (-1, cs)
  | _ => none

def exactlyTwo : Reader Nat
  | a :: b :: cs => do
    let tens ← digitValue? a
    let ones ← digitValue? b
    return (10 * tens + ones, cs)
  | _ => none

def offset : Reader Int := do
  match ← get with
  | 'Z' :: cs => do set cs; return 0
  | 'z' :: cs => do set cs; return 0
  | a :: b :: c :: cs =>
    if Text.lowerAscii (String.ofList [a, b, c]) = "utc" then do set cs; return 0
    else do
      let sign ← offsetSign
      let hours ← exactlyTwo
      modify fun cs => cs.dropWhile fun c => c = ':' || Text.isBlank c
      let minutes ← exactlyTwo
      if minutes < 60 then return sign * (60 * hours + minutes : Nat) else failure
  | _ => failure

/-- The instant at a date, a time of day and an offset in minutes, where there is one. Second 60
is the leap second. -/
def ofFields? (date : Date) (hour minute second nano : Nat) (offset : Int) : Option Instant := do
  let (second, nano) := if second = 60 then (59, nano + 1000000000) else (second, nano)
  if 24 ≤ hour ∨ 60 ≤ minute ∨ 24 * 60 ≤ offset.natAbs then none
  else
    let total : Int := (60 * hour + minute : Nat) - offset
    let shifted ←
      if total < 0 then date.previous? else if 24 * 60 ≤ total then date.next? else some date
    let minutes := (total % (24 * 60)).toNat
    if h : minutes / 60 < 24 ∧ minutes % 60 < 60 ∧ second < 60 ∧ nano < 2000000000 ∧
        (1000000000 ≤ nano → second = 59) then
      some ⟨shifted, minutes / 60, minutes % 60, second, nano, h.1, h.2.1, h.2.2.1, h.2.2.2.1,
        h.2.2.2.2⟩
    else none

/-- Reads a date and a time of day with its offset. -/
def reader : Reader Instant := do
  let y ← year
  blanks; char '-'
  let month ← twoDigits
  blanks; char '-'
  let day ← twoDigits
  match ← get with
  | c :: cs => if c = 'T' ∨ c = 't' ∨ c = ' ' then set cs else failure
  | [] => failure
  let hour ← twoDigits
  blanks; char ':'
  let minute ← twoDigits
  blanks; char ':'
  let second ← twoDigits
  let nano ← fraction
  blanks
  let offset ← offset
  let date ← Date.ofFields? y month day
  ofFields? date hour minute second nano offset

/-- Reads a whole text as an instant; blanks may follow it. -/
def parse? (s : String) : Option Instant :=
  match reader s.toList with
  | some (t, rest) => if rest.all Text.isBlank then some t else none
  | none => none

/-- An offset moves the instant over the end of a year. -/
example : (parse? "2025-12-31T23:59:59-08:00").map text = some "2026-01-01T07:59:59Z" := by
  decide +kernel

end Instant

end EventSourcing
