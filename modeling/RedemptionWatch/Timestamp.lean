import RedemptionWatch.Text.Numeral

/-!
# Timestamps

Instants of UTC, counted in seconds from 1970-01-01T00:00:00Z with nanoseconds on top, in the
proleptic Gregorian calendar. A leap second shares the count of the second before it and has a
thousand million nanoseconds or more.

`Timestamp.text` writes RFC 3339 with as many groups of three fraction digits as are needed, and
`Timestamp.ofText?` reads RFC 3339 with any offset.
-/

namespace RedemptionWatch

/-- A day of the proleptic Gregorian calendar. -/
structure Date where
  year : Int
  month : Nat
  day : Nat
  deriving DecidableEq, Repr

namespace Date

/-- The day that is `days` after 1970-01-01. -/
def ofDays (days : Int) : Date :=
  let z := days + 719468
  let era := z / 146097
  let dayOfEra := (z - era * 146097).toNat
  let yearOfEra := (dayOfEra - dayOfEra / 1460 + dayOfEra / 36524 - dayOfEra / 146096) / 365
  let dayOfYear := dayOfEra - (365 * yearOfEra + yearOfEra / 4 - yearOfEra / 100)
  let shifted := (5 * dayOfYear + 2) / 153
  let month := if shifted < 10 then shifted + 3 else shifted - 9
  { year := yearOfEra + era * 400 + (if month ≤ 2 then 1 else 0)
    month := month
    day := dayOfYear - (153 * shifted + 2) / 5 + 1 }

/-- The number of days from 1970-01-01 to `d`. -/
def days (d : Date) : Int :=
  let y : Int := if d.month ≤ 2 then d.year - 1 else d.year
  let era := y / 400
  let yearOfEra := (y - era * 400).toNat
  let shifted := if d.month > 2 then d.month - 3 else d.month + 9
  let dayOfYear := (153 * shifted + 2) / 5 + d.day - 1
  let dayOfEra := yearOfEra * 365 + yearOfEra / 4 - yearOfEra / 100 + dayOfYear
  era * 146097 + dayOfEra - 719468

/-- Is `y` a leap year? -/
def isLeapYear (y : Int) : Bool :=
  y % 4 = 0 && (y % 100 ≠ 0 || y % 400 = 0)

/-- The number of days of a month. -/
def monthLength (year : Int) (month : Nat) : Nat :=
  if month = 2 then (if isLeapYear year then 29 else 28)
  else if month = 4 ∨ month = 6 ∨ month = 9 ∨ month = 11 then 30 else 31

/-- Does the calendar have this day? -/
def isValid (d : Date) : Bool :=
  1 ≤ d.month && d.month ≤ 12 && 1 ≤ d.day && d.day ≤ monthLength d.year d.month

end Date

/-- An instant: whole seconds since the epoch, and nanoseconds since then. -/
structure Timestamp where
  seconds : Int
  nanos : Nat
  deriving DecidableEq, Repr, Inhabited

namespace Timestamp

/-- 1970-01-01T00:00:00Z. -/
def epoch : Timestamp := ⟨0, 0⟩

/-- The second that starts the year -262143. -/
def minSeconds : Int := (Date.mk (-262143) 1 1).days * 86400

/-- The last second of the year 262142. -/
def maxSeconds : Int := (Date.mk 262143 1 1).days * 86400 - 1

/-- Does the calendar of instants hold this second? -/
def isRepresentable (seconds : Int) : Bool :=
  minSeconds ≤ seconds && seconds ≤ maxSeconds

/-- The instant `n` units after the epoch, of which `unit` make a second; the epoch where it is not
representable. -/
def ofUnits (unit : Nat) (n : Int) : Timestamp :=
  let seconds := n / unit
  if isRepresentable seconds then ⟨seconds, (n % unit).toNat * (1000000000 / unit)⟩ else epoch

/-- The instant `n` seconds after the epoch, `n` being read as a signed number of 64 bits. -/
def ofSeconds (n : UInt64) : Timestamp :=
  ofUnits 1 n.toInt64.toInt

/-- The instant `n` milliseconds after the epoch. -/
def ofMillis (n : Int64) : Timestamp :=
  ofUnits 1000 n.toInt

/-- The instant `n` microseconds after the epoch. -/
def ofMicros (n : Int64) : Timestamp :=
  ofUnits 1000000 n.toInt

/-- Whole milliseconds since the epoch, rounded down. -/
def millis (t : Timestamp) : Int :=
  t.seconds * 1000 + t.nanos / 1000000

/-! ## Writing -/

/-- `n` with zeros in front up to `width` digits. -/
def padded (width n : Nat) : List Char :=
  let ds := Text.Numeral.decimal n
  List.replicate (width - ds.length) '0' ++ ds

/-- A year: four digits from 0 to 9999, a sign and at least four digits outside. -/
def yearText (y : Int) : List Char :=
  if 0 ≤ y ∧ y ≤ 9999 then padded 4 y.toNat
  else (if y < 0 then '-' else '+') :: padded 4 y.natAbs

/-- A fraction of a second in the fewest groups of three digits, nothing for zero. -/
def fractionText (nanos : Nat) : List Char :=
  if nanos = 0 then []
  else if nanos % 1000000 = 0 then '.' :: padded 3 (nanos / 1000000)
  else if nanos % 1000 = 0 then '.' :: padded 6 (nanos / 1000)
  else '.' :: padded 9 nanos

/-- RFC 3339 in UTC, with `Z`. -/
def text (t : Timestamp) : String :=
  let date := Date.ofDays (t.seconds / 86400)
  let second := (t.seconds % 86400).toNat
  let leap := if 1000000000 ≤ t.nanos then 1 else 0
  String.ofList <|
    yearText date.year ++ '-' :: padded 2 date.month ++ '-' :: padded 2 date.day ++
    'T' :: padded 2 (second / 3600) ++ ':' :: padded 2 (second / 60 % 60) ++
    ':' :: padded 2 (second % 60 + leap) ++ fractionText (t.nanos - leap * 1000000000) ++ ['Z']

/-! ## Reading -/

/-- A number of exactly `width` digits at the front of `cs`, and what follows it. -/
def number? (width : Nat) (cs : List Char) : Option (Nat × List Char) := do
  let ds := cs.take width
  guard (ds.length = width)
  let n ← Text.Numeral.digits? 10 ds
  return (n, cs.drop width)

/-- `cs` after a leading `c`. -/
def skip? (c : Char) : List Char → Option (List Char)
  | d :: rest => if d = c then some rest else none
  | [] => none

/-- An optional fraction of a second in nanoseconds; digits beyond the ninth are dropped. -/
def fraction? : List Char → Option (Nat × List Char)
  | '.' :: rest => do
    let ds := rest.takeWhile Char.isDigit
    let n ← Text.Numeral.digits? 10 (ds.take 9)
    return (n * Nat.pow 10 (9 - min 9 ds.length), rest.drop ds.length)
  | cs => some (0, cs)

/-- An offset from UTC in minutes, `Z` being none. -/
def offset? : List Char → Option (Int × List Char)
  | 'Z' :: rest => some (0, rest)
  | 'z' :: rest => some (0, rest)
  | sign :: rest => do
    guard (sign = '+' ∨ sign = '-' ∨ sign = '\u2212')
    let (hours, rest) ← number? 2 rest
    let rest ← skip? ':' rest
    let (minutes, rest) ← number? 2 rest
    guard (hours ≤ 23 ∧ minutes ≤ 59)
    let total : Int := hours * 60 + minutes
    return (if sign = '+' then total else -total, rest)
  | [] => none

/-- The instant that an RFC 3339 text denotes. -/
def ofText? (s : String) : Option Timestamp := do
  let (year, cs) ← number? 4 s.toList
  let cs ← skip? '-' cs
  let (month, cs) ← number? 2 cs
  let cs ← skip? '-' cs
  let (day, cs) ← number? 2 cs
  let cs ← match cs with
    | c :: rest => if c = 'T' ∨ c = 't' ∨ c = ' ' then some rest else none
    | [] => none
  let (hour, cs) ← number? 2 cs
  let cs ← skip? ':' cs
  let (minute, cs) ← number? 2 cs
  let cs ← skip? ':' cs
  let (second, cs) ← number? 2 cs
  let (nanos, cs) ← fraction? cs
  let (offset, cs) ← offset? cs
  let date : Date := ⟨year, month, day⟩
  guard (cs = [] ∧ date.isValid ∧ hour ≤ 23 ∧ minute ≤ 59 ∧ second ≤ 60)
  let leap : Nat := if second = 60 then 1 else 0
  return {
    seconds := date.days * 86400 + (hour * 3600 + minute * 60 + (second - leap)) - offset * 60
    nanos := nanos + leap * 1000000000 }

end Timestamp

end RedemptionWatch
