import VirtualNode.Time.Span

/-!
# Points in time

A stamp is a point in time in UTC, to the nanosecond, on the proleptic Gregorian calendar.  A leap
second is a second of its own: it belongs to the second before it and is told by nanoseconds from
1000000000 on.  Main definitions: `Stamp.text` writes whole seconds, `Stamp.textNanos` nine
decimals, and `Stamp.earlierThan` orders stamps.  Main statement: cutting a fraction off twice is
cutting it off once.
-/

set_option autoImplicit false

namespace VirtualNode.Time

/-- The nanoseconds of a second. -/
def perSecond : Nat := 1000000000

/-- A point in time. -/
structure Stamp where
  /-- The seconds since the beginning of 1970 in UTC, leap seconds not counted. -/
  seconds : Int
  /-- The nanoseconds since the beginning of that second. -/
  nanos : Nat
  deriving DecidableEq, Repr, Inhabited

namespace Stamp

/-- Whether a stamp lies in a leap second. -/
def isLeap (t : Stamp) : Bool := perSecond ≤ t.nanos

/-- The fraction of a second, in nanoseconds. -/
def fraction (t : Stamp) : Nat := t.nanos % perSecond

/-- The same point in time with its fraction of a second cut off. -/
def truncate (t : Stamp) : Stamp := ⟨t.seconds, t.nanos - t.fraction⟩

/-- The point in time a number of milliseconds later, no leap second lying between. -/
def addMillis (t : Stamp) (ms : Nat) : Stamp :=
  let nanos := t.nanos + ms * 1000000
  ⟨t.seconds + nanos / perSecond, nanos % perSecond⟩

/-- The whole milliseconds since the beginning of 1970. -/
def wholeMillis (t : Stamp) : Int := t.seconds * 1000 + t.nanos / 1000000

/-- Whether a stamp lies before another one. -/
def earlierThan (t u : Stamp) : Bool :=
  t.seconds < u.seconds || (t.seconds = u.seconds && t.nanos < u.nanos)

/-- A time in whole seconds has no fraction to lose. -/
theorem truncate_truncate (t : Stamp) : t.truncate.truncate = t.truncate := by
  simp only [truncate, fraction, perSecond, mk.injEq, true_and]
  omega

/-! ## The calendar -/

/-- The days from the beginning of 1970 to a date. -/
def daysOfDate (year month day : Int) : Int :=
  let y := if month ≤ 2 then year - 1 else year
  let era := Int.fdiv y 400
  let yearOfEra := y - era * 400
  let shifted := if month > 2 then month - 3 else month + 9
  let dayOfYear := Int.fdiv (153 * shifted + 2) 5 + day - 1
  let dayOfEra := yearOfEra * 365 + Int.fdiv yearOfEra 4 - Int.fdiv yearOfEra 100 + dayOfYear
  era * 146097 + dayOfEra - 719468

/-- The date that lies a number of days after the beginning of 1970. -/
def dateOfDays (days : Int) : Int × Int × Int :=
  let z := days + 719468
  let era := Int.fdiv z 146097
  let dayOfEra := z - era * 146097
  let yearOfEra := Int.fdiv
    (dayOfEra - Int.fdiv dayOfEra 1460 + Int.fdiv dayOfEra 36524 - Int.fdiv dayOfEra 146096) 365
  let dayOfYear :=
    dayOfEra - (365 * yearOfEra + Int.fdiv yearOfEra 4 - Int.fdiv yearOfEra 100)
  let shifted := Int.fdiv (5 * dayOfYear + 2) 153
  let day := dayOfYear - Int.fdiv (153 * shifted + 2) 5 + 1
  let month := if shifted < 10 then shifted + 3 else shifted - 9
  let year := yearOfEra + era * 400 + (if month ≤ 2 then 1 else 0)
  (year, month, day)

/-- Whether a year has a twenty-ninth of February. -/
def hasLeapDay (year : Int) : Bool :=
  year % 4 == 0 && (year % 100 != 0 || year % 400 == 0)

/-- The number of days of a month. -/
def daysInMonth (year : Int) (month : Nat) : Nat :=
  if month == 2 then (if hasLeapDay year then 29 else 28)
  else if month == 4 || month == 6 || month == 9 || month == 11 then 30
  else 31

/-! ## Writing -/

/-- At least `width` decimal digits of a number. -/
def digits (width : Nat) (n : Int) : String :=
  String.ofList (Span.padded width n.toNat)

/-- A year: four digits, after a sign where four digits are not enough. -/
def yearText (year : Int) : String :=
  if year < 0 then "-" ++ digits 4 (-year)
  else if year ≤ 9999 then digits 4 year
  else "+" ++ digits 4 year

/-- The date and the time of day, without a fraction and without an offset. -/
def textBody (t : Stamp) : String :=
  let days := Int.fdiv t.seconds 86400
  let ofDay := t.seconds - days * 86400
  let (year, month, day) := dateOfDays days
  yearText year ++ "-" ++ digits 2 month ++ "-" ++ digits 2 day ++ "T"
    ++ digits 2 (ofDay / 3600) ++ ":" ++ digits 2 (ofDay / 60 % 60) ++ ":"
    ++ digits 2 (ofDay % 60 + if t.isLeap then 1 else 0)

/-- The text of a stamp in whole seconds, the fraction cut off. -/
def text (t : Stamp) : String := t.textBody ++ "Z"

/-- The text of a stamp with nine decimals. -/
def textNanos (t : Stamp) : String :=
  t.textBody ++ "." ++ digits 9 t.fraction ++ "Z"

end Stamp

end VirtualNode.Time
