import VirtualNode.Text.Blank
import VirtualNode.Time.Stamp

/-!
# Reading points in time

Two readers of the text of a point in time.  `Stamp.parse?` reads the form of RFC 3339 to the
letter: every number has its fixed width.  `Stamp.parseFreely?`, which reads the times in cluster
objects, does without padding and the colon in the offset, takes years of any length after a sign,
lets blanks stand before the numbers and the marks between them, and knows `UTC` as an offset.

Both take a sixtieth second as a leap second, whatever the minute, and drop digits of a fraction
beyond nanoseconds.
-/

set_option autoImplicit false

namespace VirtualNode.Time.Stamp

/-- What is left to read. -/
abbrev Rest := List Char

/-- Reads at least `least` and at most `most` decimal digits. -/
def readDigits (least most : Nat) (cs : Rest) : Option (Nat × Rest) :=
  let ds := (cs.take most).takeWhile Char.isDigit
  if least ≤ ds.length then
    some (ds.foldl (fun n d => n * 10 + (d.toNat - 48)) 0, cs.drop ds.length)
  else none

/-- Reads exactly `count` decimal digits. -/
def readFixed (count : Nat) (cs : Rest) : Option (Nat × Rest) := readDigits count count cs

/-- Consumes one of the given characters. -/
def readOne (allowed : List Char) : Rest → Option Rest
  | c :: cs => if allowed.contains c then some cs else none
  | [] => none

/-- What follows blanks. -/
def afterBlanks (cs : Rest) : Rest := cs.dropWhile Text.isBlank

/-- Reads an optional fraction of a second, in nanoseconds; further digits are dropped. -/
def readSubsecond : Rest → Option (Nat × Rest)
  | '.' :: cs =>
    let ds := cs.takeWhile Char.isDigit
    if ds = [] then none
    else
      let nine := (ds ++ List.replicate 9 '0').take 9
      some (nine.foldl (fun n d => n * 10 + (d.toNat - 48)) 0, cs.dropWhile Char.isDigit)
  | cs => some (0, cs)

/-- Reads a sign; a minus sign may be the typographic one. -/
def readSign : Rest → Option (Int × Rest)
  | '+' :: cs => some (1, cs)
  | '-' :: cs | '−' :: cs => some (-1, cs)
  | _ => none

/-- A date and a time of day somewhere on earth. -/
structure Clock where
  year : Int
  month : Nat
  day : Nat
  hour : Nat
  minute : Nat
  second : Nat
  nanos : Nat

/-- The first and the last year of the calendar. -/
def yearRange : Int × Int := (-262143, 262142)

/-- Whether a year belongs to the calendar. -/
def yearFits (year : Int) : Bool := yearRange.1 ≤ year && year ≤ yearRange.2

/-- Whether there is such a date and such a time of day. -/
def Clock.exists (c : Clock) : Bool :=
  yearFits c.year && 1 ≤ c.month && c.month ≤ 12 && 1 ≤ c.day
    && c.day ≤ daysInMonth c.year c.month && c.hour ≤ 23 && c.minute ≤ 59 && c.second ≤ 60

/-- The stamp of a clock that is ahead of UTC by a number of seconds. -/
def Clock.stamp? (c : Clock) (offset : Int) : Option Stamp :=
  if c.exists then
    let day := daysOfDate c.year c.month c.day
    let seconds := day * 86400 + c.hour * 3600 + c.minute * 60 + min c.second 59 - offset
    if yearFits (dateOfDays (Int.fdiv seconds 86400)).1 then
      some ⟨seconds, if c.second = 60 then perSecond + c.nanos else c.nanos⟩
    else none
  else none

/-! ## To the letter -/

/-- Reads a date and a time of day, every number in its fixed width. -/
def readClock (cs : Rest) : Option (Clock × Rest) := do
  let (year, cs) ← readFixed 4 cs
  let cs ← readOne ['-'] cs
  let (month, cs) ← readFixed 2 cs
  let cs ← readOne ['-'] cs
  let (day, cs) ← readFixed 2 cs
  let cs ← readOne ['T', 't', ' '] cs
  let (hour, cs) ← readFixed 2 cs
  let cs ← readOne [':'] cs
  let (minute, cs) ← readFixed 2 cs
  let cs ← readOne [':'] cs
  let (second, cs) ← readFixed 2 cs
  let (nanos, cs) ← readSubsecond cs
  return (⟨year, month, day, hour, minute, second, nanos⟩, cs)

/-- Reads the offset from UTC, in seconds. -/
def readOffset : Rest → Option (Int × Rest)
  | 'Z' :: cs | 'z' :: cs => some (0, cs)
  | cs => do
    let (sign, cs) ← readSign cs
    let (hours, cs) ← readFixed 2 cs
    let cs ← readOne [':'] cs
    let (minutes, cs) ← readFixed 2 cs
    guard (hours ≤ 23 && minutes ≤ 59)
    return (sign * (hours * 3600 + minutes * 60), cs)

/-- The point in time that a text denotes to the letter. -/
def parse? (s : String) : Option Stamp := do
  let (clock, cs) ← readClock s.toList
  let (offset, cs) ← readOffset cs
  guard cs.isEmpty
  clock.stamp? offset

/-! ## Freely -/

/-- Reads one or two digits after blanks. -/
def readShort (cs : Rest) : Option (Nat × Rest) := readDigits 1 2 (afterBlanks cs)

/-- Consumes a mark after blanks. -/
def readMark (c : Char) (cs : Rest) : Option Rest := readOne [c] (afterBlanks cs)

/-- Reads a year after blanks: up to four digits, or any number of them after a sign. -/
def readYear (cs : Rest) : Option (Int × Rest) :=
  match afterBlanks cs with
  | '-' :: cs => (readDigits 1 cs.length cs).map fun (n, cs) => (-(n : Int), cs)
  | '+' :: cs => (readDigits 1 cs.length cs).map fun (n, cs) => ((n : Int), cs)
  | cs => (readDigits 1 4 cs).map fun (n, cs) => ((n : Int), cs)

/-- Reads a date and a time of day without regard to padding and blanks. -/
def readClockFreely (cs : Rest) : Option (Clock × Rest) := do
  let (year, cs) ← readYear cs
  let cs ← readMark '-' cs
  let (month, cs) ← readShort cs
  let cs ← readMark '-' cs
  let (day, cs) ← readShort cs
  let cs ← readOne ['T', 't', ' '] cs
  let (hour, cs) ← readShort cs
  let cs ← readMark ':' cs
  let (minute, cs) ← readShort cs
  let cs ← readMark ':' cs
  let (second, cs) ← readShort cs
  let (nanos, cs) ← readSubsecond cs
  return (⟨year, month, day, hour, minute, second, nanos⟩, cs)

/-- Whether a text begins with the name of UTC, in any case of its letters. -/
def beginsWithUtc (cs : Rest) : Bool :=
  (cs.take 3).map Char.toLower = ['u', 't', 'c']

/-- Reads the offset from UTC after blanks, in seconds. -/
def readOffsetFreely (cs : Rest) : Option (Int × Rest) :=
  let cs := afterBlanks cs
  if beginsWithUtc cs then some (0, cs.drop 3)
  else match cs with
    | 'Z' :: cs | 'z' :: cs => some (0, cs)
    | cs => do
      let (sign, cs) ← readSign cs
      let (hours, cs) ← readFixed 2 cs
      let (minutes, cs) ← readFixed 2 (cs.dropWhile fun c => c = ':' || Text.isBlank c)
      guard (hours ≤ 23 && minutes ≤ 59)
      return (sign * (hours * 3600 + minutes * 60), cs)

/-- The point in time that a text denotes, read without regard to padding and blanks. -/
def parseFreely? (s : String) : Option Stamp := do
  let (clock, cs) ← readClockFreely s.toList
  let (offset, cs) ← readOffsetFreely cs
  guard (afterBlanks cs).isEmpty
  clock.stamp? offset

end VirtualNode.Time.Stamp
