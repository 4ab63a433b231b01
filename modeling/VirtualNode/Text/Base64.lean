/-!
# Base sixty-four

Three bytes are written as four characters.  One or two bytes at the end are written as two or
three characters, which are filled up to four with equals signs.

There are two ways of reading.  `decode?` passes over blanks and line ends, does without the equals
signs if there are none, and does not care for bits that belong to no byte; `decodeExact?` accepts
only what would be written.
-/

set_option autoImplicit false

namespace VirtualNode.Text.Base64

/-- The six bits that a character stands for. -/
def value? (b : UInt8) : Option Nat :=
  if 65 ≤ b && b ≤ 90 then some (b.toNat - 65)
  else if 97 ≤ b && b ≤ 122 then some (b.toNat - 71)
  else if 48 ≤ b && b ≤ 57 then some (b.toNat + 4)
  else if b = 43 then some 62
  else if b = 47 then some 63
  else none

/-- A byte that means nothing. -/
def isSpace (b : UInt8) : Bool :=
  b = 32 || (9 ≤ b && b ≤ 13)

/-- An equals sign. -/
def isFiller (b : UInt8) : Bool := b = 61

/-- The bytes of four groups of six bits. -/
def triple (a b c d : Nat) : List UInt8 :=
  let n := ((a * 64 + b) * 64 + c) * 64 + d
  [UInt8.ofNat (n / 65536), UInt8.ofNat (n / 256), UInt8.ofNat n]

/-- The bytes of groups of six bits. -/
def ofSixes : List Nat → Option (List UInt8)
  | [] => some []
  | [_] => none
  | [a, b] => some ((triple a b 0 0).take 1)
  | [a, b, c] => some ((triple a b c 0).take 2)
  | a :: b :: c :: d :: rest => (ofSixes rest).map (triple a b c d ++ ·)

/-- Whether the last group is as long as it has to be. -/
def fillersFit (data fillers : Nat) : Bool :=
  match data % 4 with
  | 0 => fillers = 0
  | 2 => fillers = 2
  | 3 => fillers = 1
  | _ => false

/-- The characters before the equals signs and the number of these, if nothing follows them. -/
def split? (bs : List UInt8) : Option (List Nat × Nat) := do
  let fillers := bs.dropWhile fun b => !isFiller b
  guard (fillers.all isFiller)
  return (← (bs.takeWhile fun b => !isFiller b).mapM value?, fillers.length)

/-- The bytes that a text stands for. -/
def decode? (bs : List UInt8) : Option (List UInt8) := do
  let (sixes, fillers) ← split? (bs.filter fun b => !isSpace b)
  guard (fillers = 0 || fillersFit sixes.length fillers)
  ofSixes sixes

/-- Whether the bits that belong to no byte are zero. -/
def filledWithZeros (sixes : List Nat) : Bool :=
  match sixes.length % 4, sixes.getLast? with
  | 2, some n => n % 16 = 0
  | 3, some n => n % 4 = 0
  | _, _ => true

/-- The bytes that a text stands for, if it is exactly what would be written for them. -/
def decodeExact? (bs : List UInt8) : Option (List UInt8) := do
  let (sixes, fillers) ← split? bs
  guard (fillersFit sixes.length fillers && filledWithZeros sixes)
  ofSixes sixes

end VirtualNode.Text.Base64
