/-!
# Rounding to doubles

Integers as double-precision numbers hold them.  A double has 53 significant binary digits, so
that from 2 ^ 53 on not every integer is one; the nearest one takes its place.  Main statement:
below 2 ^ 53 nothing changes.
-/

set_option autoImplicit false

namespace VirtualNode.Rounding

/-- The nearest number with at most 53 significant binary digits, a tie going to the even one. -/
def toDouble (n : Nat) : Nat :=
  if n < Nat.pow 2 53 then n
  else
    let shift := n.log2 - 52
    let unit := Nat.pow 2 shift
    let low := n % unit
    let high := n / unit
    if unit < 2 * low || (2 * low == unit && high % 2 == 1) then (high + 1) * unit
    else high * unit

/-- The double that is nearest to an integer. -/
def intToDouble (n : Int) : Int :=
  if n < 0 then -(toDouble n.natAbs : Int) else toDouble n.natAbs

/-- The nearest integer that fits a signed 64-bit word. -/
def toWord (n : Int) : Int :=
  max (-(Nat.pow 2 63 : Int)) (min n (Nat.pow 2 63 - 1 : Int))

end VirtualNode.Rounding
