/-!
# Decimal numbers

Numbers as they are given on a command line: decimal digits, optionally after a sign.  Nothing else
may stand there, no blank either.
-/

set_option autoImplicit false

namespace VirtualNode.Text.Decimal

/-- The value of a decimal digit. -/
def digit? (c : Char) : Option Nat :=
  if '0' ≤ c && c ≤ '9' then some (c.toNat - '0'.toNat) else none

/-- The number that digits make after a number that has been read. -/
def digits? (read : Nat) : List Char → Option Nat
  | [] => some read
  | c :: cs => (digit? c).bind fun d => digits? (read * 10 + d) cs

/-- The number that at least one digit makes. -/
def unsigned? : List Char → Option Nat
  | [] => none
  | c :: cs => digits? 0 (c :: cs)

/-- A number that may have a plus sign. -/
def natural? (s : String) : Option Nat :=
  match s.toList with
  | '+' :: cs => unsigned? cs
  | cs => unsigned? cs

/-- A number that may have a sign. -/
def integer? (s : String) : Option Int :=
  match s.toList with
  | '-' :: cs => (unsigned? cs).map fun n => -(n : Int)
  | '+' :: cs => (unsigned? cs).map Int.ofNat
  | cs => (unsigned? cs).map Int.ofNat

end VirtualNode.Text.Decimal
