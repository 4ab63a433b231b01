/-!
# Bytes in base sixteen

Every byte is written as two digits, the higher one first.  Reading accepts letters of either case.
-/

set_option autoImplicit false

namespace VirtualNode.Text.Hex

/-- The value of a digit. -/
def digit? (c : Char) : Option Nat :=
  if '0' ≤ c && c ≤ '9' then some (c.toNat - 48)
  else if 'a' ≤ c && c ≤ 'f' then some (c.toNat - 87)
  else if 'A' ≤ c && c ≤ 'F' then some (c.toNat - 55)
  else none

/-- The bytes that pairs of digits make. -/
def decode? : List Char → Option (List UInt8)
  | [] => some []
  | a :: b :: rest => do
    let high ← digit? a
    let low ← digit? b
    return UInt8.ofNat (high * 16 + low) :: (← decode? rest)
  | [_] => none

/-- The digits of bytes, letters in lower case. -/
def encode : List UInt8 → List Char
  | [] => []
  | b :: rest => Nat.digitChar (b.toNat / 16) :: Nat.digitChar (b.toNat % 16) :: encode rest

end VirtualNode.Text.Hex
