/-!
# DER

Values as the distinguished encoding rules write them: an identifier, the length of the content in
as few bytes as possible, and the content.
-/

set_option autoImplicit false

namespace VirtualNode.Pki.Der

/-- Bytes. -/
abbrev Bytes := List UInt8

/-! ## Identifiers -/

/-- A truth value. -/
def boolean : UInt8 := 1

/-- A whole number. -/
def integer : UInt8 := 2

/-- A string of bits. -/
def bitString : UInt8 := 3

/-- A string of bytes. -/
def octetString : UInt8 := 4

/-- The name of a thing in a worldwide register. -/
def objectName : UInt8 := 6

/-- Values one after another. -/
def sequence : UInt8 := 48

/-- A part of a value that has a number. -/
def numbered (n : UInt8) : UInt8 := 160 + n

/-! ## Reading -/

/-- The number that bytes stand for, the highest byte first. -/
def natOf (bs : Bytes) : Nat := bs.foldl (fun n b => n * 256 + b.toNat) 0

/-- Reads a length. -/
def readLength : Bytes → Option (Nat × Bytes)
  | [] => none
  | b :: rest =>
    if b < 128 then some (b.toNat, rest)
    else
      let count := b.toNat - 128
      let digits := rest.take count
      let shortest := if count = 1 then 128 else Nat.pow 256 (count - 1)
      if 1 ≤ count && count ≤ 4 && digits.length = count && shortest ≤ natOf digits then
        some (natOf digits, rest.drop count)
      else none

/-- The first length that is too long for a value. -/
def lengthLimit : Nat := 65535

/-- Reads a value with an identifier. -/
def read? (identifier : UInt8) : Bytes → Option (Bytes × Bytes)
  | [] => none
  | b :: rest => do
    guard (b = identifier)
    let (length, rest) ← readLength rest
    guard (length < lengthLimit && length ≤ rest.length)
    return (rest.take length, rest.drop length)

/-- Reads a value behind which nothing stands. -/
def only? (identifier : UInt8) (bs : Bytes) : Option Bytes := do
  let (content, rest) ← read? identifier bs
  if rest = [] then return content else none

/-- Reads a value that may be missing. -/
def optional? (identifier : UInt8) (bs : Bytes) : Option (Option Bytes × Bytes) :=
  if bs.head? = some identifier then (read? identifier bs).map fun (c, rest) => (some c, rest)
  else some (none, bs)

/-- Reads a string of bits that are whole bytes. -/
def readBits? (bs : Bytes) : Option (Bytes × Bytes) := do
  let (content, rest) ← read? bitString bs
  match content with
  | 0 :: bits => return (bits, rest)
  | _ => none

/-- Reads a whole number that is not less than zero. -/
def readNat? (bs : Bytes) : Option (Nat × Bytes) := do
  let (content, rest) ← read? integer bs
  match content with
  | [] => none
  | [b] => if b < 128 then return (b.toNat, rest) else none
  | b :: c :: _ => if b < 128 && (b ≠ 0 || 128 ≤ c) then return (natOf content, rest) else none

/-- Reads some whole numbers. -/
def readNats? : (count : Nat) → Bytes → Option (List Nat × Bytes)
  | 0, bs => some ([], bs)
  | count + 1, bs => do
    let (n, bs) ← readNat? bs
    let (ns, bs) ← readNats? count bs
    return (n :: ns, bs)

/-- Reads values with an identifier up to the end.  `count` bounds their number. -/
def readAll? (identifier : UInt8) : (count : Nat) → Bytes → Option (List Bytes)
  | _, [] => some []
  | 0, _ => none
  | count + 1, bs => do
    let (content, rest) ← read? identifier bs
    return content :: (← readAll? identifier count rest)

end VirtualNode.Pki.Der
