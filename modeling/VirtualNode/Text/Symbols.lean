/-!
# Bytes read as symbols

Received bytes are read as UTF-8 one symbol at a time.  A symbol is a character, or a byte that
is part of no character; a byte below 0x80 always stands for itself, whatever precedes it.  Main
statement: the bytes of a text read back as its characters.
-/

set_option autoImplicit false

namespace VirtualNode.Text

/-- A character, or `none` for a byte that belongs to no character. -/
abbrev Symbol := Option Char

namespace Symbols

/-- The payload of a continuation byte. -/
def continuation? (b : UInt8) : Option Nat :=
  if 0x80 ≤ b && b ≤ 0xBF then some (b.toNat - 0x80) else none

/-- The code point written in two bytes, unless it has a shorter form. -/
def two? (b c : UInt8) : Option Nat := do
  guard (0xC2 ≤ b && b ≤ 0xDF)
  return (b.toNat - 0xC0) * 64 + (← continuation? c)

/-- The code point written in three bytes, unless it has a shorter form or is a surrogate. -/
def three? (b c d : UInt8) : Option Nat := do
  guard (0xE0 ≤ b && b ≤ 0xEF)
  let n := (b.toNat - 0xE0) * 4096 + (← continuation? c) * 64 + (← continuation? d)
  guard (0x800 ≤ n && !(0xD800 ≤ n && n ≤ 0xDFFF))
  return n

/-- The code point written in four bytes, unless it has a shorter form or is too large. -/
def four? (b c d e : UInt8) : Option Nat := do
  guard (0xF0 ≤ b && b ≤ 0xF4)
  let n := (b.toNat - 0xF0) * 262144 + (← continuation? c) * 4096
    + (← continuation? d) * 64 + (← continuation? e)
  guard (0x10000 ≤ n && n ≤ 0x10FFFF)
  return n

/-- Reads bytes one symbol at a time; a byte that starts no character is a symbol of its own. -/
def scan : List UInt8 → List Symbol
  | [] => []
  | [b] => (if b < 0x80 then some (Char.ofNat b.toNat) else none) :: []
  | b :: c :: rest =>
    if b < 0x80 then some (Char.ofNat b.toNat) :: scan (c :: rest)
    else match two? b c with
      | some n => some (Char.ofNat n) :: scan rest
      | none => match rest with
        | [] => none :: scan [c]
        | d :: rest => match three? b c d with
          | some n => some (Char.ofNat n) :: scan rest
          | none => match rest with
            | [] => none :: scan [c, d]
            | e :: rest => match four? b c d e with
              | some n => some (Char.ofNat n) :: scan rest
              | none => none :: scan (c :: d :: e :: rest)
termination_by bs => bs.length

/-- The symbols of received bytes. -/
def ofBytes (bytes : ByteArray) : List Symbol :=
  match String.fromUTF8? bytes with
  | some s => s.toList.map some
  | none => scan bytes.toList

/-- The symbols of a text are its characters. -/
def ofString (s : String) : List Symbol :=
  s.toList.map some

/-- The text that symbols spell, unless one of them is no character. -/
def text? (symbols : List Symbol) : Option String :=
  (symbols.mapM id).map String.ofList

/-- The bytes of a text read back as its characters. -/
theorem ofBytes_toUTF8 (s : String) : ofBytes s.toUTF8 = ofString s := by
  have h : String.fromUTF8? s.toUTF8 = some s := by
    unfold String.fromUTF8?
    exact dif_pos s.isValidUTF8
  rw [ofBytes, h, ofString]

/-- The number of bytes that a symbol takes. -/
def byteCount : Symbol → Nat
  | some c => c.utf8Size
  | none => 1

/-- The number of bytes that symbols take. -/
def byteLength : List Symbol → Nat
  | [] => 0
  | x :: xs => byteCount x + byteLength xs

end Symbols

end VirtualNode.Text
