import VirtualNode.Text.Inkless

/-!
# Quoted text

The quoted form of a text, as it stands in diagnostics: double quotes around it, a backslash
before a quote or a backslash, short names for tab, line feed, carriage return and NUL, and the
code point in braces for every other character that has no glyph of its own.
-/

set_option autoImplicit false

namespace VirtualNode.Text.Quoted

/-- The digits of a number in base sixteen, without leading zeros. -/
def hexDigits (n : Nat) : List Char :=
  Nat.toDigits 16 n

/-- A character that is written by its code point. -/
def needsCodePoint (c : Char) : Bool :=
  c.toNat < 0x20 || c.toNat == 0x7F || isInkless c

/-- The written form of one character. -/
def encodeChar (c : Char) : List Char :=
  match c with
  | '\x00' => ['\\', '0']
  | '\t' => ['\\', 't']
  | '\n' => ['\\', 'n']
  | '\r' => ['\\', 'r']
  | '"' => ['\\', '"']
  | '\\' => ['\\', '\\']
  | c =>
    if needsCodePoint c then ['\\', 'u', '\x7b'] ++ hexDigits c.toNat ++ ['\x7d'] else [c]

/-- The quoted form of a text. -/
def encode (s : String) : String :=
  String.ofList ('"' :: s.toList.flatMap encodeChar ++ ['"'])

/-- The quoted form of a text that may be missing. -/
def encodeOption : Option String → String
  | none => "None"
  | some s => "Some(" ++ encode s ++ ")"

end VirtualNode.Text.Quoted
