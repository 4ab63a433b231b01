import VirtualNode.Json.Value

/-!
# Writing JSON

The compact text of a document: no blanks, members in order, and in a string only what has to be
escaped is escaped — the quote, the backslash and the characters below U+0020, five of which
have a short form.
-/

set_option autoImplicit false

namespace VirtualNode.Json

/-- The lower-case hexadecimal digit of a number below sixteen. -/
def hexDigit (n : Nat) : Char :=
  Nat.digitChar n

/-- The written form of one character inside a string. -/
def escapeChar (c : Char) : List Char :=
  match c with
  | '"' => ['\\', '"']
  | '\\' => ['\\', '\\']
  | '\x08' => ['\\', 'b']
  | '\x0c' => ['\\', 'f']
  | '\n' => ['\\', 'n']
  | '\r' => ['\\', 'r']
  | '\t' => ['\\', 't']
  | c =>
    if c.toNat < 0x20 then
      ['\\', 'u', '0', '0', hexDigit (c.toNat / 16), hexDigit (c.toNat % 16)]
    else [c]

/-- The string literal of a text. -/
def quoteChars (cs : List Char) : List Char :=
  '"' :: cs.flatMap escapeChar ++ ['"']

/-- The string literal of a text. -/
def quote (s : String) : String :=
  String.ofList (quoteChars s.toList)

/-- The text of a number. -/
def Number.write : Number → String
  | .whole n => toString n
  | .decimal m e => if e = 0 then toString m else toString m ++ "e" ++ toString e

/-- Puts commas between texts. -/
def commas : List String → String
  | [] => ""
  | [s] => s
  | s :: t :: rest => s ++ "," ++ commas (t :: rest)

mutual

/-- The compact text of a document. -/
def Value.write : Value → String
  | .null => "null"
  | .bool true => "true"
  | .bool false => "false"
  | .number n => n.write
  | .text s => quote s
  | .list items => "[" ++ commas (writeItems items) ++ "]"
  | .object members => "\x7b" ++ commas (writeMembers members) ++ "\x7d"

/-- The texts of the items of a list. -/
def writeItems : List Value → List String
  | [] => []
  | v :: rest => v.write :: writeItems rest

/-- The texts of the members of an object. -/
def writeMembers : List (String × Value) → List String
  | [] => []
  | (k, v) :: rest => (quote k ++ ":" ++ v.write) :: writeMembers rest

end

end VirtualNode.Json
