import VirtualNode.Text.Hex
import VirtualNode.Yaml.Token

/-!
# Directives and properties of nodes

Reading of directives, of names and of tags.  A tag is written as a handle and a rest, of which
either may be missing, or in full between angle brackets; bytes that may not stand in it are
written in base sixteen after a percent sign.
-/

set_option autoImplicit false

namespace VirtualNode.Yaml

/-- Reads the name of a node after its mark. -/
def readAnchor (c : Cursor) : Option (List Char × Cursor) :=
  let (name, c) := (c.skip 1).take isNameChar
  let ends := c.gapAt 0 || (c.peek? 0).any fun x => "?:,]\x7d%@`".toList.contains x
  if name.isEmpty || !ends then none else some (name, c)

/-! ## Tags -/

/-- Reads an encoded byte. -/
def readByte (c : Cursor) : Option (Nat × Cursor) :=
  match c.rest with
  | '%' :: a :: b :: _ => do
    return ((← Text.Hex.digit? a) * 16 + (← Text.Hex.digit? b), c.skip 3)
  | _ => none

/-- The number of bytes of a character, told by the first one. -/
def widthOf? (byte : Nat) : Option Nat :=
  if byte < 0x80 then some 1
  else if 0xC0 ≤ byte && byte < 0xE0 then some 2
  else if 0xE0 ≤ byte && byte < 0xF0 then some 3
  else if 0xF0 ≤ byte && byte < 0xF8 then some 4
  else none

/-- Reads the bytes of an encoded character that follow the first one. -/
def readTrailing : (count : Nat) → Cursor → Option (List UInt8 × Cursor)
  | 0, c => some ([], c)
  | count + 1, c => do
    let (byte, c) ← readByte c
    guard (0x80 ≤ byte && byte < 0xC0)
    let (bytes, c) ← readTrailing count c
    return (UInt8.ofNat byte :: bytes, c)

/-- Reads an encoded character. -/
def readEncoded (c : Cursor) : Option (List UInt8 × Cursor) := do
  let (byte, c) ← readByte c
  let width ← widthOf? byte
  let (bytes, c) ← readTrailing (width - 1) c
  return (UInt8.ofNat byte :: bytes, c)

/-- A character that may stand in a tag; in a tag that is written in full, or in the stem of tags,
some more may. -/
def isTagChar (full : Bool) (c : Char) : Bool :=
  isNameChar c || ";/?:@&=+$.%!~*'()".toList.contains c || (full && ",[]".toList.contains c)

/-- Reads the characters of a tag.  `count` bounds their number. -/
def readTagChars (full : Bool) : (count : Nat) → Cursor → Option (List UInt8 × Cursor)
  | 0, c => some ([], c)
  | count + 1, c =>
    match c.rest with
    | '%' :: _ => do
      let (bytes, c) ← readEncoded c
      let (more, c) ← readTagChars full count c
      return (bytes ++ more, c)
    | x :: _ =>
      if isTagChar full x then do
        let (more, c) ← readTagChars full count (c.skip 1)
        return (UInt8.ofNat x.toNat :: more, c)
      else some ([], c)
    | [] => some ([], c)

/-- Reads the characters of a tag that follow those of `head`.  There must be one of either.  What
follows a zero byte does not count. -/
def readTagText (full : Bool) (head : List Char) (c : Cursor) : Option (List UInt8 × Cursor) := do
  let (bytes, after) ← readTagChars full c.rest.length c
  guard (!head.isEmpty || after.index ≠ c.index)
  let front := (head.drop 1).map fun x => UInt8.ofNat x.toNat
  return ((front ++ bytes).takeWhile (· ≠ 0), after)

/-- Reads a handle: an exclamation mark, or a name between two of them.  A name that no second
mark follows is read as well, but is no handle. -/
def readHandle (c : Cursor) : Option (List Char × Cursor) :=
  match c.rest with
  | '!' :: _ =>
    let (name, after) := (c.skip 1).take isNameChar
    if after.starts '!' then some ('!' :: name ++ ['!'], after.skip 1)
    else some ('!' :: name, after)
  | _ => none

/-- Whether what was read as a handle is one with a name, or the one without. -/
def isHandle (handle : List Char) : Bool :=
  1 < handle.length && handle.getLast? = some '!'

/-- Reads a tag that is written in full. -/
def readFullTag (c : Cursor) : Option (Token × Cursor) := do
  let (bytes, c) ← readTagText true [] (c.skip 2)
  guard (c.starts '>')
  return (.tag [] bytes, c.skip 1)

/-- Reads a tag that is written as a handle and a rest. -/
def readShortTag (c : Cursor) : Option (Token × Cursor) := do
  let (handle, after) ← readHandle c
  if isHandle handle then
    let (bytes, after) ← readTagText false [] after
    return (.tag handle bytes, after)
  else
    let (bytes, after) ← readTagText false handle after
    return (if bytes.isEmpty then .tag [] [33] else .tag ['!'] bytes, after)

/-- Reads a tag.  `inFlow` says whether a comma may follow it. -/
def readTag (inFlow : Bool) (c : Cursor) : Option (Token × Cursor) := do
  let (token, c) ← if c.peek? 1 = some '<' then readFullTag c else readShortTag c
  guard ((inFlow && c.starts ',') || c.gapAt 0)
  return (token, c)

/-! ## Directives -/

/-- Reads a number of at most nine digits. -/
def readVersionPart (c : Cursor) : Option (Nat × Cursor) :=
  let (digits, c) := c.take Char.isDigit
  if digits.isEmpty || 9 < digits.length then none
  else some (digits.foldl (fun n d => n * 10 + (d.toNat - 48)) 0, c)

/-- Reads the version of a document. -/
def readVersion (c : Cursor) : Option (Token × Cursor) := do
  let (major, c) ← readVersionPart (c.skipAll isBlank)
  guard (c.starts '.')
  let (minor, c) ← readVersionPart (c.skip 1)
  return (.versionDirective major minor, c)

/-- Reads a short form of the beginnings of tags. -/
def readTagDirective (c : Cursor) : Option (Token × Cursor) := do
  let (handle, c) ← readHandle (c.skipAll isBlank)
  guard ((isHandle handle || handle = ['!']) && c.blankAt 0)
  let (stem, c) ← readTagText true [] (c.skipAll isBlank)
  guard (c.gapAt 0)
  return (.tagDirective handle stem, c)

/-- Reads a directive with its line. -/
def readDirective (c : Cursor) : Option (Token × Cursor) := do
  let (name, c) := (c.skip 1).take isNameChar
  guard (!name.isEmpty && c.gapAt 0)
  let (token, c) ←
    if name = "YAML".toList then readVersion c
    else if name = "TAG".toList then readTagDirective c
    else none
  return (token, ← c.finishLine?)

end VirtualNode.Yaml
