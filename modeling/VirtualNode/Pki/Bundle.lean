import VirtualNode.Text.Base64
import VirtualNode.Text.Blank

/-!
# Bundles of certificates

The certificates in a file, told apart by marks that may stand anywhere in a line.  Between the
marks may stand lines of the form `name: value`, which an empty line separates from the content.
Unlike in `Pem`, every part of a bundle must be readable, whatever its label.
-/

set_option autoImplicit false

namespace VirtualNode.Pki.Bundle

/-- Bytes. -/
abbrev Bytes := List UInt8

/-- The bytes of a text. -/
def bytes (s : String) : Bytes := s.toUTF8.toList

/-- What stands before a mark and behind it.  `found` is what has been seen of the mark, `left`
what has not; a byte that is not the next one of the mark does not begin it anew. -/
def cutAt? (mark : Bytes) (before found left : Bytes) : Bytes → Option (Bytes × Bytes)
  | [] => none
  | b :: rest =>
    match left with
    | [] => none
    | [last] =>
      if b = last then some (before.reverse, rest)
      else cutAt? mark (b :: found ++ before) [] mark rest
    | next :: more =>
      if b = next then cutAt? mark before (b :: found) more rest
      else cutAt? mark (b :: found ++ before) [] mark rest

/-- What stands before a mark and behind it. -/
def cut? (mark : String) (file : Bytes) : Option (Bytes × Bytes) :=
  cutAt? (bytes mark) [] [] (bytes mark) file

/-- Drops blanks and ends of lines. -/
def dropSpace (file : Bytes) : Bytes :=
  file.dropWhile fun b => b = 32 || b = 9 || b = 10 || b = 13

/-- A part of a bundle: the label before it, what stands in it, and the label behind it. -/
structure Part where
  label : Bytes
  body : Bytes
  closing : Bytes
  deriving DecidableEq, Repr, Inhabited

/-- Reads the first part of a file. -/
def Part.read? (file : Bytes) : Option (Part × Bytes) := do
  let (_, file) ← cut? "-----BEGIN " file
  let (label, file) ← cut? "-----" file
  let (body, file) ← cut? "-----END " (dropSpace file)
  let (closing, file) ← cut? "-----" file
  return (⟨label, body, closing⟩, dropSpace file)

/-- The parts of a file.  `count` bounds their number. -/
def parts : (count : Nat) → Bytes → List Part
  | 0, _ => []
  | count + 1, file =>
    match Part.read? file with
    | none => []
    | some (part, rest) => part :: parts count rest

/-- The lines at the head of a part, and its content. -/
def Part.split (p : Part) : Bytes × Bytes :=
  (cut? "\n\n" p.body).getD ((cut? "\r\n\r\n" p.body).getD ([], p.body))

/-- Whether every line of a text has a colon in it. -/
def isHead (text : String) : Bool :=
  let lines := text.toList.splitOn '\n'
  let lines := if lines.getLast? = some [] then lines.dropLast else lines
  lines.all fun line => line.contains ':'

/-- The content of a part, if the part is well-formed. -/
def Part.content? (p : Part) : Option Bytes := do
  let (head, data) := p.split
  let label ← String.fromUTF8? ⟨p.label.toArray⟩
  guard (label ≠ "" && p.label = p.closing)
  let text ← String.fromUTF8? ⟨data.toArray⟩
  let inked := text.toList.filter fun c => !Text.isBlank c
  let content ← Text.Base64.decodeExact? (String.ofList inked).toUTF8.toList
  guard (isHead (← String.fromUTF8? ⟨head.toArray⟩))
  return content

/-- The certificates in a file. -/
def certificates? (file : Bytes) : Option (List Bytes) := do
  let contents ← (parts file.length file).mapM fun p => do
    return (p.label, ← p.content?)
  return contents.filterMap fun c => if c.1 = bytes "CERTIFICATE" then some c.2 else none

end VirtualNode.Pki.Bundle
