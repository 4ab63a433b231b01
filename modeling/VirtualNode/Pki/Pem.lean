import VirtualNode.Text.Base64

/-!
# PEM files

A file holds sections, each between a line that begins it and a line that ends it, both of which
carry the label of the section.  Whatever stands outside of sections means nothing, and neither
do sections with a label that is not known.
-/

set_option autoImplicit false

namespace VirtualNode.Pki.Pem

/-- The forms in which private keys are written. -/
inductive KeyForm where
  /-- A key of any algorithm, which is named. -/
  | general
  | rsa
  | ellipticCurve
  deriving DecidableEq, Repr, Inhabited

/-- The kinds of sections that are known. -/
inductive Kind where
  | certificate
  | privateKey (form : KeyForm)
  /-- Known, but of no use here. -/
  | other
  deriving DecidableEq, Repr, Inhabited

/-- A section of a known kind. -/
structure Section where
  kind : Kind
  content : List UInt8
  deriving DecidableEq, Repr, Inhabited

/-- What makes a file unreadable. -/
inductive PemError where
  /-- A line begins a section but does not close its label with five dashes. -/
  | illegalStart
  /-- The file ends within a section. -/
  | missingEnd
  /-- The content of a section is not written in base sixty-four. -/
  | illegalContent
  deriving DecidableEq, Repr, Inhabited

/-- The bytes of a text. -/
def bytes (s : String) : List UInt8 := s.toUTF8.toList

/-- The kind of a label. -/
def kind? (label : List UInt8) : Option Kind :=
  if label = bytes "CERTIFICATE" then some .certificate
  else if label = bytes "PRIVATE KEY" then some (.privateKey .general)
  else if label = bytes "RSA PRIVATE KEY" then some (.privateKey .rsa)
  else if label = bytes "EC PRIVATE KEY" then some (.privateKey .ellipticCurve)
  else if ["PUBLIC KEY", "X509 CRL", "CERTIFICATE REQUEST", "ECHCONFIG"].any fun l =>
      label = bytes l then
    some .other
  else none

/-- A line feed or a carriage return. -/
def isLineEnd (b : UInt8) : Bool := b = 10 || b = 13

/-- The lines of a file; a line feed and a carriage return both end a line. -/
def lines : List UInt8 → List (List UInt8)
  | [] => []
  | b :: bs =>
    if isLineEnd b then [] :: lines bs
    else match lines bs with
      | [] => [[b]]
      | line :: rest => (b :: line) :: rest

/-- What every line that begins a section begins with. -/
def startMark : List UInt8 := bytes "-----BEGIN "

/-- What stands before the label in a line that ends a section. -/
def endMark : List UInt8 := bytes "-----END "

/-- Five dashes. -/
def dashes : List UInt8 := bytes "-----"

/-- The dashes and blanks at the end of a line, as the number of dashes and the rest in reverse
order. -/
def countTrailer (rest : List UInt8) (dashes : Nat) : List UInt8 → Nat × List UInt8
  | [] => (dashes, rest)
  | b :: bs =>
    if b = 45 then countTrailer bs (dashes + 1) bs
    else if b = 32 then countTrailer rest dashes bs
    else (dashes, rest)

/-- The label in a line that begins a section: what stands between the mark and the five dashes
at the end. -/
def label? (line : List UInt8) : Option (List UInt8) :=
  let (count, rest) := countTrailer line.reverse 0 line.reverse
  if count = 5 then some (rest.reverse.drop startMark.length) else none

/-- A line without the blanks at its end. -/
def trimEnd (line : List UInt8) : List UInt8 :=
  (line.reverse.dropWhile (· = 32)).reverse

/-- A section of which the end has not been read: its label and its content so far. -/
structure OpenSection where
  label : List UInt8
  content : List UInt8

/-- Reads the sections of known kinds up to the first error.  Content that is left over when a
section begins within another one is kept. -/
def readLines : Option OpenSection → List (List UInt8) → List Section × Option PemError
  | none, [] => ([], none)
  | some _, [] => ([], some .missingEnd)
  | current, line :: rest =>
    if startMark.isPrefixOf line then
      match label? line with
      | none => ([], some .illegalStart)
      | some label =>
        readLines (some ⟨label, (current.map OpenSection.content).getD []⟩) rest
    else match current with
      | none => readLines none rest
      | some part =>
        if (endMark ++ part.label ++ dashes).isPrefixOf line then
          match kind? part.label with
          | none => readLines none rest
          | some kind =>
            match Text.Base64.decode? part.content with
            | none => ([], some .illegalContent)
            | some content =>
              let (sections, error) := readLines none rest
              (⟨kind, content⟩ :: sections, error)
        else readLines (some { part with content := part.content ++ trimEnd line }) rest

/-- The sections of known kinds in a file up to the first error. -/
def sections (file : List UInt8) : List Section × Option PemError :=
  readLines none (lines file)

/-- The number of certificates in a file. -/
def countCertificates (file : ByteArray) : Except PemError Nat :=
  match sections file.toList with
  | (_, some e) => .error e
  | (found, none) => .ok (found.countP fun s => s.kind = .certificate)

/-- Whether a section holds a private key. -/
def Section.isPrivateKey (s : Section) : Bool :=
  match s.kind with
  | .privateKey _ => true
  | _ => false

/-- Whether a file holds a private key.  What stands behind the first key means nothing. -/
def hasPrivateKey (file : ByteArray) : Except PemError Bool :=
  match sections file.toList with
  | (found, e) =>
    if found.any Section.isPrivateKey then .ok true
    else match e with
      | some e => .error e
      | none => .ok false

end VirtualNode.Pki.Pem
