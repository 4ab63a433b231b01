import VirtualNode.Pki.Der

/-!
# Certificates

The outer form of X.509 certificates.  `Certificate.read?` accepts certificates of version three,
whose extensions must be known or not critical, and certificates of version one.  Signatures are
not verified.
-/

set_option autoImplicit false

namespace VirtualNode.Pki

open Der (Bytes)

/-- A certificate: what it says of the key that it is about. -/
structure Certificate where
  /-- The algorithm of the key and the key, both encoded. -/
  subjectKey : Bytes
  deriving DecidableEq, Repr, Inhabited

namespace Certificate

/-- What a certificate says, and how it is signed. -/
structure Signed where
  statement : Bytes
  algorithm : Bytes

/-- Reads what is signed, the algorithm and the signature. -/
def readSigned? (file : Bytes) : Option Signed := do
  let body ← Der.only? Der.sequence file
  let (statement, rest) ← Der.read? Der.sequence body
  let (algorithm, rest) ← Der.read? Der.sequence rest
  let (_, rest) ← Der.readBits? rest
  if rest = [] then return ⟨statement, algorithm⟩ else none

/-! ## Extensions -/

/-- An extension. -/
structure Extension where
  name : Bytes
  critical : Bool
  value : Bytes

/-- Reads an extension. -/
def readExtension? (bs : Bytes) : Option Extension := do
  let (name, bs) ← Der.read? Der.objectName bs
  let (flag, bs) ← Der.optional? Der.boolean bs
  let critical ← match flag with
    | none => some false
    | some [0] => some false
    | some [255] => some true
    | _ => none
  return ⟨name, critical, ← Der.only? Der.octetString bs⟩

/-- The register number of an extension that is understood: what the key may be used for (15, 37),
other names of its owner (17), whether it signs other certificates (19) and for which names (30),
and where revocations are announced (31). -/
def Extension.number? (e : Extension) : Option UInt8 :=
  match e.name with
  | [85, 29, n] => if [15, 17, 19, 30, 31, 37].contains n then some n else none
  | _ => none

/-- Whether the value of an extension has the form that its number asks for. -/
def Extension.fits (e : Extension) (number : UInt8) : Bool :=
  number = 15 || (Der.only? Der.sequence e.value).isSome

/-- Whether extensions are acceptable.  None that is understood may stand there twice. -/
def areAcceptable : List UInt8 → List Extension → Bool
  | _, [] => true
  | seen, e :: rest =>
    match e.number? with
    | none => !e.critical && areAcceptable seen rest
    | some n => !seen.contains n && e.fits n && areAcceptable (n :: seen) rest

/-- Reads the extensions, if there are any. -/
def readExtensions? (bs : Bytes) : Option (List Extension) :=
  if bs = [] then some []
  else do
    let list ← Der.only? Der.sequence (← Der.only? (Der.numbered 3) bs)
    (← Der.readAll? Der.sequence list.length list).mapM readExtension?

/-! ## Versions -/

/-- The encoded number of version three. -/
def versionThree : Bytes := [2, 1, 2]

/-- Reads what a certificate of version three says. -/
def readThree? (s : Signed) : Option Certificate := do
  let (version, bs) ← Der.read? (Der.numbered 0) s.statement
  guard (version = versionThree)
  let (_, bs) ← Der.read? Der.integer bs
  let (algorithm, bs) ← Der.read? Der.sequence bs
  guard (algorithm = s.algorithm)
  let (_, bs) ← Der.read? Der.sequence bs
  let (_, bs) ← Der.read? Der.sequence bs
  let (_, bs) ← Der.read? Der.sequence bs
  let (key, bs) ← Der.read? Der.sequence bs
  guard (areAcceptable [] (← readExtensions? bs))
  return ⟨key⟩

/-- Reads what a certificate of version one says. -/
def readOne? (s : Signed) : Option Certificate := do
  let (_, bs) ← Der.read? Der.integer s.statement
  let (_, bs) ← Der.read? Der.sequence bs
  let (_, bs) ← Der.read? Der.sequence bs
  let (_, bs) ← Der.read? Der.sequence bs
  let (_, bs) ← Der.read? Der.sequence bs
  return ⟨← Der.only? Der.sequence bs⟩

/-- Reads a certificate of version three. -/
def readThird? (file : Bytes) : Option Certificate := (readSigned? file).bind readThree?

/-- Reads a certificate. -/
def read? (file : Bytes) : Option Certificate := do
  let s ← readSigned? file
  (readThree? s).orElse fun _ => readOne? s

end Certificate

end VirtualNode.Pki
