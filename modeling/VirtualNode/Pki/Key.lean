import VirtualNode.Pki.Certificate
import VirtualNode.Pki.Pem

/-!
# Private keys

Private keys of RSA, of the elliptic curves P-256 and P-384, and of the curve Ed25519.  A key is
matched with a certificate through its public half, as far as it is written in it.
-/

set_option autoImplicit false

namespace VirtualNode.Pki

open Der (Bytes)

/-- What a private key tells of its public half. -/
inductive PublicHalf where
  | rsa (modulus exponent : Nat)
  /-- A point of a curve, given by its coordinates. -/
  | point (curve coordinates : Bytes)
  /-- A point of the curve Ed25519, which is not written in the key. -/
  | hidden
  deriving DecidableEq, Repr, Inhabited

namespace PublicHalf

/-! ## Algorithms -/

/-- The algorithm RSA. -/
def rsaAlgorithm : Bytes := [6, 9, 42, 134, 72, 134, 247, 13, 1, 1, 1, 5, 0]

/-- The algorithms on an elliptic curve. -/
def curveAlgorithm (curve : Bytes) : Bytes := [6, 7, 42, 134, 72, 206, 61, 2, 1] ++ curve

/-- The curve P-256. -/
def curve256 : Bytes := [6, 8, 42, 134, 72, 206, 61, 3, 1, 7]

/-- The curve P-384. -/
def curve384 : Bytes := [6, 5, 43, 129, 4, 0, 34]

/-- The algorithm on the curve Ed25519. -/
def edwardsAlgorithm : Bytes := [6, 3, 43, 101, 112]

/-! ## Keys -/

/-- Reads a key for RSA: a modulus of a length that is in use, and its factors. -/
def ofRsa? (key : Bytes) : Option PublicHalf := do
  let (numbers, rest) ← Der.readNats? 9 (← Der.only? Der.sequence key)
  match numbers with
  | [0, n, e, _, p, q, _, _, _] =>
    guard (rest = [] && n = p * q && 65537 ≤ e)
    guard (2047 ≤ n.log2 && n.log2 < 4096)
    return .rsa n e
  | _ => none

/-- The curve on which a number of so many bytes is a key. -/
def curveOf? (width : Nat) : Option Bytes :=
  if width = 32 then some curve256 else if width = 48 then some curve384 else none

/-- Reads a key for an elliptic curve: a number, the name of the curve, which may be missing, and
the point that goes with the number. -/
def ofCurve? (key : Bytes) : Option PublicHalf := do
  let (version, bs) ← Der.readNat? (← Der.only? Der.sequence key)
  let (secret, bs) ← Der.read? Der.octetString bs
  let curve ← curveOf? secret.length
  let (named, bs) ← Der.optional? (Der.numbered 0) bs
  let (coordinates, rest) ← Der.readBits? (← Der.only? (Der.numbered 1) bs)
  guard (version = 1 && named.all (· = curve) && rest = [])
  return .point curve coordinates

/-- Reads a key that names its algorithm. -/
def ofGeneral? (key : Bytes) : Option PublicHalf := do
  let (version, bs) ← Der.readNat? (← Der.only? Der.sequence key)
  let (algorithm, bs) ← Der.read? Der.sequence bs
  let (content, bs) ← Der.read? Der.octetString bs
  let (_, rest) ← Der.optional? (Der.numbered 0) bs
  if algorithm = edwardsAlgorithm then
    guard (version ≤ 1 && (Der.only? Der.octetString content).any fun seed => seed.length = 32)
    return .hidden
  else
    guard (version = 0 && rest = [])
    if algorithm = rsaAlgorithm then ofRsa? content
    else match ← ofCurve? content with
      | .point curve coordinates =>
        if algorithm = curveAlgorithm curve then return .point curve coordinates else none
      | _ => none

/-- Reads a key in one of its forms. -/
def ofKey? : Pem.KeyForm → Bytes → Option PublicHalf
  | .general => ofGeneral?
  | .rsa => ofRsa?
  | .ellipticCurve => ofCurve?

/-! ## Matching -/

/-- Whether a certificate is about a key. -/
def isSubject (half : PublicHalf) (c : Certificate) : Bool :=
  match Der.read? Der.sequence c.subjectKey with
  | none => false
  | some (algorithm, rest) =>
    match Der.readBits? rest, half with
    | some (bits, []), .rsa n e =>
      algorithm = rsaAlgorithm
        && ((Der.only? Der.sequence bits).bind (Der.readNats? 2)) = some ([n, e], [])
    | some (bits, []), .point curve coordinates =>
      algorithm = curveAlgorithm curve && bits = coordinates
    | some (_, []), .hidden => algorithm = edwardsAlgorithm
    | _, _ => false

end PublicHalf

/-! ## Identities -/

/-- The private key in a file: the last one that names its algorithm, or else the last one for RSA,
or else the last one for an elliptic curve. -/
def privateKey? (sections : List Pem.Section) : Option (Pem.KeyForm × Bytes) :=
  let last (form : Pem.KeyForm) : Option (Pem.KeyForm × Bytes) :=
    ((sections.filter fun s => s.kind = .privateKey form).getLast?).map fun s => (form, s.content)
  ((last .general).or (last .rsa)).or (last .ellipticCurve)

/-- Whether a file holds a private key and certificates, of which the first one is about the key,
and nothing else. -/
def isIdentity (file : Bytes) : Bool :=
  match Pem.sections file with
  | (sections, none) =>
    let certificates := sections.filter fun s => s.kind = .certificate
    match certificates.head?.bind fun s => Certificate.readThird? s.content,
      (privateKey? sections).bind fun (form, key) => PublicHalf.ofKey? form key with
    | some certificate, some half =>
      half.isSubject certificate && !sections.any fun s => s.kind = .other
    | _, _ => false
  | (_, some _) => false

end VirtualNode.Pki
