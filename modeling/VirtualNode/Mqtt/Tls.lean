import VirtualNode.Fault
import VirtualNode.Pki.Pem
import VirtualNode.Text.Quoted

/-!
# Material for TLS

The certificates against which the broker is verified and, optionally, the certificate and the key
with which the controller identifies itself.  The files are checked before a connection is made;
`load` names the first thing that is wrong with them.
-/

set_option autoImplicit false

namespace VirtualNode.Mqtt.Tls

/-- A file: its name, and its content or the reason why it cannot be read. -/
structure File where
  name : String
  content : Except String ByteArray

/-- The reason why a file that does not exist cannot be read. -/
def noSuchFile : String := "No such file or directory (os error 2)"

/-- A file that does not exist. -/
def File.missing (name : String) : File := ⟨name, .error noSuchFile⟩

/-- What was loaded. -/
structure Material where
  /-- The certificates that are trusted. -/
  authorities : ByteArray
  /-- The certificate and the key of the controller. -/
  identity : Option (ByteArray × ByteArray)

/-- The name of a file as diagnostics show it. -/
def File.shown (f : File) : String := Text.Quoted.encode f.name

/-- Reads a file; diagnostics call it `what`. -/
def read (what : String) (f : File) : Except Fault ByteArray :=
  match f.content with
  | .ok content => .ok content
  | .error reason =>
    .error (.connection ("failed to read " ++ what ++ " " ++ f.shown ++ ": " ++ reason))

/-- Reads a file that must hold a certificate; diagnostics call it `what`, and a file without a
certificate `whatEmpty`. -/
def readCertificates (what whatEmpty : String) (f : File) : Except Fault ByteArray := do
  let content ← read what f
  match Pki.Pem.countCertificates content with
  | .error _ => .error (.connection ("invalid " ++ what ++ " " ++ f.shown))
  | .ok 0 => .error (.connection ("no certificates found in " ++ whatEmpty ++ f.shown))
  | .ok _ => .ok content

/-- Reads a file that must hold a private key. -/
def readKey (f : File) : Except Fault ByteArray := do
  let content ← read "client key" f
  match Pki.Pem.hasPrivateKey content with
  | .error _ => .error (.connection ("invalid client key " ++ f.shown))
  | .ok false => .error (.connection ("no private key found in " ++ f.shown))
  | .ok true => .ok content

/-- Loads the trusted certificates and, if files are given, the identity of the controller. -/
def load (authorities : File) (identity : Option (File × File)) : Except Fault Material := do
  let trusted ← readCertificates "CA bundle" "CA bundle " authorities
  match identity with
  | none => return ⟨trusted, none⟩
  | some (certificate, key) =>
    let certificate ← readCertificates "client certificate" "" certificate
    let key ← readKey key
    return ⟨trusted, some (certificate, key)⟩

end VirtualNode.Mqtt.Tls
