import VirtualNode.Kube.Kubeconfig
import VirtualNode.Time.Reading

/-!
# Logging in to a cluster

How requests prove who makes them.  A user may be described in several ways, of which the first
one in this order counts: a service that gives credentials, a name with a password, a token, a
file with a token, a program that gives credentials.
-/

set_option autoImplicit false

namespace VirtualNode.Kube

open Kubeconfig (Provider User)

/-- What requests prove. -/
inductive Login where
  /-- Nothing. -/
  | anonymous
  | password (name secret : String)
  | token (secret : String)
  /-- A token that is read again from time to time. -/
  | renewed (secret : String)
  deriving DecidableEq, Repr, Inhabited

/-- Why nobody can be logged in. -/
inductive LoginFault where
  /-- The service that gives credentials cannot be used. -/
  | provider
  /-- The file with the token cannot be read. -/
  | tokenFile
  /-- Programs that give credentials are not run. -/
  | program
  deriving DecidableEq, Repr, Inhabited

namespace Login

/-- The content of a file, if it can be read. -/
abbrev Reader := String → Option (List UInt8)

/-- Logs in with what a service gave before.  `now` is missing if the time is not known; then a
token that expires is taken as expired. -/
def ofProvider? (now : Option Time.Stamp) (p : Provider) : Option Login :=
  match p.settings.lookup "id-token" with
  | some secret => if p.name = "oidc" || p.name = "gcp" then some (.token secret) else none
  | none => do
    guard (p.name = "gcp")
    let secret ← p.settings.lookup "access-token"
    let expiry ← Time.Stamp.parseFreely? (← p.settings.lookup "expiry")
    guard ((← now).earlierThan expiry)
    return .renewed secret

/-- Logs in without a service that gives credentials. -/
def ofFields (read : Reader) (u : User) : Except LoginFault Login :=
  match u.username, u.password, u.token, u.tokenPath with
  | some name, some secret, _, _ => .ok (.password name secret)
  | _, _, some secret, _ => .ok (.token secret)
  | _, _, none, some path =>
    match (read path).bind fun bytes => String.fromUTF8? ⟨bytes.toArray⟩ with
    | some secret => .ok (.renewed secret)
    | none => .error .tokenFile
  | _, _, none, none => if u.hasProgram then .error .program else .ok .anonymous

/-- Logs a user in. -/
def ofUser (now : Option Time.Stamp) (read : Reader) (u : User) : Except LoginFault Login :=
  match u.provider with
  | none => ofFields read u
  | some p =>
    match ofProvider? now p with
    | some login => .ok login
    | none => .error .provider

end Login

end VirtualNode.Kube
