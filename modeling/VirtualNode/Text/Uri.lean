import VirtualNode.Text.Url

/-!
# Addresses

An address is a path alone, a host alone, or a scheme, a host and a path.  `Uri.parse?` takes an
address apart; the path and the query follow the rules of `Url`.  A host may come with a user
before it and a port after it, which are not told apart from it.
-/

set_option autoImplicit false

namespace VirtualNode.Text

/-- An address, taken apart. -/
structure Uri where
  scheme : Option String
  /-- The host, with its user and its port. -/
  host : Option String
  target : Url.Target
  deriving DecidableEq, Repr, Inhabited

namespace Uri

/-- A character that may stand in the name of a host, in a user name, or between them. -/
def isHostChar (c : Char) : Bool :=
  c.isAlphanum || "!$&'()*+,-.:;=@[]_~".toList.contains c

/-- A character that ends the host. -/
def endsHost (c : Char) : Bool := c = '/' || c = '?' || c = '#'

/-- What has been seen of a host, leaving aside what belongs to a user name. -/
structure HostScan where
  colons : Nat := 0
  opened : Bool := false
  closed : Bool := false
  percent : Bool := false
  /-- The last character was the one that separates user and host. -/
  afterAt : Bool := false
  deriving Repr, Inhabited

/-- Looks at the next character of a host. -/
def HostScan.step (s : HostScan) (c : Char) : Option HostScan :=
  if c = ':' then
    if 8 ≤ s.colons then none else some { s with colons := s.colons + 1, afterAt := false }
  else if c = '[' then
    if s.percent || s.opened then none else some { s with opened := true, afterAt := false }
  else if c = ']' then
    if !s.opened || s.closed then none
    else some { s with closed := true, colons := 0, percent := false, afterAt := false }
  else if c = '@' then some { s with colons := 0, percent := false, afterAt := true }
  else if c = '%' then some { s with percent := true, afterAt := false }
  else if isHostChar c then some { s with afterAt := false }
  else none

/-- Whether a text is a host, optionally with a user before it and a port after it. -/
def isHost (cs : List Char) : Bool :=
  match cs.foldlM HostScan.step {} with
  | none => false
  | some s => s.opened == s.closed && s.colons ≤ 1 && !s.afterAt && !s.percent

/-- A character of a scheme. -/
def isSchemeChar (c : Char) : Bool :=
  c.isAlphanum || c = '+' || c = '-' || c = '.' || c = '~'

/-- The scheme of a text and what follows it, if it has one. -/
def splitScheme? (cs : List Char) : Option (List Char × List Char) :=
  match cs.dropWhile isSchemeChar with
  | ':' :: '/' :: '/' :: rest => some (cs.takeWhile isSchemeChar, rest)
  | _ => none

/-- The most characters that a scheme has. -/
def schemeLimit : Nat := 64

/-- The first length in bytes that is too long for an address. -/
def lengthLimit : Nat := 65535

/-- The address that is a host alone. -/
def ofHost? (cs : List Char) : Option Uri :=
  if isHost cs then some ⟨none, some (String.ofList cs), ⟨"", ""⟩⟩ else none

/-- The address that follows a scheme. -/
def ofScheme? (scheme rest : List Char) : Option Uri := do
  let host := rest.takeWhile fun c => !endsHost c
  guard (scheme.length ≤ schemeLimit && !host.isEmpty && isHost host)
  let target ← Url.target? (String.ofList (rest.dropWhile fun c => !endsHost c))
  return ⟨some (String.ofList scheme), some (String.ofList host),
    if target.path = "" then { target with path := "/" } else target⟩

/-- Takes an address apart. -/
def parse? (s : String) : Option Uri :=
  if s.utf8ByteSize ≥ lengthLimit then none
  else match s.toList with
    | [] => none
    | ['*'] => some ⟨none, none, ⟨"*", ""⟩⟩
    | '/' :: _ => (Url.target? s).map fun target => ⟨none, none, target⟩
    | cs =>
      match splitScheme? cs with
      | none => ofHost? cs
      | some (scheme, rest) => ofScheme? scheme rest

/-- Whether a text can be used as an address. -/
def isAddress (s : String) : Bool := (parse? s).isSome

end Uri

end VirtualNode.Text
