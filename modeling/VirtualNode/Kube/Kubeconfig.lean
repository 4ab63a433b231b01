import VirtualNode.Yaml.Record

/-!
# Configuration files for the access to a cluster

A configuration file names clusters, users and contexts; a context joins a cluster and a user, and
one context is the current one.  A file may hold several documents, which are merged; the first one
that says something wins.

Main definition: `Kubeconfig.parse?`.
-/

set_option autoImplicit false

namespace VirtualNode.Kube

open Yaml (Value Record)

namespace Kubeconfig

/-- Something that is given by its content in base sixty-four, or else by the name of a file. -/
structure Source where
  data : Option String
  path : Option String
  deriving DecidableEq, Repr, Inhabited

/-- A cluster. -/
structure Cluster where
  server : Option String
  /-- The certificates against which the server is verified. -/
  authority : Source
  proxy : Option String
  /-- The name that the certificate of the server must bear. -/
  serverName : Option String
  deriving DecidableEq, Repr, Inhabited

/-- A service that gives credentials, with its settings. -/
structure Provider where
  name : String
  settings : List (String × String)
  deriving DecidableEq, Repr, Inhabited

/-- A user. -/
structure User where
  username : Option String
  password : Option String
  token : Option String
  tokenPath : Option String
  certificate : Source
  key : Source
  /-- The user as whom requests are made. -/
  actsAs : Option String
  /-- The groups as whose member requests are made. -/
  groups : List String
  provider : Option Provider
  /-- Whether a program gives the credentials. -/
  hasProgram : Bool
  deriving DecidableEq, Repr, Inhabited

/-- A context. -/
structure Context where
  cluster : String
  user : String
  deriving DecidableEq, Repr, Inhabited

/-- Entries with names.  What stands under a name may be missing. -/
abbrev Named (α : Type) := List (String × Option α)

end Kubeconfig

/-- What a configuration file says. -/
structure Kubeconfig where
  kind : Option String
  apiVersion : Option String
  currentContext : Option String
  clusters : Kubeconfig.Named Kubeconfig.Cluster
  users : Kubeconfig.Named Kubeconfig.User
  contexts : Kubeconfig.Named Kubeconfig.Context
  deriving Repr, Inhabited

namespace Kubeconfig

/-! ## Reading -/

/-- Reads an extension: a name and data. -/
def readExtension? (v : Value) : Option Unit := do
  let r ← v.record? ["name", "extension"]
  let _ ← r.required? "name"
  guard ((r.get? "extension").any Value.isData)

/-- Reads the extensions of an entry. -/
def readExtensions? (r : Record) : Option Unit := do
  let _ ← r.list? "extensions" readExtension?

/-- Reads an entry with a name and, in the field `under`, what is known of it. -/
def named? {α : Type} (under : String) (f : Value → Option α) (v : Value) :
    Option (String × Option α) := do
  let r ← v.record? ["name", under]
  return (← r.required? "name", ← r.opt? under f)

/-- Reads what a field and its twin for the content give. -/
def Source.ofFields? (r : Record) (name : String) : Option Source := do
  return ⟨← r.text? (name ++ "-data"), ← r.text? name⟩

/-- The fields of a cluster. -/
def Cluster.fields : List String :=
  ["server", "insecure-skip-tls-verify", "certificate-authority", "certificate-authority-data",
    "proxy-url", "tls-server-name", "disable-compression", "extensions"]

/-- Reads a cluster. -/
def Cluster.ofYaml? (v : Value) : Option Cluster := do
  let r ← v.record? fields
  let _ ← r.opt? "insecure-skip-tls-verify" Value.truth?
  let _ ← r.opt? "disable-compression" Value.truth?
  readExtensions? r
  return ⟨← r.text? "server", ← Source.ofFields? r "certificate-authority",
    ← r.text? "proxy-url", ← r.text? "tls-server-name"⟩

/-- Reads a context. -/
def Context.ofYaml? (v : Value) : Option Context := do
  let r ← v.record? ["cluster", "user", "namespace", "extensions"]
  let _ ← r.text? "namespace"
  readExtensions? r
  return ⟨← r.required? "cluster", ← r.required? "user"⟩

/-- Reads a service that gives credentials.  Of settings with the same name the last one counts. -/
def Provider.ofYaml? (v : Value) : Option Provider := do
  let r ← v.record? ["name", "config"]
  let settings ← match r.get? "config" with
    | none => some []
    | some v => v.textMap?
  return ⟨← r.required? "name", settings.reverse⟩

/-- The fields of a program that gives credentials. -/
def programFields : List String :=
  ["apiVersion", "command", "args", "env", "interactiveMode", "provideClusterInfo"]

/-- When a program may ask questions. -/
def questionModes : List String := ["Never", "IfAvailable", "Always"]

/-- Reads a program that gives credentials. -/
def readProgram? (v : Value) : Option Unit := do
  let r ← v.record? programFields
  let _ ← r.text? "apiVersion"
  let _ ← r.text? "command"
  let _ ← r.list? "args" Value.text?
  let _ ← r.list? "env" Value.textMap?
  let mode ← r.opt? "interactiveMode" Value.choice?
  guard (mode.all fun m => questionModes.contains m)
  guard ((r.get? "provideClusterInfo").all fun v => v.truth?.isSome)

/-- The fields of a user. -/
def User.fields : List String :=
  ["username", "password", "token", "tokenFile", "client-certificate", "client-certificate-data",
    "client-key", "client-key-data", "as", "as-groups", "auth-provider", "exec"]

/-- Reads a user. -/
def User.ofYaml? (v : Value) : Option User := do
  let r ← v.record? fields
  return {
    username := ← r.text? "username"
    password := ← r.text? "password"
    token := ← r.text? "token"
    tokenPath := ← r.text? "tokenFile"
    certificate := ← Source.ofFields? r "client-certificate"
    key := ← Source.ofFields? r "client-key"
    actsAs := ← r.text? "as"
    groups := ← r.list? "as-groups" Value.text?
    provider := ← r.opt? "auth-provider" Provider.ofYaml?
    hasProgram := (← r.opt? "exec" readProgram?).isSome }

/-- Reads preferences. -/
def readPreferences? (v : Value) : Option Unit := do
  let r ← v.record? ["colors", "extensions"]
  let _ ← r.opt? "colors" Value.truth?
  readExtensions? r

/-- The fields of a document. -/
def fields : List String :=
  ["preferences", "clusters", "users", "contexts", "current-context", "extensions", "kind",
    "apiVersion"]

/-- Reads a document. -/
def ofYaml? (v : Value) : Option Kubeconfig := do
  let r ← v.record? fields
  let _ ← r.opt? "preferences" readPreferences?
  readExtensions? r
  return {
    kind := ← r.text? "kind"
    apiVersion := ← r.text? "apiVersion"
    currentContext := ← r.text? "current-context"
    clusters := ← r.list? "clusters" (named? "cluster" Cluster.ofYaml?)
    users := ← r.list? "users" (named? "user" User.ofYaml?)
    contexts := ← r.list? "contexts" (named? "context" Context.ofYaml?) }

/-! ## Merging -/

/-- Whether two texts that may be absent differ. -/
def conflict (a b : Option String) : Bool :=
  a.isSome && b.isSome && a ≠ b

/-- Merges two documents, of which the first one wins. -/
def merge? (a b : Kubeconfig) : Option Kubeconfig :=
  if conflict a.kind b.kind || conflict a.apiVersion b.apiVersion then none
  else some {
    kind := a.kind.or b.kind
    apiVersion := a.apiVersion.or b.apiVersion
    currentContext := a.currentContext.or b.currentContext
    clusters := a.clusters ++ b.clusters
    users := a.users ++ b.users
    contexts := a.contexts ++ b.contexts }

/-- What a file without documents says. -/
def empty : Kubeconfig := ⟨none, none, none, [], [], []⟩

/-- Reads a file. -/
def parse? (text : String) : Option Kubeconfig := do
  match ← (← Yaml.read? text).mapM ofYaml? with
  | [] => return empty
  | first :: rest => rest.foldlM merge? first

/-! ## Files -/

/-- The files that are named. -/
def paths (k : Kubeconfig) : List String :=
  let ofCluster (c : Cluster) : List String := c.authority.path.toList
  let ofUser (u : User) : List String :=
    u.tokenPath.toList ++ u.certificate.path.toList ++ u.key.path.toList
  (k.clusters.filterMap Prod.snd).flatMap ofCluster
    ++ (k.users.filterMap Prod.snd).flatMap ofUser

end Kubeconfig

end VirtualNode.Kube
