import VirtualNode.Agent.Launch
import VirtualNode.Controller.Startup
import VirtualNode.Json.Writer

/-!
# The command line program

`run` reads the flags and the variables, shows what the controller would be launched with, and
gathers what it starts with.  The program has no network of its own: if everything else works, it
ends where the broker is dialled.
-/

set_option autoImplicit false

open VirtualNode
open VirtualNode.Agent (Environment Flag Launch LaunchError Refusal Tunable Tunables)

namespace VirtualNode.Main

/-- The name of the program. -/
def programName : String := "module-controller"

/-- The explanation of the flags. -/
def usage : String :=
  let line (f : Flag) : String :=
    "  --" ++ f.name ++ " <VALUE>" ++ match f.setBy? with
      | some name => " [env: " ++ name ++ "]"
      | none => ""
  "Usage: " ++ programName ++ " run [OPTIONS]\n\nOptions:\n"
    ++ String.intercalate "\n" (Flag.all.map line)

/-- What is said about a command line that is refused. -/
def refusalText : Refusal → String
  | .unknown => "unexpected argument"
  | .valueMissing => "a value is required"
  | .valueNotAllowed => "invalid value: expected true or false"
  | .notANumber => "invalid value: expected a number in range"
  | .repeated => "an argument cannot be used multiple times"
  | .companionMissing => "client certificate and key must be supplied together"
  | .valueUnneeded => "unexpected value"
  | .helpAsked => usage

/-- The names of the variables that matter. -/
def variableNames : List String :=
  Flag.all.filterMap Flag.setBy? ++ ["KUBECONFIG"]
    ++ Tunable.all.map fun t => (Tunables.namePrefix ++ t.name).toUpper

/-- Reads the variables that matter. -/
def readEnvironment : IO Environment := do
  let values ← variableNames.mapM fun name => do
    return (← IO.getEnv name).toList.map fun value => (name, value)
  return values.flatten

/-- A file and what it holds. -/
def readFile (path : String) : IO Mqtt.Tls.File := do
  try
    return ⟨path, .ok (← IO.FS.readBinFile path)⟩
  catch
    | .noFileOrDirectory _ _ _ => return .missing path
    | e => return ⟨path, .error (toString e)⟩

/-- Reads files, so that their content can be looked up. -/
def readFiles (paths : List String) : IO (String → Mqtt.Tls.File) := do
  let files ← paths.mapM readFile
  return fun path => (files.find? fun f => f.name = path).getD (.missing path)

/-- The content of a file, if it can be read. -/
def content? (f : Mqtt.Tls.File) : Option ByteArray := f.content.toOption

/-- The configuration file in the home directory, if it exists. -/
def homeFile : IO (Option String) := do
  match ← IO.getEnv "HOME" with
  | none => return none
  | some home =>
    let path := home ++ "/.kube/config"
    return if (content? (← readFile path)).isSome then some path else none

/-- A name for this instance that no other one has. -/
def newInstanceId : IO String := do
  let bytes ← IO.getRandomBytes 16
  return String.ofList (Text.Hex.encode bytes.toList)

/-- Finds out how the cluster is reached. -/
def findAccess (path : Option String) : IO (Except Kube.AccessError Kube.Access) := do
  match path with
  | none => return Kube.Access.infer none none fun _ => none
  | some path =>
    let text := (content? (← readFile path)).bind String.fromUTF8?
    let named := ((text.bind Kube.Kubeconfig.parse?).getD .empty).paths
    let read ← readFiles named
    return Kube.Access.load path none text fun name => (content? (read name)).map (·.toList)

/-- Gathers what a controller starts with. -/
def start (l : Launch) : IO (Except Fault Unit) := do
  let c := l.connection
  let read ← readFiles (c.authoritiesPath.toList ++ c.certificatePath.toList ++ c.keyPath.toList)
  let client : Except Fault (Mqtt.Client Unit Unit) := Mqtt.Client.connect c read Mqtt.noNetwork
  return (Controller.equip l.settings client (← findAccess l.kubeconfig)).map fun _ => ()

/-- Launches a controller with the flags that follow the word `run`. -/
def run (args : List String) : IO UInt32 := do
  let env ← readEnvironment
  match Launch.ofEnvironment args (← newInstanceId) env (← homeFile) with
  | .error (.commandLine .helpAsked) =>
    IO.println usage
    return 0
  | .error (.commandLine refusal) =>
    IO.eprintln ("error: " ++ refusalText refusal)
    return 2
  | .error e =>
    IO.eprintln ("Error: " ++ e.message)
    return 1
  | .ok l =>
    IO.println (Json.Value.object l.members).write
    match ← start l with
    | .ok () => return 0
    | .error e =>
      IO.eprintln ("Error: Failed to start register controller: " ++ e.message)
      return 1

end VirtualNode.Main

/-- The program. -/
def main (args : List String) : IO UInt32 := do
  match args with
  | "run" :: rest => VirtualNode.Main.run rest
  | ["--help"] | ["-h"] =>
    IO.println VirtualNode.Main.usage
    return 0
  | _ =>
    IO.eprintln VirtualNode.Main.usage
    return 2
