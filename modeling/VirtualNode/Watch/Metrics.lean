import VirtualNode.Rounding
import VirtualNode.Table

/-!
# Metrics

What the controller counts and measures, and how it is exposed as text: one family of samples
after the other in the order of their names, each with a line that says what it means and one
that says of which type it is.
-/

set_option autoImplicit false

namespace VirtualNode.Watch

/-- The counts of labels. -/
abbrev Counts := Table String Nat

/-- One more for a label. -/
def Counts.increase (c : Counts) (label : String) : Counts :=
  c.insert label ((c.get? label).getD 0 + 1)

/-- What has been counted and measured. -/
structure Metrics where
  /-- Records received from the base. -/
  bizMessages : Nat
  /-- Messages that could not be understood. -/
  malformedMessages : Nat
  /-- Commands that were acknowledged, by kind of command. -/
  commands : Counts
  /-- Exchanges with the broker that failed, by kind of exchange. -/
  transportFailures : Counts
  /-- Probes that were not acknowledged. -/
  heartbeatFailures : Nat
  /-- Passes that were measured. -/
  passes : Nat
  /-- For each latency bound, the passes that took no longer. -/
  passesWithin : List Nat
  /-- Pods in the last listing. -/
  podsManaged : Int
  /-- Whether the node is ready. -/
  nodeReady : Bool

namespace Metrics

/-- The bounds of the latency of a pass, in seconds, as they are written. -/
def boundTexts : List String :=
  ["0.001", "0.005", "0.01", "0.025", "0.05", "0.1", "0.25", "0.5", "1", "2.5", "5"]

/-- The bounds of the latency of a pass, in seconds. -/
def bounds : List Float :=
  [0.001, 0.005, 0.01, 0.025, 0.05, 0.1, 0.25, 0.5, 1.0, 2.5, 5.0]

/-- Nothing has been counted. -/
def zero : Metrics where
  bizMessages := 0
  malformedMessages := 0
  commands := Table.empty
  transportFailures := Table.empty
  heartbeatFailures := 0
  passes := 0
  passesWithin := boundTexts.map fun _ => 0
  podsManaged := 0
  nodeReady := false

instance : Inhabited Metrics := ⟨zero⟩

/-- Counts received records. -/
def addBizMessages (m : Metrics) (records : Nat) : Metrics :=
  { m with bizMessages := m.bizMessages + records }

/-- Counts a message that could not be understood. -/
def addMalformed (m : Metrics) : Metrics :=
  { m with malformedMessages := m.malformedMessages + 1 }

/-- Counts an acknowledged command. -/
def addCommand (m : Metrics) (label : String) : Metrics :=
  { m with commands := m.commands.increase label }

/-- Counts a failed exchange. -/
def addTransportFailure (m : Metrics) (label : String) : Metrics :=
  { m with transportFailures := m.transportFailures.increase label }

/-- Counts a probe that was not acknowledged. -/
def addHeartbeatFailure (m : Metrics) : Metrics :=
  { m with heartbeatFailures := m.heartbeatFailures + 1 }

/-- Measures a pass. -/
def observeLatency (m : Metrics) (seconds : Float) : Metrics :=
  { m with
    passes := m.passes + 1
    passesWithin := (m.passesWithin.zip bounds).map fun (n, bound) =>
      if seconds ≤ bound then n + 1 else n }

/-- Notes the number of pods. -/
def setPodsManaged (m : Metrics) (count : Int) : Metrics :=
  { m with podsManaged := count }

/-- Notes whether the node is ready. -/
def setNodeReady (m : Metrics) (ready : Bool) : Metrics :=
  { m with nodeReady := ready }

/-! ## Exposition -/

/-- The types of families. -/
inductive FamilyType where
  | counter
  | gauge
  | histogram
  deriving DecidableEq, Repr, Inhabited

/-- The word for a type. -/
def FamilyType.text : FamilyType → String
  | counter => "counter"
  | gauge => "gauge"
  | histogram => "histogram"

/-- A value of a family: the name with its labels, and the number, which is exposed as a double. -/
structure Sample where
  name : String
  value : Int
  /-- The bound of a bucket of a histogram. -/
  bound : Option String := none
  deriving DecidableEq, Repr, Inhabited

/-- The number that is exposed. -/
def Sample.exposed (s : Sample) : Int := Rounding.intToDouble s.value

/-- The exposed number as a signed 64-bit word. -/
def Sample.word (s : Sample) : Int := Rounding.toWord s.exposed

/-- A family of samples. -/
structure Family where
  name : String
  help : String
  type : FamilyType
  samples : List Sample
  deriving DecidableEq, Repr, Inhabited

/-- The written form of a character in the value of a label. -/
def escapeChar (c : Char) : List Char :=
  match c with
  | '\\' => ['\\', '\\']
  | '"' => ['\\', '"']
  | '\n' => ['\\', 'n']
  | c => [c]

/-- A name with one label. -/
def labelled (name label value : String) : String :=
  name ++ "\x7b" ++ label ++ "=\"" ++ String.ofList (value.toList.flatMap escapeChar) ++ "\"\x7d"

/-- The samples of counts by label. -/
def countSamples (name label : String) (counts : Counts) : List Sample :=
  counts.entries.map fun e => ⟨labelled name label e.1, e.2, none⟩

/-- The name of the family of pass latencies. -/
def latencyName : String := "module_controller_reconcile_latency_seconds"

/-- The bound that nothing exceeds. -/
def endless : String := "+Inf"

/-- The samples of the pass latencies, the sum left out. -/
def latencySamples (m : Metrics) : List Sample :=
  (boundTexts.zip m.passesWithin).map
      (fun (bound, n) => ⟨labelled (latencyName ++ "_bucket") "le" bound, n, some bound⟩)
    ++ [⟨labelled (latencyName ++ "_bucket") "le" endless, m.passes, some endless⟩,
        ⟨latencyName ++ "_count", m.passes, none⟩]

/-- All families in the order of their names. -/
def families (m : Metrics) : List Family :=
  [⟨"module_controller_biz_messages_total", "Biz state records received from the base",
      .counter, [⟨"module_controller_biz_messages_total", m.bizMessages, none⟩]⟩,
   ⟨"module_controller_commands_published_total",
      "Install and uninstall commands acknowledged by the broker", .counter,
      countSamples "module_controller_commands_published_total" "command" m.commands⟩,
   ⟨"module_controller_heartbeat_failures_total",
      "Liveness probes that were not acknowledged", .counter,
      [⟨"module_controller_heartbeat_failures_total", m.heartbeatFailures, none⟩]⟩,
   ⟨"module_controller_malformed_messages_total",
      "Inbound messages dropped because they could not be decoded", .counter,
      [⟨"module_controller_malformed_messages_total", m.malformedMessages, none⟩]⟩,
   ⟨"module_controller_node_ready", "1 when the virtual node is Ready", .gauge,
      [⟨"module_controller_node_ready", if m.nodeReady then 1 else 0, none⟩]⟩,
   ⟨"module_controller_pods_managed", "Pods currently bound to the virtual node", .gauge,
      [⟨"module_controller_pods_managed", m.podsManaged, none⟩]⟩,
   ⟨latencyName, "Time spent in one reconciliation pass", .histogram, latencySamples m⟩,
   ⟨"module_controller_transport_failures_total",
      "Failed or timed out transport operations", .counter,
      countSamples "module_controller_transport_failures_total" "operation"
        m.transportFailures⟩]

/-- The two lines that introduce a family. -/
def Family.header (f : Family) : List String :=
  ["# HELP " ++ f.name ++ " " ++ f.help, "# TYPE " ++ f.name ++ " " ++ f.type.text]

/-- All samples in the order of the families. -/
def samples (m : Metrics) : List Sample :=
  m.families.flatMap Family.samples

/-- The text under which the metrics are exposed.  A family without samples is left out. -/
def expose (m : Metrics) : String :=
  String.join <| (m.families.filter fun f => !f.samples.isEmpty).flatMap fun f =>
    (f.header ++ f.samples.map fun s => s.name ++ " " ++ toString s.exposed).map (· ++ "\n")

end Metrics

end VirtualNode.Watch
