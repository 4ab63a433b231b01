import VirtualNode.Biz.Sightings
import VirtualNode.Fault
import VirtualNode.Topic.Names
import VirtualNode.Watch.Journal
import VirtualNode.Watch.Metrics

/-!
# The inbox

What the messages of the base change: the last sighting of every module, the time at which the
base was last heard of, and a wake-up for whoever writes the states of pods.  A message of
reports is taken as a whole or not at all.
-/

set_option autoImplicit false

namespace VirtualNode.Controller

/-- What the messages of the base change. -/
structure Inbox where
  /-- The time at which the clock was started. -/
  origin : Time.Stamp
  /-- The milliseconds since the clock was started. -/
  clock : Nat
  sightings : Biz.Sightings
  /-- When the base was last heard of, in milliseconds since the clock was started. -/
  lastAlive : Option Nat
  /-- Whether a state changed and nobody has looked yet. -/
  wake : Bool
  metrics : Watch.Metrics
  journal : Array Watch.Entry

namespace Inbox

/-- The inbox before the first message. -/
def empty (origin : Time.Stamp) : Inbox where
  origin := origin
  clock := 0
  sightings := .empty
  lastAlive := none
  wake := false
  metrics := .zero
  journal := #[]

instance : Inhabited Inbox := ⟨empty default⟩

/-- The present time. -/
def now (i : Inbox) : Time.Stamp := i.origin.addMillis i.clock

/-- Writes an event into the journal. -/
def tell (i : Inbox) (event : Watch.Event) : Inbox :=
  { i with journal := i.journal.push ⟨i.clock, event⟩ }

/-- The base has been heard of. -/
def touch (i : Inbox) : Inbox :=
  { i with lastAlive := some i.clock }

/-- Whether the base has been heard of within the last `maxAge` milliseconds. -/
def isFresh (i : Inbox) (maxAge : Nat) : Bool :=
  match i.lastAlive with
  | none => false
  | some seen => i.clock - seen ≤ maxAge

/-- Takes in one report, and says whether it changed the state of its module. -/
def takeReport (i : Inbox) (report : Biz.Report) : Inbox × Bool :=
  match i.sightings.apply report i.now with
  | (sightings, .unchanged) => ({ i with sightings := sightings }, false)
  | (sightings, .changed previous) =>
    (({ i with sightings := sightings }).tell
      (.stateChanged report.identity (previous.map Biz.State.text) report.state.text), true)

/-- Takes in reports one after the other, and counts those that changed a state. -/
def takeReports (i : Inbox) : List Biz.Report → Inbox × Nat
  | [] => (i, 0)
  | report :: reports =>
    let (i, changed) := i.takeReport report
    let (i, count) := i.takeReports reports
    (i, if changed then count + 1 else count)

/-- Why a message of reports could not be understood. -/
def reason : Json.ReadError → String
  | .truncated => "message ends too early"
  | .malformed => "message is not a JSON document"
  | .mismatch => Biz.Report.mismatchMessage

/-- Takes in a message of reports.  The answer counts the reports that changed a state.  A message
that cannot be understood is counted and dropped. -/
def receiveReports (i : Inbox) (topic : String) (payload : ByteArray) :
    Inbox × Except Json.ReadError Nat :=
  match Biz.Report.decode payload with
  | .error e =>
    (({ i with metrics := i.metrics.addMalformed }).tell (.messageDropped topic (reason e)),
      .error e)
  | .ok reports =>
    let i := ({ i with metrics := i.metrics.addBizMessages reports.length }).touch
    let (i, changed) := i.takeReports reports
    ({ i with wake := i.wake || 0 < changed }, .ok changed)

/-- The fault of a message that could not be understood. -/
def fault (topic : String) (e : Json.ReadError) : Fault :=
  .malformedMessage topic (reason e)

/-- Looks whether a state has changed since the last look. -/
def look (i : Inbox) : Inbox × Bool :=
  ({ i with wake := false }, i.wake)

/-- Takes in a message for a purpose.  The controller listens to reports and to signs of life. -/
def receive (i : Inbox) (purpose : Topic.Purpose) (topic : String) (payload : ByteArray) : Inbox :=
  match purpose with
  | .bizState => (i.receiveReports topic payload).1
  | .baseHeart => i.touch
  | _ => i

end Inbox

end VirtualNode.Controller
