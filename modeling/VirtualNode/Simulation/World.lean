import VirtualNode.Controller.System

/-!
# A scripted world

A message broker and a cluster that behave as a script says.  A rule says how the calls of one
kind behave from now on; where there is no rule a call works at once.  The world keeps a record of
every call that was answered; a call that was given up is not recorded.
-/

set_option autoImplicit false

namespace VirtualNode.Simulation

open Controller

/-- The kinds of calls for which there can be a rule. -/
inductive Target where
  | probe
  | install
  | uninstall
  | subscribe
  | unsubscribe
  | register
  | nodeStatus
  | list
  | deleteNode
  | podStatus
  | deletePod
  deriving DecidableEq, Repr, Inhabited

/-- How a call behaves. -/
inductive Conduct where
  /-- It works at once. -/
  | works
  /-- It fails at once as if its limit had passed. -/
  | timesOut
  /-- It fails at once. -/
  | fails (fault : Fault)
  /-- It works after a while, in milliseconds. -/
  | delays (ms : Nat)
  /-- It is never answered. -/
  | hangs
  deriving DecidableEq, Repr, Inhabited

/-- How the calls of a kind behave; if a subject is given, only those about that subject. -/
structure Rule where
  conduct : Conduct
  only : Option String
  deriving DecidableEq, Repr, Inhabited

/-- The kind of a call.  There is no rule for disconnecting, nor where nobody is asked. -/
def target? : Call → Option Target
  | .turn | .noting => none
  | .probe _ => some .probe
  | .command .install _ _ => some .install
  | .command .uninstall _ _ => some .uninstall
  | .subscribe _ => some .subscribe
  | .unsubscribe _ => some .unsubscribe
  | .disconnect => none
  | .register _ => some .register
  | .reportNode _ => some .nodeStatus
  | .listPods => some .list
  | .reportPod _ _ _ => some .podStatus
  | .deletePod _ _ => some .deletePod
  | .deleteNode => some .deleteNode

/-- What a call is about: a module, a topic or a pod. -/
def subject (settings : Settings) : Call → String
  | .command _ _ d => d.name
  | .subscribe purpose | .unsubscribe purpose => settings.topic purpose
  | .reportPod _ name _ | .deletePod _ name => name
  | _ => ""

/-- How a call ends. -/
inductive Ending where
  | answered (outcome : Except Fault Unit)
  /-- The limit passed without an answer. -/
  | givenUp

/-- A fault as one of an exchange with the broker. -/
def deliveryFault : Fault → DeliveryFault
  | .delivery fault => fault
  | fault => .client fault.message

/-- The outcome of an exchange with the broker. -/
def Ending.exchange? : Ending → Option (Except DeliveryFault Unit)
  | .answered (.ok ()) => some (.ok ())
  | .answered (.error fault) => some (.error (deliveryFault fault))
  | .givenUp => none

/-- The outcome of a call to the cluster. -/
def Ending.outcome? : Ending → Option (Except Fault Unit)
  | .answered outcome => some outcome
  | .givenUp => none

/-- The outcome of an exchange that the broker ends itself. -/
def Ending.exchange (e : Ending) : Except DeliveryFault Unit :=
  e.exchange?.getD (.error .disconnected)

/-- When and how a call ends, the time being counted in milliseconds from its beginning. -/
structure Verdict where
  after : Nat
  ending : Ending

/-- A call that was answered. -/
structure Record where
  time : Nat
  call : Call
  outcome : Except Fault Unit

/-- A broker and a cluster that behave as a script says. -/
structure World where
  rules : Table Target Rule
  /-- The pods that are bound to the node. -/
  pods : List Kube.Pod
  /-- The subscriptions that were acknowledged and not given up since. -/
  routes : List Topic.Purpose
  records : Array Record

namespace World

/-- A world without rules and pods. -/
def empty : World := ⟨Table.empty, [], [], #[]⟩

/-- How a call behaves. -/
def conduct (w : World) (settings : Settings) (c : Call) : Conduct :=
  match (target? c).bind w.rules.get? with
  | none => .works
  | some rule =>
    match rule.only with
    | none => rule.conduct
    | some name => if name = subject settings c then rule.conduct else .works

/-- Whether the broker itself answers a call when its limit has passed. -/
def keepsLimit : Call → Bool
  | .probe _ | .command _ _ _ | .subscribe _ => true
  | _ => false

/-- The fault of a call whose limit has passed. -/
def overdue (settings : Settings) (c : Call) : Fault :=
  let limit := if keepsLimit c then (c.limit? settings).getD 0 else 0
  .delivery (.timedOut (.millis limit))

/-- When and how a call ends.  An answer that comes at the very end of the limit counts. -/
def judge (w : World) (settings : Settings) (c : Call) : Verdict :=
  match w.conduct settings c with
  | .works => ⟨0, .answered (.ok ())⟩
  | .timesOut => ⟨0, .answered (.error (overdue settings c))⟩
  | .fails fault => ⟨0, .answered (.error fault)⟩
  | .delays ms =>
    match c.limit? settings with
    | none => ⟨ms, .answered (.ok ())⟩
    | some limit =>
      if ms ≤ limit || keepsLimit c then ⟨ms, .answered (.ok ())⟩ else ⟨limit, .givenUp⟩
  | .hangs =>
    let limit := (c.limit? settings).getD 0
    if keepsLimit c then ⟨limit, .answered (.error (overdue settings c))⟩ else ⟨limit, .givenUp⟩

/-- The answer to a call that ends in a given way. -/
def reply (w : World) (e : Ending) : Reply
  | .turn | .noting => ()
  | .probe _ => e.exchange
  | .command _ _ _ => e.exchange
  | .subscribe _ => e.exchange
  | .unsubscribe _ => e.exchange?
  | .disconnect => ()
  | .listPods => e.outcome?.map fun outcome => outcome.map fun _ => w.pods
  | .register _ => e.outcome?
  | .reportNode _ => e.outcome?
  | .reportPod _ _ _ => e.outcome?
  | .deletePod _ _ => e.outcome?
  | .deleteNode => e.outcome?

/-- What a call changes when it works. -/
def apply (w : World) : Call → World
  | .subscribe purpose =>
    { w with routes := w.routes.filter (· ≠ purpose) ++ [purpose] }
  | .unsubscribe purpose => { w with routes := w.routes.filter (· ≠ purpose) }
  | .deletePod spaceName name =>
    { w with pods := w.pods.filter fun pod =>
        !(pod.addressSpace = spaceName && pod.addressName = name) }
  | _ => w

/-- A call ends.  Where nobody was asked there is nothing to record. -/
def conclude (w : World) (time : Nat) (c : Call) (e : Ending) : World :=
  match e with
  | .givenUp => w
  | .answered outcome =>
    if c.isWait then w
    else
      let w := { w with records := w.records.push ⟨time, c, outcome⟩ }
      match outcome with
      | .ok () => w.apply c
      | .error _ => w

/-- Answers a call that ends at once, and leaves every other call open. -/
def hear (c : Call) (d : Desk) (w : World) : World × Option c.Answer :=
  let verdict := w.judge d.settings c
  if verdict.after = 0 then
    (w.conclude d.clock c verdict.ending, some (w.reply verdict.ending c))
  else (w, none)

/-- The surroundings that a world makes for a controller. -/
def surroundings : Surroundings World := ⟨hear⟩

end World

end VirtualNode.Simulation
