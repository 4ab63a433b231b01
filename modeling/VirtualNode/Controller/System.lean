import VirtualNode.Controller.Heartbeat
import VirtualNode.Controller.Lifetime
import VirtualNode.Controller.Reconcile

/-!
# A running controller

A controller that has been started registers its node and sets off three loops, which are at work
side by side.  When one of them fails or the owner cancels the run, each loop ends by itself as soon
as it finds out.  The run finds out by itself too, waits until all loops have ended, and removes the
node.  Whoever is at work shares the desk with the others, and they take turns at the points where
one of them waits for an answer.

`System.react` says what a controller does when something happens: a beat or a pass is due, an
answer arrives, a message arrives, the owner cancels the run, somebody finds that the run is to end.
What happens when is not decided here, so a statement about all sequences of stimuli is one about
all ways to take turns.
-/

set_option autoImplicit false

namespace VirtualNode.Controller

/-- Work that waits for the answer to a call. -/
structure Pending (α : Type) where
  call : Call
  next : call.Answer → Activity α

/-- A loop of a controller. -/
inductive Loop where
  /-- The loop has not been set off. -/
  | idle
  /-- Nothing is to be done. -/
  | resting
  /-- Waiting for an answer. -/
  | busy (work : Pending Unit)
  /-- The loop has ended. -/
  | ended

/-- The names of the loops. -/
inductive LoopName where
  /-- Probes the connection and shows the node. -/
  | heartbeat
  /-- Goes over the pods. -/
  | reconcile
  /-- Subscribes again after a new connect. -/
  | renewal
  deriving DecidableEq, Repr, Inhabited

/-- The loops of a controller. -/
structure Loops where
  heartbeat : Loop
  reconcile : Loop
  renewal : Loop

namespace Loops

/-- The loop of a name. -/
def get (loops : Loops) : LoopName → Loop
  | .heartbeat => loops.heartbeat
  | .reconcile => loops.reconcile
  | .renewal => loops.renewal

/-- Replaces the loop of a name. -/
def set (loops : Loops) (name : LoopName) (loop : Loop) : Loops :=
  match name with
  | .heartbeat => { loops with heartbeat := loop }
  | .reconcile => { loops with reconcile := loop }
  | .renewal => { loops with renewal := loop }

/-- The loops before they are set off. -/
def idle : Loops := ⟨.idle, .idle, .idle⟩

/-- A periodic loop at its start.  Without a period it ends at once. -/
def periodic (interval : Nat) : Loop :=
  if interval = 0 then .ended else .resting

/-- The loops when they are set off. -/
def atStart (s : Settings) : Loops :=
  ⟨periodic s.heartbeatInterval, periodic s.reconcileInterval, .resting⟩

end Loops

/-- Whether a loop has ended. -/
def Loop.isEnded : Loop → Bool
  | ended => true
  | _ => false

/-- Whether all loops have ended. -/
def Loops.allEnded (loops : Loops) : Bool :=
  loops.heartbeat.isEnded && loops.reconcile.isEnded && loops.renewal.isEnded

/-- Where a run stands. -/
inductive Stage where
  /-- The run has not been started. -/
  | idle
  /-- The node is being registered. -/
  | enlisting (work : Pending Bool)
  /-- The loops are at work, and the run waits for a reason to end. -/
  | serving
  /-- The run waits for the loops to end. -/
  | joining
  /-- The node is being removed. -/
  | retiring (work : Pending Unit)
  /-- The run is over. -/
  | over

/-- A controller with what it knows, where its run stands, and its loops. -/
structure System where
  desk : Desk
  stage : Stage
  loops : Loops

/-- Who answers the calls of a controller at once. -/
abbrev Surroundings (ω : Type) := Dialogue.Environment Call Call.Answer Desk ω

/-- An answer for whatever call it is that waits. -/
abbrev Reply := (c : Call) → c.Answer

/-- The work that may wait for an answer. -/
inductive Strand where
  /-- Registration and removal. -/
  | life
  /-- The work of a loop. -/
  | loop (name : LoopName)
  deriving DecidableEq, Repr, Inhabited

/-- What can happen to a controller. -/
inductive Stimulus where
  /-- Time passes, in milliseconds. -/
  | elapse (ms : Nat)
  /-- The owner asks the run to end. -/
  | cancel
  /-- The transport has connected anew. -/
  | connect
  /-- A message arrives. -/
  | message (purpose : Topic.Purpose) (topic : String) (payload : ByteArray)
  /-- A beat is due. -/
  | beat
  /-- A pass is due. -/
  | pass
  /-- The reconcile loop looks whether the state of a module has changed. -/
  | look
  /-- The renewal loop looks whether there was a new connect. -/
  | renew
  /-- An answer arrives. -/
  | answer (strand : Strand) (reply : Reply)
  /-- A loop looks whether the controller is about to end. -/
  | quit (name : LoopName)
  /-- The run looks whether the controller is about to end. -/
  | halt
  /-- The run looks whether all loops have ended. -/
  | join

namespace System

/-- A controller that has not been started. -/
def fresh (settings : Settings) (origin : Time.Stamp) : System :=
  ⟨.fresh settings origin, .idle, .idle⟩

/-- Whether the run is finished. -/
def isDone (s : System) : Bool := s.desk.completion.done

/-- The call for whose answer a strand waits. -/
def openCall? (s : System) : Strand → Option Call
  | .life => match s.stage with
    | .enlisting work => some work.call
    | .retiring work => some work.call
    | _ => none
  | .loop name => match s.loops.get name with
    | .busy work => some work.call
    | _ => none

/-- Whether a loop is at rest. -/
def isResting (s : System) (name : LoopName) : Bool :=
  match s.loops.get name with
  | .resting => true
  | _ => false

variable {ω : Type}

/-- A system together with its surroundings. -/
abbrev WithWorld (ω : Type) := System × ω

/-- Lets a loop work. -/
def work (env : Surroundings ω) (name : LoopName) (task : Activity Unit) (s : System) (w : ω) :
    WithWorld ω :=
  match task.advance env s.desk w with
  | (d, w, .finished ()) => ({ s with desk := d, loops := s.loops.set name .resting }, w)
  | (d, w, .waiting c next) =>
    ({ s with desk := d, loops := s.loops.set name (.busy ⟨c, next⟩) }, w)

/-- Lets the registration of the node go on.  When it has worked the loops are set off. -/
def goOnEnlisting (env : Surroundings ω) (task : Activity Bool) (s : System) (w : ω) :
    WithWorld ω :=
  match task.advance env s.desk w with
  | (d, w, .finished true) =>
    work env .renewal watchSessions ⟨d, .serving, .atStart d.settings⟩ w
  | (d, w, .finished false) => ({ s with desk := d, stage := .over }, w)
  | (d, w, .waiting c next) => ({ s with desk := d, stage := .enlisting ⟨c, next⟩ }, w)

/-- Lets the removal of the node go on. -/
def goOnRetiring (env : Surroundings ω) (task : Activity Unit) (s : System) (w : ω) :
    WithWorld ω :=
  match task.advance env s.desk w with
  | (d, w, .finished ()) => ({ s with desk := d, stage := .over }, w)
  | (d, w, .waiting c next) => ({ s with desk := d, stage := .retiring ⟨c, next⟩ }, w)

/-- Lets a loop begin a task if it is at rest. -/
def beginTask (env : Surroundings ω) (name : LoopName) (task : Activity Unit) (s : System) (w : ω) :
    WithWorld ω :=
  match s.loops.get name with
  | .resting => work env name task s w
  | _ => (s, w)

/-- Lets a periodic loop begin a task if it is at rest.  Such a loop looks first whether the
controller is about to end. -/
def beginDue (env : Surroundings ω) (name : LoopName) (task : Activity Unit) (s : System) (w : ω) :
    WithWorld ω :=
  if s.desk.stopping then (s, w) else beginTask env name task s w

/-- Gives a strand the answer for which it waits. -/
def take (env : Surroundings ω) (strand : Strand) (reply : Reply) (s : System) (w : ω) :
    WithWorld ω :=
  match strand with
  | .life => match s.stage with
    | .enlisting p => goOnEnlisting env (p.next (reply p.call)) s w
    | .retiring p => goOnRetiring env (p.next (reply p.call)) s w
    | _ => (s, w)
  | .loop name => match s.loops.get name with
    | .busy p => work env name (p.next (reply p.call)) s w
    | _ => (s, w)

/-- Lets a loop end, whether it is at rest or waits for an answer, if the controller is about to
end.  A loop that was just set off takes its turn first. -/
def quit (name : LoopName) (s : System) : System :=
  if s.desk.stopping then
    match s.loops.get name with
    | .resting => { s with loops := s.loops.set name .ended }
    | .busy p => if p.call = .turn then s else { s with loops := s.loops.set name .ended }
    | _ => s
  else s

/-- Lets the run stop serving if the controller is about to end.  If the owner has cancelled the run
and no fault was recorded first, it ends without a fault. -/
def halt (s : System) : System :=
  match s.stage with
  | .serving =>
    if s.desk.stopping then
      { s with
        desk := if s.desk.cancelled then s.desk.recordOutcome none else s.desk
        stage := .joining }
    else s
  | _ => s

/-- Lets the removal of the node begin if all loops have ended. -/
def join (env : Surroundings ω) (s : System) (w : ω) : WithWorld ω :=
  match s.stage with
  | .joining => if s.loops.allEnded then goOnRetiring env retire s w else (s, w)
  | _ => (s, w)

/-- What a controller does when something happens. -/
def react (env : Surroundings ω) (stimulus : Stimulus) (s : System) (w : ω) : WithWorld ω :=
  match stimulus with
  | .elapse ms => ({ s with desk := { s.desk with clock := s.desk.clock + ms } }, w)
  | .cancel => ({ s with desk := { s.desk with cancelled := true, stopping := true } }, w)
  | .connect => ({ s with desk := { s.desk with sessions := s.desk.sessions + 1 } }, w)
  | .message purpose topic payload =>
    ({ s with desk := { s.desk with
        toInbox := s.desk.toInbox.receive purpose topic payload } }, w)
  | .beat => beginDue env .heartbeat beat s w
  | .pass => beginDue env .reconcile reconcile s w
  | .look =>
    if s.isResting .reconcile && s.desk.wake && !s.desk.stopping then
      beginTask env .reconcile pushStatuses { s with desk := { s.desk with wake := false } } w
    else (s, w)
  | .renew =>
    if s.desk.sessionsSeen ≠ s.desk.sessions then beginTask env .renewal renewSubscriptions s w
    else (s, w)
  | .answer strand reply => take env strand reply s w
  | .quit name => (quit name s, w)
  | .halt => (halt s, w)
  | .join => join env s w

/-- Starts the run.  A controller runs at most once. -/
def start (env : Surroundings ω) (s : System) (w : ω) : Except Fault (WithWorld ω) :=
  match s.stage with
  | .idle => .ok (goOnEnlisting env enlist s w)
  | _ => .error .alreadyStarted

end System

end VirtualNode.Controller
