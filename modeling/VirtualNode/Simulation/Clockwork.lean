import VirtualNode.Simulation.World

/-!
# A controller in virtual time

A controller together with a scripted world and a clock that moves only when it is told to.  The
clockwork knows what is due when: the beats and passes, and the ends of the calls that are open.
Of the things that are due at one instant, the one that was arranged first comes first.
-/

set_option autoImplicit false

namespace VirtualNode.Simulation

open Controller

/-- When something is due; of two alarms for one instant the one of lower order comes first. -/
structure Alarm where
  time : Nat
  order : Nat
  deriving DecidableEq, Repr, Inhabited

/-- Whether an alarm goes off before another one. -/
def Alarm.before (a b : Alarm) : Bool :=
  a.time < b.time || (a.time = b.time && a.order < b.order)

/-- The end of an open call. -/
structure Appointment where
  strand : Strand
  alarm : Alarm
  ending : Ending

/-- How late a tick may be handled without changing the times of the later ones, in
milliseconds. -/
def tolerance : Nat := 5

/-- A controller in a scripted world, and what is due when. -/
structure Clockwork where
  system : System
  world : World
  /-- The next beat and the next pass, while the loops are at work. -/
  ticks : Option (Alarm × Alarm)
  appointments : List Appointment
  /-- The number of alarms that were set. -/
  order : Nat

/-- What is due. -/
inductive Due where
  | beat
  | pass
  | ending (appointment : Appointment)

namespace Clockwork

/-- A controller that has not been started, in an empty world. -/
def fresh (settings : Settings) (origin : Time.Stamp) : Clockwork :=
  ⟨.fresh settings origin, .empty, none, [], 0⟩

/-- The present time. -/
def clock (k : Clockwork) : Nat := k.system.desk.clock

/-- What the controller was told before it started. -/
def settings (k : Clockwork) : Settings := k.system.desk.settings

/-- The strands, in the order in which new alarms are set for them. -/
def strands : List Strand :=
  [.life, .loop .heartbeat, .loop .reconcile, .loop .renewal]

/-- The appointment of a strand. -/
def appointment? (k : Clockwork) (strand : Strand) : Option Appointment :=
  k.appointments.find? fun a => a.strand = strand

/-- Takes out the appointment of a strand. -/
def cancelAppointment (k : Clockwork) (strand : Strand) : Clockwork :=
  { k with appointments := k.appointments.filter fun a => a.strand ≠ strand }

/-- Makes the appointments of a strand fit the call that it has open. -/
def arrange (k : Clockwork) (strand : Strand) : Clockwork :=
  match k.system.openCall? strand, k.appointment? strand with
  | none, _ => k.cancelAppointment strand
  | some _, some _ => k
  | some c, none =>
    let verdict := k.world.judge k.settings c
    { k with
      appointments := k.appointments ++
        [⟨strand, ⟨k.clock + verdict.after, k.order⟩, verdict.ending⟩]
      order := k.order + 1 }

/-- Sets the first ticks when the loops begin, and drops the ticks when they end. -/
def wind (k : Clockwork) : Clockwork :=
  match k.system.stage, k.ticks with
  | .serving, none =>
    { k with ticks := some (⟨k.clock, k.order⟩, ⟨k.clock, k.order + 1⟩), order := k.order + 2 }
  | .serving, some _ => k
  | _, _ => { k with ticks := none }

/-- Goes on with what came of a stimulus. -/
def resume (k : Clockwork) (s : System) (w : World) : Clockwork :=
  strands.foldl arrange { k with system := s, world := w }.wind

/-- Who looks whether the controller is about to end, in the order in which they find out. -/
def watchers : List Stimulus :=
  [.quit .heartbeat, .quit .reconcile, .quit .renewal, .halt, .join]

/-- Lets everybody find out at once if the controller is about to end. -/
def findOut (s : System) (w : World) : System.WithWorld World :=
  watchers.foldl (fun (s, w) stimulus => s.react World.surroundings stimulus w) (s, w)

/-- Something happens to the controller. -/
def react (k : Clockwork) (stimulus : Stimulus) : Clockwork :=
  let (s, w) := k.system.react World.surroundings stimulus k.world
  let (s, w) := findOut s w
  k.resume s w

/-- The next tick after one that was due at a given time and is handled now. -/
def nextTick (due now period : Nat) : Nat :=
  if due + tolerance < now then now + period else due + period

/-- Handles a beat. -/
def fireBeat (k : Clockwork) (beat pass : Alarm) : Clockwork :=
  let next := nextTick beat.time k.clock k.settings.heartbeatInterval
  { k with ticks := some (⟨next, k.order⟩, pass), order := k.order + 1 }.react .beat

/-- Handles a pass. -/
def firePass (k : Clockwork) (beat pass : Alarm) : Clockwork :=
  let next := nextTick pass.time k.clock k.settings.reconcileInterval
  { k with ticks := some (beat, ⟨next, k.order⟩), order := k.order + 1 }.react .pass

/-- Lets a loop that has come to rest look for more work: a tick that is due comes before a state
that has changed. -/
def lookAround (name : LoopName) : Nat → Clockwork → Clockwork
  | 0, k => k
  | fuel + 1, k =>
    if k.system.isResting name then
      match name, k.ticks with
      | .heartbeat, some (beat, pass) =>
        if beat.time ≤ k.clock then lookAround name fuel (k.fireBeat beat pass) else k
      | .reconcile, some (beat, pass) =>
        if pass.time ≤ k.clock then lookAround name fuel (k.firePass beat pass)
        else if k.system.desk.wake then lookAround name fuel (k.react .look)
        else k
      | .renewal, _ =>
        if k.system.desk.sessionsSeen ≠ k.system.desk.sessions then
          lookAround name fuel (k.react .renew)
        else k
      | _, none => k
    else k

/-- A loop that comes to rest finds little work at one instant: one tick for each millisecond
within the tolerance, and one look. -/
def attention : Nat := tolerance + 3

/-- Lets a strand look for more work. -/
def settle (k : Clockwork) : Strand → Clockwork
  | .life => k
  | .loop name => lookAround name attention k

/-- Ends a call. -/
def fireEnding (k : Clockwork) (a : Appointment) : Clockwork :=
  match k.system.openCall? a.strand with
  | none => k.cancelAppointment a.strand
  | some c =>
    let k := k.cancelAppointment a.strand
    let reply := k.world.reply a.ending
    let k := { k with world := k.world.conclude k.clock c a.ending }
    (k.react (.answer a.strand reply)).settle a.strand

/-- The ticks of the loops that are at rest. -/
def restingTicks (k : Clockwork) : List (Alarm × Due) :=
  match k.ticks with
  | none => []
  | some (beat, pass) =>
    (if k.system.isResting .heartbeat then [(beat, .beat)] else [])
      ++ (if k.system.isResting .reconcile then [(pass, .pass)] else [])

/-- All that is due at some time. -/
def dues (k : Clockwork) : List (Alarm × Due) :=
  k.restingTicks ++ k.appointments.map fun a => (a.alarm, .ending a)

/-- The alarm that goes off first. -/
def earliest : List (Alarm × Due) → Option (Alarm × Due)
  | [] => none
  | x :: xs =>
    match earliest xs with
    | none => some x
    | some y => if y.1.before x.1 then some y else some x

/-- What is due next. -/
def next? (k : Clockwork) : Option (Alarm × Due) := earliest k.dues

/-- Moves the clock to a time that is not in the past. -/
def moveTo (k : Clockwork) (time : Nat) : Clockwork :=
  k.react (.elapse (time - k.clock))

/-- Lets what is due happen. -/
def fire (k : Clockwork) (alarm : Alarm) (due : Due) : Clockwork :=
  let k := k.moveTo alarm.time
  match due, k.ticks with
  | .ending a, _ => k.fireEnding a
  | .beat, some (beat, pass) => (k.fireBeat beat pass).settle (.loop .heartbeat)
  | .pass, some (beat, pass) => (k.firePass beat pass).settle (.loop .reconcile)
  | _, none => k

/-- Lets everything happen that is due up to a time, at most `fuel` times. -/
def runTo (time : Nat) : Nat → Clockwork → Clockwork
  | 0, k => k
  | fuel + 1, k =>
    match k.next? with
    | some (alarm, due) =>
      if alarm.time ≤ time then runTo time fuel (k.fire alarm due) else k
    | none => k

/-- At every millisecond little can be due: two ticks and the ends of four calls, and what these
lead to at the same instant. -/
def fuelFor (ms : Nat) : Nat := (ms + 1) * 32

/-- Finishes what is due now. -/
def catchUp (k : Clockwork) : Clockwork := runTo k.clock (fuelFor 0) k

/-- Lets time pass. -/
def advance (k : Clockwork) (ms : Nat) : Clockwork :=
  let time := k.clock + ms
  (runTo time (fuelFor ms) k).moveTo time

/-- Starts the controller. -/
def start (k : Clockwork) : Except Fault Clockwork := do
  let (s, w) ← k.system.start World.surroundings k.world
  let (s, w) := findOut s w
  return (k.resume s w).catchUp

/-- The owner cancels the run. -/
def cancel (k : Clockwork) : Clockwork := (k.react .cancel).catchUp

/-- The transport connects anew. -/
def reconnect (k : Clockwork) : Clockwork :=
  ((k.react .connect).settle (.loop .renewal)).catchUp

/-- Whoever is subscribed to a topic. -/
def listener? (k : Clockwork) (topic : String) : Option Topic.Purpose :=
  k.world.routes.find? fun purpose => k.settings.topic purpose = topic

/-- A message arrives on a topic.  The answer says whether anybody is subscribed to it. -/
def deliver (k : Clockwork) (topic : String) (payload : ByteArray) : Clockwork × Bool :=
  match k.listener? topic with
  | none => (k, false)
  | some purpose =>
    (((k.react (.message purpose topic payload)).settle (.loop .reconcile)).catchUp, true)

/-- Waits for the end of the run, up to a time.  What is due at that very time comes too late. -/
def waitUntil (time : Nat) : Nat → Clockwork → Clockwork
  | 0, k => k
  | fuel + 1, k =>
    if k.system.isDone then k
    else match k.next? with
      | some (alarm, due) =>
        if alarm.time < time then waitUntil time fuel (k.fire alarm due) else k
      | none => k

/-- Waits for the end of the run, for at most a number of milliseconds.  The answer says whether
the run has ended. -/
def awaitDone (k : Clockwork) (ms : Nat) : Clockwork × Bool :=
  let time := k.clock + ms
  let k := waitUntil time (fuelFor ms) k
  if k.system.isDone then (k.catchUp, true)
  else ((runTo time (fuelFor 0) k).moveTo time, false)

/-- Sets the rule for calls of a kind. -/
def setRule (k : Clockwork) (target : Target) (rule : Rule) : Clockwork :=
  { k with world := { k.world with rules := k.world.rules.insert target rule } }

/-- Replaces the pods that the cluster lists. -/
def setPods (k : Clockwork) (pods : List Kube.Pod) : Clockwork :=
  { k with world := { k.world with pods := pods } }

end Clockwork

end VirtualNode.Simulation
