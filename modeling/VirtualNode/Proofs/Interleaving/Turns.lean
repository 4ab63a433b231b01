import VirtualNode.Controller.System

/-!
# Taking turns

`System.react` says what a controller does when something happens.  Here it is said once and for all
what that can come to when nobody answers at once (`System.Turn`): something comes from outside, a
loop begins a task, a strand goes on with its answer, a loop or the run finds that the controller is
about to end, or nothing happens.  Statements about a step of a controller are proved by cases over
its turns.

The first of them: registration and removal go on while no loop is at work (`System.Orderly`).
-/

set_option autoImplicit false

namespace VirtualNode.Controller

/-! ## Happenings -/

/-- What can happen in the life of a controller. -/
inductive Happening where
  /-- The run is started. -/
  | start
  | stimulus (stimulus : Stimulus)

namespace Happening

/-- The strand that is answered by a happening. -/
def answered? : Happening → Option Strand
  | .stimulus (.answer strand _) => some strand
  | _ => none

/-- What a happening brings from outside, before a strand gets to work. -/
def touch : Happening → Desk → Desk
  | .stimulus (.elapse ms), d => { d with clock := d.clock + ms }
  | .stimulus .cancel, d => { d with cancelled := true, stopping := true }
  | .stimulus .connect, d => { d with sessions := d.sessions + 1 }
  | .stimulus (.message purpose topic payload), d =>
    { d with toInbox := d.toInbox.receive purpose topic payload }
  | _, d => d

/-- Whether a happening comes from outside and gives nobody anything to do. -/
def isOutside : Happening → Bool
  | .stimulus (.elapse _) | .stimulus .cancel | .stimulus .connect
  | .stimulus (.message _ _ _) => true
  | _ => false

/-- What does not come from outside brings nothing. -/
theorem touch_of_inner {h : Happening} (inner : h.isOutside = false) (d : Desk) :
    h.touch d = d := by
  cases h with
  | start => rfl
  | stimulus stimulus =>
    cases stimulus with
    | elapse ms => cases inner
    | cancel => cases inner
    | connect => cases inner
    | message purpose topic payload => cases inner
    | _ => rfl

/-- What comes from outside answers nobody. -/
theorem answered?_of_outside {h : Happening} (outer : h.isOutside = true) :
    h.answered? = none := by
  cases h with
  | start => rfl
  | stimulus stimulus =>
    cases stimulus with
    | answer strand reply => cases outer
    | _ => rfl

end Happening

namespace System

/-- The system after something has happened. -/
def meet (s : System) : Happening → System
  | .start => match s.start .silent () with
    | .ok (s', _) => s'
    | .error _ => s
  | .stimulus stimulus => (s.react .silent stimulus ()).1

/-! ## Loops -/

/-- Of the loops only the one that is replaced is another. -/
theorem get_set (loops : Loops) (name other : LoopName) (loop : Loop) :
    (loops.set name loop).get other = if other = name then loop else loops.get other := by
  cases name <;> cases other <;> rfl

/-- A loop that is busy after one was replaced is the new one, or it was busy before. -/
theorem busy_of_set {loops : Loops} {name other : LoopName} {loop : Loop} {p : Pending Unit}
    (busy : (loops.set name loop).get other = .busy p) :
    other = name ∧ loop = .busy p ∨ loops.get other = .busy p := by
  rw [get_set] at busy
  split at busy
  · rename_i same
    exact .inl ⟨same, busy⟩
  · exact .inr busy

/-- All loops have ended just if each of them has. -/
theorem allEnded_iff {loops : Loops} :
    loops.allEnded = true ↔ ∀ name, loops.get name = .ended := by
  have ended : ∀ loop : Loop, loop.isEnded = true ↔ loop = .ended := by
    intro loop
    cases loop <;> simp [Loop.isEnded]
  simp only [Loops.allEnded, Bool.and_eq_true, ended]
  constructor
  · rintro ⟨⟨heartbeat, reconcile⟩, renewal⟩ name
    cases name <;> assumption
  · exact fun all => ⟨⟨all .heartbeat, all .reconcile⟩, all .renewal⟩

variable {s : System} {name : LoopName}

/-- Who registers the node waits for the answer to a call. -/
theorem openCall?_enlisting {work : Pending Bool} (stage : s.stage = .enlisting work) :
    s.openCall? .life = some work.call := by
  simp [openCall?, stage]

/-- Who removes the node waits for the answer to a call. -/
theorem openCall?_retiring {work : Pending Unit} (stage : s.stage = .retiring work) :
    s.openCall? .life = some work.call := by
  simp [openCall?, stage]

/-- A loop that is busy waits for the answer to a call. -/
theorem openCall?_busy {work : Pending Unit} (busy : s.loops.get name = .busy work) :
    s.openCall? (.loop name) = some work.call := by
  simp [openCall?, busy]

/-- A loop with an open call is busy with it. -/
theorem busy_of_openCall? {call : Call} (waits : s.openCall? (.loop name) = some call) :
    ∃ work, s.loops.get name = .busy work ∧ work.call = call := by
  cases loop : s.loops.get name with
  | busy work =>
    rw [openCall?_busy loop] at waits
    exact ⟨work, rfl, Option.some.inj waits⟩
  | _ => simp [openCall?, loop] at waits

/-- A loop rests just if it says so. -/
theorem isResting_iff : s.isResting name = true ↔ s.loops.get name = .resting := by
  unfold isResting
  cases s.loops.get name <;> simp

/-! ## Turns -/

/-- Which task a loop begins when something happens, and the desk on which it begins. -/
inductive Begins (s : System) : Happening → LoopName → Activity Unit → Desk → Prop where
  | beat (going_on : s.desk.stopping = false) :
    Begins s (.stimulus .beat) .heartbeat beat s.desk
  | pass (going_on : s.desk.stopping = false) :
    Begins s (.stimulus .pass) .reconcile reconcile s.desk
  /-- The wake-up is taken before the statuses are pushed. -/
  | look (going_on : s.desk.stopping = false) (woken : s.desk.wake = true) :
    Begins s (.stimulus .look) .reconcile pushStatuses { s.desk with wake := false }
  | renew (unseen : s.desk.sessionsSeen ≠ s.desk.sessions) :
    Begins s (.stimulus .renew) .renewal renewSubscriptions s.desk

/-- A loop begins a task without an answer and without anything from outside. -/
theorem Begins.silent {h : Happening} {task : Activity Unit} {d : Desk}
    (begins : s.Begins h name task d) : h.isOutside = false ∧ h.answered? = none := by
  cases begins with
  | _ => exact ⟨rfl, rfl⟩

/-- What a happening can come to. -/
inductive Turn (s : System) (h : Happening) : System → Prop where
  /-- Something comes from outside. -/
  | outside (outer : h.isOutside = true) : Turn s h { s with desk := h.touch s.desk }
  /-- Nothing happens. -/
  | still (inner : h.isOutside = false)
    (closed : ∀ strand, h.answered? = some strand → s.openCall? strand = none) : Turn s h s
  /-- The run is started. -/
  | enlist (is : h = .start) (idle : s.stage = .idle) :
    Turn s h (goOnEnlisting .silent Controller.enlist s ()).1
  /-- The registration goes on. -/
  | enlisting {p : Pending Bool} {reply : Reply} (is : h = .stimulus (.answer .life reply))
    (stage : s.stage = .enlisting p) :
    Turn s h (goOnEnlisting .silent (p.next (reply p.call)) s ()).1
  /-- A loop that is at rest begins a task. -/
  | begin {name : LoopName} {task : Activity Unit} {d : Desk} (begins : s.Begins h name task d)
    (resting : s.loops.get name = .resting) :
    Turn s h (work .silent name task { s with desk := d } ()).1
  /-- A loop goes on. -/
  | busy {name : LoopName} {p : Pending Unit} {reply : Reply}
    (is : h = .stimulus (.answer (.loop name) reply)) (busy : s.loops.get name = .busy p) :
    Turn s h (work .silent name (p.next (reply p.call)) s ()).1
  /-- A loop finds that the controller is about to end. -/
  | quit {name : LoopName} (is : h = .stimulus (.quit name)) (stopping : s.desk.stopping = true)
    (working : s.loops.get name = .resting ∨ ∃ p, s.loops.get name = .busy p) :
    Turn s h { s with loops := s.loops.set name .ended }
  /-- The run finds that the controller is about to end. -/
  | halt (is : h = .stimulus .halt) (serving : s.stage = .serving)
    (stopping : s.desk.stopping = true) :
    Turn s h { s with
      desk := if s.desk.cancelled then s.desk.recordOutcome none else s.desk
      stage := .joining }
  /-- The run finds that all loops have ended. -/
  | join (is : h = .stimulus .join) (joining : s.stage = .joining)
    (ended : s.loops.allEnded = true) : Turn s h (goOnRetiring .silent retire s ()).1
  /-- The removal goes on. -/
  | retiring {p : Pending Unit} {reply : Reply} (is : h = .stimulus (.answer .life reply))
    (stage : s.stage = .retiring p) :
    Turn s h (goOnRetiring .silent (p.next (reply p.call)) s ()).1

/-- A loop begins a task if it is at rest, and else nothing happens. -/
theorem turn_beginTask {h : Happening} {task : Activity Unit} {d : Desk}
    (begins : s.Begins h name task d) (rests : d = s.desk ∨ s.loops.get name = .resting) :
    s.Turn h (beginTask .silent name task { s with desk := d } ()).1 := by
  unfold beginTask
  cases loop : s.loops.get name with
  | resting => exact .begin begins loop
  | _ =>
    obtain rfl := rests.resolve_right (by simp [loop])
    exact .still begins.silent.1 (by simp [begins.silent.2])

/-- An answer makes its strand go on if it waits for one, and else nothing happens. -/
theorem turn_take (s : System) (strand : Strand) (reply : Reply) :
    s.Turn (.stimulus (.answer strand reply)) (take .silent strand reply s ()).1 := by
  have unasked (closed : s.openCall? strand = none) :
      s.Turn (.stimulus (.answer strand reply)) s :=
    .still rfl fun other is => by
      cases is
      exact closed
  cases strand with
  | life =>
    dsimp only [take]
    cases stage : s.stage with
    | enlisting p => exact .enlisting rfl stage
    | retiring p => exact .retiring rfl stage
    | _ => exact unasked (by simp [openCall?, stage])
  | loop name =>
    dsimp only [take]
    cases loop : s.loops.get name with
    | busy p => exact .busy rfl loop
    | _ => exact unasked (by simp [openCall?, loop])

/-- A loop ends if the controller is about to end. -/
theorem turn_quit (s : System) (name : LoopName) :
    s.Turn (.stimulus (.quit name)) (System.quit name s) := by
  have still : s.Turn (.stimulus (.quit name)) s := .still rfl nofun
  unfold System.quit
  by_cases stopping : s.desk.stopping = true
  · rw [if_pos stopping]
    cases loop : s.loops.get name with
    | resting => exact .quit rfl stopping (.inl loop)
    | busy p =>
      dsimp only
      split
      · exact still
      · exact .quit rfl stopping (.inr ⟨p, loop⟩)
    | _ => exact still
  · rw [if_neg stopping]
    exact still

/-- Whatever happens comes to a turn. -/
theorem turn (s : System) (h : Happening) : s.Turn h (s.meet h) := by
  cases h with
  | start =>
    unfold meet start
    cases stage : s.stage with
    | idle => exact .enlist rfl stage
    | _ => exact .still rfl nofun
  | stimulus stimulus =>
    unfold meet react
    cases stimulus with
    | elapse ms => exact .outside rfl
    | cancel => exact .outside rfl
    | connect => exact .outside rfl
    | message purpose topic payload => exact .outside rfl
    | beat =>
      dsimp only [beginDue]
      cases going_on : s.desk.stopping with
      | true => exact .still rfl nofun
      | false => exact turn_beginTask (.beat going_on) (.inl rfl)
    | pass =>
      dsimp only [beginDue]
      cases going_on : s.desk.stopping with
      | true => exact .still rfl nofun
      | false => exact turn_beginTask (.pass going_on) (.inl rfl)
    | look =>
      dsimp only
      split
      · rename_i looks
        simp only [Bool.and_eq_true, Bool.not_eq_true', isResting_iff] at looks
        obtain ⟨⟨resting, woken⟩, going_on⟩ := looks
        exact turn_beginTask (.look going_on woken) (.inr resting)
      · exact .still rfl nofun
    | renew =>
      dsimp only
      split
      · rename_i unseen
        exact turn_beginTask (.renew unseen) (.inl rfl)
      · exact .still rfl nofun
    | answer strand reply => exact s.turn_take strand reply
    | quit name => exact s.turn_quit name
    | halt =>
      dsimp only [System.halt]
      cases stage : s.stage with
      | serving =>
        dsimp only
        split
        · rename_i stopping
          exact .halt rfl stage stopping
        · exact .still rfl nofun
      | _ => exact .still rfl nofun
    | join =>
      dsimp only [System.join]
      cases stage : s.stage with
      | joining =>
        dsimp only
        split
        · rename_i ended
          exact .join rfl stage ended
        · exact .still rfl nofun
      | _ => exact .still rfl nofun

/-! ## What one strand leaves alone -/

variable (task : Activity Unit)

/-- The work of a loop does not move the run. -/
@[simp]
theorem stage_work (s : System) (name : LoopName) :
    (work .silent name task s ()).1.stage = s.stage := by
  unfold work
  split <;> rfl

/-- The work of a loop leaves the other loops alone, and the loop rests or is busy after it. -/
theorem loops_work (s : System) (name : LoopName) :
    ∃ loop, (work .silent name task s ()).1.loops = s.loops.set name loop ∧
      (loop = .resting ∨ ∃ p, loop = .busy p) := by
  unfold work
  split
  · exact ⟨_, rfl, .inl rfl⟩
  · exact ⟨_, rfl, .inr ⟨_, rfl⟩⟩

/-- The work of a loop is nothing to another loop. -/
theorem get_work_of_ne {name other : LoopName} (differ : other ≠ name) (s : System) :
    (work .silent name task s ()).1.loops.get other = s.loops.get other := by
  obtain ⟨loop, loops, -⟩ := loops_work task s name
  rw [loops, get_set, if_neg differ]

/-- The removal of the node does not move the loops. -/
@[simp]
theorem loops_goOnRetiring (s : System) :
    (goOnRetiring .silent task s ()).1.loops = s.loops := by
  unfold goOnRetiring
  split <;> rfl

/-- What the registration comes to: it waits again, it has failed, or the loops are set off. -/
inductive Enrolls (s : System) (e : Desk) : System → Prop where
  | waits (p : Pending Bool) : Enrolls s e { s with desk := e, stage := .enlisting p }
  | fails : Enrolls s e { s with desk := e, stage := .over }
  | works : Enrolls s e (work .silent .renewal watchSessions
      ⟨e, .serving, .atStart e.settings⟩ ()).1

/-- The registration waits again, or it has failed, or it sets the loops off. -/
theorem enrolls_goOnEnlisting (task : Activity Bool) (s : System) :
    ∃ e, Enrolls s e (goOnEnlisting .silent task s ()).1 := by
  unfold goOnEnlisting
  rcases task.advance .silent s.desk () with ⟨e, _, standing⟩
  cases standing with
  | finished worked =>
    cases worked with
    | true => exact ⟨e, .works⟩
    | false => exact ⟨e, .fails⟩
  | waiting call next => exact ⟨e, .waits _⟩

end System

/-! ## Who is at work when -/

/-- A loop that has not been set off or has ended does nothing. -/
def Loop.Off (loop : Loop) : Prop := loop = .idle ∨ loop = .ended

/-- Loops are at work only while the run serves the node and while it waits for them to end. -/
def System.Orderly (s : System) : Prop :=
  s.stage ≠ .serving → s.stage ≠ .joining → ∀ name, (s.loops.get name).Off

/-- Every loop was set off by the time that the run serves the node. -/
def System.SetOff (s : System) : Prop :=
  s.stage = .serving ∨ s.stage = .joining → ∀ name, s.loops.get name ≠ .idle

namespace System

variable {s : System} {h : Happening}

/-- A loop is at work only while the run waits for it. -/
theorem Orderly.stage_of_working {name : LoopName} (orderly : s.Orderly)
    (working : s.loops.get name = .resting ∨ ∃ p, s.loops.get name = .busy p) :
    s.stage = .serving ∨ s.stage = .joining := by
  have on : ¬ (s.loops.get name).Off := by
    rcases working with rests | ⟨p, busy⟩
    · simp [Loop.Off, rests]
    · simp [Loop.Off, busy]
  by_cases serving : s.stage = .serving
  · exact .inl serving
  · by_cases joining : s.stage = .joining
    · exact .inr joining
    · exact absurd (orderly serving joining name) on

/-- While the run registers or removes the node, no loop waits. -/
theorem Orderly.off_of_open {call : Call} (orderly : s.Orderly)
    (waits : s.openCall? .life = some call) (name : LoopName) : (s.loops.get name).Off := by
  refine orderly ?_ ?_ name
  · intro serving
    simp [openCall?, serving] at waits
  · intro joining
    simp [openCall?, joining] at waits

/-- A loop that does nothing has no open call. -/
theorem openCall?_of_off {name : LoopName} (off : (s.loops.get name).Off) :
    s.openCall? (.loop name) = none := by
  rcases off with idle | ended
  · simp [openCall?, idle]
  · simp [openCall?, ended]

/-- The registration keeps the order. -/
theorem orderly_goOnEnlisting (task : Activity Bool)
    (off : ∀ name, (s.loops.get name).Off) : (goOnEnlisting .silent task s ()).1.Orderly := by
  obtain ⟨e, enrolls⟩ := enrolls_goOnEnlisting task s
  generalize (goOnEnlisting .silent task s ()).1 = s' at enrolls
  cases enrolls with
  | waits p => exact fun _ _ => off
  | fails => exact fun _ _ => off
  | works => simp [Orderly]

/-- The removal keeps the order. -/
theorem orderly_goOnRetiring (task : Activity Unit) (off : ∀ name, (s.loops.get name).Off) :
    (goOnRetiring .silent task s ()).1.Orderly := by
  unfold goOnRetiring
  split
  · exact fun _ _ => off
  · exact fun _ _ => off

/-- The work of a loop keeps the order. -/
theorem Orderly.work (orderly : s.Orderly) {name : LoopName}
    (working : s.loops.get name = .resting ∨ ∃ p, s.loops.get name = .busy p)
    (task : Activity Unit) (d : Desk) :
    (System.work .silent name task { s with desk := d } ()).1.Orderly := by
  unfold Orderly
  rw [stage_work]
  rcases orderly.stage_of_working working with stage | stage
  · simp [stage]
  · simp [stage]

/-- Whatever happens, the order is kept. -/
theorem Orderly.meet (orderly : s.Orderly) (h : Happening) : (s.meet h).Orderly := by
  have turn := s.turn h
  generalize s.meet h = s' at turn
  cases turn with
  | outside _ => exact orderly
  | still _ _ => exact orderly
  | enlist _ idle => exact orderly_goOnEnlisting _ (orderly (by simp [idle]) (by simp [idle]))
  | enlisting _ stage =>
    exact orderly_goOnEnlisting _ (orderly.off_of_open (openCall?_enlisting stage))
  | begin _ resting => exact orderly.work (.inl resting) _ _
  | busy _ busy => exact orderly.work (.inr ⟨_, busy⟩) _ s.desk
  | quit _ _ working =>
    rcases orderly.stage_of_working working with stage | stage
    · simp [Orderly, stage]
    · simp [Orderly, stage]
  | halt _ _ _ => simp [Orderly]
  | join _ _ ended => exact orderly_goOnRetiring _ fun name => .inr (allEnded_iff.1 ended name)
  | retiring _ stage =>
    exact orderly_goOnRetiring _ (orderly.off_of_open (openCall?_retiring stage))

/-- No loop is idle that was set off. -/
theorem get_atStart_ne_idle (settings : Settings) (name : LoopName) :
    (Loops.atStart settings).get name ≠ .idle := by
  have periodic (interval : Nat) : Loops.periodic interval ≠ .idle := by
    unfold Loops.periodic
    split <;> nofun
  cases name with
  | heartbeat => exact periodic _
  | reconcile => exact periodic _
  | renewal => nofun

/-- The work of a loop sets no loop back. -/
theorem get_work_ne_idle (task : Activity Unit) {s : System} {name : LoopName}
    (set_off : ∀ other, s.loops.get other ≠ .idle) (other : LoopName) :
    (work .silent name task s ()).1.loops.get other ≠ .idle := by
  obtain ⟨loop, loops, working⟩ := loops_work task s name
  rw [loops, get_set]
  split
  · rcases working with rfl | ⟨p, rfl⟩ <;> nofun
  · exact set_off other

/-- A registration that goes on sets off all loops or none. -/
theorem setOff_goOnEnlisting (task : Activity Bool) (s : System) :
    (goOnEnlisting .silent task s ()).1.SetOff := by
  obtain ⟨e, enrolls⟩ := enrolls_goOnEnlisting task s
  generalize (goOnEnlisting .silent task s ()).1 = s' at enrolls
  cases enrolls with
  | waits p => simp [SetOff]
  | fails => simp [SetOff]
  | works => exact fun _ => get_work_ne_idle watchSessions (get_atStart_ne_idle e.settings)

/-- While the node is being removed nothing is left to be set off. -/
theorem setOff_goOnRetiring (task : Activity Unit) (s : System) :
    (goOnRetiring .silent task s ()).1.SetOff := by
  unfold goOnRetiring
  split <;> simp [SetOff]

/-- Whatever happens, the loops that were set off are not set back. -/
theorem SetOff.meet (set_off : s.SetOff) (h : Happening) : (s.meet h).SetOff := by
  have turn := s.turn h
  generalize s.meet h = s' at turn
  cases turn with
  | outside _ => exact set_off
  | still _ _ => exact set_off
  | enlist _ _ => exact setOff_goOnEnlisting _ s
  | enlisting _ _ => exact setOff_goOnEnlisting _ s
  | @begin _ _ d begins resting =>
    intro stage
    rw [stage_work] at stage
    exact get_work_ne_idle (s := { s with desk := d }) _ (set_off stage)
  | busy _ _ =>
    intro stage
    rw [stage_work] at stage
    exact get_work_ne_idle _ (set_off stage)
  | @quit name _ _ _ =>
    intro stage other
    rw [get_set]
    split
    · nofun
    · exact set_off stage other
  | halt _ serving _ => exact fun _ => set_off (.inl serving)
  | join _ _ _ => exact setOff_goOnRetiring _ s
  | retiring _ _ => exact setOff_goOnRetiring _ s

end System

end VirtualNode.Controller
