import VirtualNode.Proofs.Ending.Conduct
import VirtualNode.Proofs.Interleaving.Chronicle

/-!
# Where a run stands

A run ends because its owner has cancelled it or because too many probes or listings have failed.
An outcome is recorded when an answer decides that the run ends, and when the run finds that its
owner has cancelled it (`Chronicle.cause?`), so there may be several, and the first one counts.

What is known of a system depends on its stage, on the calls that were answered and on the outcomes
that were recorded so far (`Fares`): while the node is served its loops make their own calls, and
once it is being removed all loops have ended, some of the calls of the removal were answered and
the next one is open.  Every happening keeps this (`Fares.step`), because every strand conducts
itself well, so it is known at every moment of every run (`fares_follow`).
-/

set_option autoImplicit false

namespace VirtualNode.Controller

open Conduct

/-! ## Causes -/

/-- The outcome that is recorded when something happens, whether or not another one was recorded
before: a fault if an answer decides that the run ends, and no fault if the run finds that its owner
has cancelled it. -/
def Chronicle.cause? (c : Chronicle) : Happening → Option (Option Fault)
  | .stimulus (.answer strand reply) => (c.system.openCall? strand).bind fun call =>
      (c.system.desk.verdict? call (reply call)).map some
  | .stimulus .halt => match c.system.stage with
    | .serving => if c.system.desk.stopping && c.system.desk.cancelled then some none else none
    | _ => none
  | _ => none

/-- The outcomes that are recorded when things happen, in their order. -/
def Chronicle.causes (c : Chronicle) : List Happening → List (Option Fault)
  | [] => []
  | h :: later => (c.cause? h).toList ++ (c.step h).causes later

namespace Ending

variable {e : Ending} {causes : List (Option Fault)}

/-- The first outcome that was recorded counts, and the run is about to end just if its owner has
cancelled it or some outcome was recorded. -/
structure Tells (e : Ending) (causes : List (Option Fault)) : Prop where
  outcome : e.completion.outcome = causes.head?
  stopping : e.stopping = (e.cancelled || !causes.isEmpty)

/-- Only the first outcome that is recorded counts. -/
theorem Tells.record (tells : e.Tells causes) (fault : Option Fault) :
    (e.completion.record fault).1.outcome = (causes ++ [fault]).head? ∧
      (e.completion.record fault).1.done = e.completion.done := by
  have outcome := tells.outcome
  cases causes with
  | nil =>
    have unrecorded : e.completion.outcome = none := outcome
    simp [Completion.record, unrecorded]
  | cons first rest =>
    rw [Completion.record_of_recorded outcome fault]
    exact ⟨outcome, rfl⟩

/-- A fault is one more outcome that was recorded, and the run is about to end. -/
theorem Tells.fail {d : Desk} (tells : d.ending.Tells causes) (fault : Fault) :
    (d.fail fault).ending.Tells (causes ++ [some fault]) := by
  refine ⟨(tells.record (some fault)).1, ?_⟩
  simp [Desk.fail, Desk.ending]

/-- That the owner has cancelled the run is recorded like a fault. -/
theorem Tells.heed {d : Desk} (tells : d.ending.Tells causes) (stopping : d.stopping = true)
    (cancelled : d.cancelled = true) :
    (d.recordOutcome none).ending.Tells (causes ++ [none]) := by
  refine ⟨(tells.record none).1, ?_⟩
  have same : (d.recordOutcome none).ending.stopping = true := stopping
  have wished : (d.recordOutcome none).ending.cancelled = true := cancelled
  simp [same, wished]

/-- The wish of the owner records nothing yet. -/
theorem Tells.cancel (tells : e.Tells causes) :
    Tells { e with cancelled := true, stopping := true } causes :=
  ⟨tells.outcome, rfl⟩

end Ending

/-- The ending after an answer has decided, if it has. -/
def Desk.endingBy (d : Desk) : Option Fault → Ending
  | none => d.ending
  | some fault => (d.fail fault).ending

/-- What an answer has decided is recorded. -/
theorem Ending.Tells.by_verdict {d : Desk} {causes : List (Option Fault)}
    (tells : d.ending.Tells causes) (verdict : Option Fault) :
    (d.endingBy verdict).Tells (causes ++ (verdict.map some).toList) ∧
      (d.endingBy verdict).completion.done = d.completion.done := by
  cases verdict with
  | none =>
    refine ⟨?_, rfl⟩
    simpa [Desk.endingBy] using tells
  | some fault => exact ⟨tells.fail fault, (tells.record (some fault)).2⟩

/-! ## Stages -/

/-- The node was registered. -/
def Registered (record : List Moment) : Prop :=
  ∃ moment ∈ record, ∃ node, moment.toExchange = ⟨.register node, some (.ok ())⟩

/-- The controller serves the node, or is about to. -/
structure Serving (record : List Moment) (causes : List (Option Fault)) (e : Ending) : Prop where
  registered : Registered record
  before : ∀ moment ∈ record, moment.question ∉ farewell
  tells : e.Tells causes
  unfinished : e.completion.done = false

/-- The loops conduct themselves well, and wait for answers to their own calls. -/
def LoopsBehave (loops : Loops) : Prop := ∀ name work, loops.get name = .busy work →
  (loopConduct name).Prepared work ∧ work.call.Errand name

/-- The stop at the first of the calls that are left. -/
def upcoming : List Call → Stop Unit
  | [] => .ends ()
  | call :: _ => .asks call

/-- The node is being removed: some calls of the removal were answered, and the next one is open. -/
structure Leaving (record : List Moment) (causes : List (Option Fault)) (stop : Stop Unit)
    (d : Desk) : Prop where
  calls : ∃ early told left, record = early ++ told ∧
    (∀ moment ∈ early, moment.question ∉ farewell) ∧
    told.map (·.question) ++ left = farewell ∧ stop = upcoming left
  caused : causes ≠ []
  tells : d.ending.Tells causes
  done : d.completion.done = true ↔ stop = .ends ()
  offline : stop = .asks .disconnect ∨ stop = .ends () → d.Offline

/-- The node is being registered, or has been, or could not be registered. -/
inductive Enlisting (record : List Moment) (causes : List (Option Fault)) (e : Ending) : Call → Prop
  | asked (node : Kube.Node) (nothing : record = []) (tells : e.Tells causes)
    (unfinished : e.completion.done = false) : Enlisting record causes e (.register node)
  | worked {call : Call} (subscribes : call.Subscribes) (serving : Serving record causes e) :
    Enlisting record causes e call
  | failed (refused : ¬ Registered record) : Enlisting record causes e .disconnect

/-- What is known of a system, given the calls that were answered and the outcomes that were
recorded. -/
def Fares (record : List Moment) (causes : List (Option Fault)) (s : System) : Prop :=
  match s.stage with
  | .idle => record = [] ∧ s.desk.ending.Tells causes ∧ s.desk.completion.done = false
  | .enlisting work => enlistConduct.Prepared work ∧ Enlisting record causes s.desk.ending work.call
  | .serving => Serving record causes s.desk.ending ∧ LoopsBehave s.loops
  | .joining => (Serving record causes s.desk.ending ∧ LoopsBehave s.loops) ∧ causes ≠ []
  | .retiring work => removalConduct.Prepared work ∧ s.loops.allEnded = true ∧
      Leaving record causes (.asks work.call) s.desk
  | .over => ¬ Registered record ∨
      s.loops.allEnded = true ∧ Leaving record causes (.ends ()) s.desk

/-- A call of the removal is followed by the next one. -/
theorem followUp_eq_upcoming {told : List Call} {call : Call} {left : List Call}
    (split : told ++ call :: left = farewell) : followUp call = upcoming left := by
  have whole : farewell =
      [.unsubscribe .bizState, .unsubscribe .baseHeart, .deleteNode, .disconnect] := rfl
  rw [whole] at split
  rcases told with _ | ⟨_, _ | ⟨_, _ | ⟨_, _ | ⟨_, more⟩⟩⟩⟩
  · cases split
    rfl
  · cases split
    rfl
  · cases split
    rfl
  · cases split
    rfl
  · simp at split

/-- What the removal does leaves the outcome alone. -/
theorem Desk.LeftBy.tells {d e : Desk} {call : Call} {causes : List (Option Fault)}
    (left : d.LeftBy call e) (tells : d.ending.Tells causes) (caused : causes ≠ []) :
    e.ending.Tells causes := by
  have kept : e.ending = d.ending → e.ending.Tells causes := fun same => same ▸ tells
  cases call with
  | deleteNode => exact kept left.1
  | disconnect =>
    rw [left.1]
    refine ⟨?_, tells.stopping⟩
    have outcome := tells.outcome
    cases causes with
    | nil => exact absurd rfl caused
    | cons cause rest => exact Completion.outcome_finish outcome
  | _ => exact kept left

/-- The calls of the removal are two to unsubscribe, one to delete the node and one to disconnect.
-/
theorem mem_farewell {call : Call} : call ∈ farewell ↔ call = .unsubscribe .bizState ∨
    call = .unsubscribe .baseHeart ∨ call = .deleteNode ∨ call = .disconnect := by
  simp [farewell, listened]

/-- The run is finished after the last of the calls. -/
theorem Desk.LeftBy.done_iff {d e : Desk} {call : Call} (left : d.LeftBy call e)
    (mem : call ∈ farewell) (unfinished : d.completion.done = false) :
    e.completion.done = true ↔ followUp call = .ends () := by
  have kept : e.ending = d.ending → e.completion.done = false := fun same =>
    (congrArg (fun ending : Ending => ending.completion.done) same).trans unfinished
  rcases mem_farewell.1 mem with rfl | rfl | rfl | rfl
  · simp [kept left, followUp]
  · simp [kept left, followUp]
  · simp [kept left.1, followUp]
  · have finished : e.completion.done = true :=
      congrArg (fun ending : Ending => ending.completion.done) left.1
    simp [finished, followUp]

/-- From the answer to the deletion of the node on, nothing counts as ready. -/
theorem Desk.LeftBy.offline {d e : Desk} {call : Call} (left : d.LeftBy call e)
    (mem : call ∈ farewell) (offline : call = .disconnect → d.Offline)
    (late : followUp call = .asks .disconnect ∨ followUp call = .ends ()) : e.Offline := by
  rcases mem_farewell.1 mem with rfl | rfl | rfl | rfl
  · simp [followUp] at late
  · simp [followUp] at late
  · exact left.2
  · exact left.2 (offline rfl)

/-- No loop makes a call of the removal. -/
theorem Call.Errand.not_mem_farewell {call : Call} {name : LoopName} (errand : call.Errand name) :
    call ∉ farewell := by
  intro mem
  rcases mem_farewell.1 mem with rfl | rfl | rfl | rfl <;> cases name <;> exact errand

/-- While the node is being removed a call of the removal is open. -/
theorem Leaving.mem {record : List Moment} {causes : List (Option Fault)} {d : Desk} {call : Call}
    (leaving : Leaving record causes (.asks call) d) : call ∈ farewell := by
  obtain ⟨early, told, left, -, -, whole, here⟩ := leaving.calls
  cases left with
  | nil => cases here
  | cons next rest =>
    cases here
    rw [← whole]
    simp

/-- With an answer the removal comes to its next call. -/
theorem Leaving.answered {record : List Moment} {causes : List (Option Fault)} {d e : Desk}
    {moment : Moment} {stop : Stop Unit} (leaving : Leaving record causes (.asks moment.question) d)
    (left : removalConduct moment.question moment.answer d stop e) :
    Leaving (record ++ [moment]) causes stop e := by
  have mem := leaving.mem
  obtain ⟨⟨early, told, rest, rfl, before, whole, here⟩, caused, tells, done, offline⟩ := leaving
  cases rest with
  | nil => cases here
  | cons call rest =>
    cases here
    obtain ⟨next, left⟩ := left
    have follows := followUp_eq_upcoming whole
    have unfinished : d.completion.done = false := by
      simpa [upcoming] using done
    refine ⟨⟨early, told ++ [moment], rest, ?_, before, ?_, next.trans follows⟩, caused,
      left.tells tells caused, ?_, ?_⟩
    · rw [List.append_assoc]
    · simpa using whole
    · rw [next]
      exact left.done_iff mem unfinished
    · rw [next]
      exact left.offline mem fun is => offline (.inl (congrArg Stop.asks is))

/-! ## One strand at work -/

section Work

variable {record : List Moment} {causes : List (Option Fault)} {s : System}

/-- The removal of the node has gone on. -/
theorem fares_goOnRetiring {task : Activity Unit} {aim : Aim Unit}
    (behaves : removalConduct.Behaves task aim s.desk Ends) (ended : s.loops.allEnded = true)
    (leaving : ∀ stop e, aim stop e → Leaving record causes stop e) :
    Fares record causes (System.goOnRetiring .silent task s ()).1 := by
  have advanced := behaves_advance behaves
  unfold System.goOnRetiring
  rcases going : task.advance .silent s.desk () with ⟨e, _, standing⟩
  rw [going] at advanced
  cases standing with
  | finished a => exact .inr ⟨ended, leaving _ _ advanced⟩
  | waiting call next => exact ⟨advanced.2, ended, leaving _ _ advanced.1⟩

/-- The removal of the node has begun. -/
theorem Serving.retire (serving : Serving record causes s.desk.ending) (caused : causes ≠ [])
    (ended : s.loops.allEnded = true) :
    Fares record causes (System.goOnRetiring .silent Controller.retire s ()).1 := by
  refine fares_goOnRetiring retire_behaves ended ?_
  rintro stop e ⟨rfl, same⟩
  have unfinished : e.completion.done = false :=
    (congrArg (fun ending : Ending => ending.completion.done) same).trans serving.unfinished
  refine ⟨⟨record, [], farewell, by simp, serving.before, rfl, rfl⟩, caused, same ▸ serving.tells,
    ?_, ?_⟩
  · simp [unfinished]
  · simp

/-- The go of a loop comes to an ending, and at most to a call of this loop. -/
def KeepsTo (name : LoopName) (ending : Ending) (aim : Aim Unit) : Prop :=
  ∀ stop e, aim stop e → e.ending = ending ∧ ∀ call, stop = .asks call → call.Errand name

/-- A go that decides nothing keeps to the ending that is there. -/
theorem keepsTo_comesTo (name : LoopName) (ending : Ending) :
    KeepsTo name ending (comesTo name ending) := by
  intro stop e aim
  cases stop with
  | asks call =>
    refine ⟨aim.2, ?_⟩
    rintro _ ⟨⟩
    exact aim.1
  | ends _ => exact ⟨aim, fun _ => nofun⟩

/-- The go of a loop keeps to the ending that its answer has brought about. -/
theorem keepsTo_loopConduct (name : LoopName) (call : Call) (answer : call.Answer) (d : Desk) :
    KeepsTo name (d.endingBy (d.verdict? call answer)) (loopConduct name call answer d) := by
  unfold loopConduct
  cases d.verdict? call answer with
  | none => exact keepsTo_comesTo name d.ending
  | some fault =>
    rintro stop e ⟨rfl, ending⟩
    exact ⟨ending, fun _ => nofun⟩

/-- A loop has worked. -/
theorem LoopsBehave.work {name : LoopName} {task : Activity Unit} {aim : Aim Unit} {ending : Ending}
    (others : LoopsBehave s.loops) (behaves : (loopConduct name).Behaves task aim s.desk Ends)
    (keeps : KeepsTo name ending aim) :
    (System.work .silent name task s ()).1.desk.ending = ending ∧
      LoopsBehave (System.work .silent name task s ()).1.loops := by
  have advanced := behaves_advance behaves
  unfold System.work
  rcases going : task.advance .silent s.desk () with ⟨e, _, standing⟩
  rw [going] at advanced
  cases standing with
  | finished a =>
    refine ⟨(keeps _ _ advanced).1, ?_⟩
    intro other work busy
    rcases System.busy_of_set busy with ⟨-, resting⟩ | before
    · cases resting
    · exact others other work before
  | waiting call next =>
    refine ⟨(keeps _ _ advanced.1).1, ?_⟩
    intro other work busy
    rcases System.busy_of_set busy with ⟨rfl, waits⟩ | before
    · cases waits
      exact ⟨advanced.2, (keeps _ _ advanced.1).2 _ rfl⟩
    · exact others other work before

/-- Nothing waits in a periodic loop that has just been set off. -/
theorem periodic_ne_busy (interval : Nat) (work : Pending Unit) :
    Loops.periodic interval ≠ .busy work := by
  unfold Loops.periodic
  split
  · nofun
  · nofun

/-- The loops behave when they are set off. -/
theorem loopsBehave_atStart (settings : Settings) : LoopsBehave (.atStart settings) := by
  intro name work busy
  cases name with
  | heartbeat => exact absurd busy (periodic_ne_busy _ _)
  | reconcile => exact absurd busy (periodic_ne_busy _ _)
  | renewal => cases busy

/-- The registration has gone on. -/
theorem fares_goOnEnlisting {task : Activity Bool} {aim : Aim Bool}
    (behaves : enlistConduct.Behaves task aim s.desk Ends)
    (asks : ∀ call e, aim (.asks call) e → Enlisting record causes e.ending call)
    (worked : ∀ e, aim (.ends true) e → Serving record causes e.ending)
    (failed : ∀ e, aim (.ends false) e → ¬ Registered record) :
    Fares record causes (System.goOnEnlisting .silent task s ()).1 := by
  have advanced := behaves_advance behaves
  unfold System.goOnEnlisting
  rcases going : task.advance .silent s.desk () with ⟨e, _, standing⟩
  rw [going] at advanced
  cases standing with
  | finished result =>
    cases result with
    | true =>
      have serving := worked e advanced
      let begun : System := ⟨e, .serving, .atStart e.settings⟩
      obtain ⟨ending, behave⟩ := LoopsBehave.work (s := begun) (loopsBehave_atStart e.settings)
        watchSessions_behaves (keepsTo_comesTo .renewal e.ending)
      dsimp only
      rw [Fares, System.stage_work]
      exact ⟨ending ▸ serving, behave⟩
    | false => exact .inl (failed e advanced)
  | waiting call next => exact ⟨advanced.2, asks call e advanced.1⟩

end Work

/-! ## Answers -/

section Answers

variable {record : List Moment} {causes : List (Option Fault)} {s : System} {moment : Moment}

/-- A node that was registered stays so. -/
theorem Registered.append (registered : Registered record) (later : List Moment) :
    Registered (record ++ later) := by
  obtain ⟨earlier, mem, node, is⟩ := registered
  exact ⟨earlier, List.mem_append_left _ mem, node, is⟩

/-- The controller still serves the node after an answer to another call. -/
theorem Serving.append {ending : Ending} (serving : Serving record causes ending)
    (moment : Moment) (other : moment.question ∉ farewell) :
    Serving (record ++ [moment]) causes ending := by
  refine ⟨serving.registered.append _, ?_, serving.tells, serving.unfinished⟩
  intro earlier mem
  rcases List.mem_append.1 mem with old | new
  · exact serving.before earlier old
  · rw [List.mem_singleton.1 new]
    exact other

/-- A call to subscribe is none of the removal. -/
theorem Call.Subscribes.not_mem_farewell {call : Call} (subscribes : call.Subscribes) :
    call ∉ farewell := by
  intro mem
  rcases mem_farewell.1 mem with rfl | rfl | rfl | rfl
  · exact subscribes
  · exact subscribes
  · exact subscribes
  · exact subscribes

/-- The registration has worked, and it goes on to subscribe. -/
theorem fares_enlisted {task : Activity Bool} (serving : Serving record causes s.desk.ending)
    (behaves : enlistConduct.Behaves task (enlisted s.desk.ending) s.desk Ends) :
    Fares record causes (System.goOnEnlisting .silent task s ()).1 := by
  refine fares_goOnEnlisting behaves ?_ ?_ ?_
  · rintro call e ⟨subscribes, same⟩
    exact .worked subscribes (same ▸ serving)
  · rintro e ⟨-, same⟩
    exact same ▸ serving
  · rintro e ⟨worked, -⟩
    cases worked

/-- The registration has failed, and it goes on to disconnect. -/
theorem fares_unlisted {task : Activity Bool} (refused : ¬ Registered record)
    (behaves : enlistConduct.Behaves task unlisted s.desk Ends) :
    Fares record causes (System.goOnEnlisting .silent task s ()).1 := by
  refine fares_goOnEnlisting behaves ?_ ?_ ?_
  · rintro call e rfl
    exact .failed refused
  · rintro e worked
    cases worked
  · exact fun _ _ => refused

/-- An answer to another call than the registration registers nothing. -/
theorem not_registered_append (refused : ¬ Registered record)
    (other : ∀ node, moment.question ≠ .register node) : ¬ Registered (record ++ [moment]) := by
  rintro ⟨told, mem, node, is⟩
  rcases List.mem_append.1 mem with old | new
  · exact refused ⟨told, old, node, is⟩
  · rw [List.mem_singleton.1 new] at is
    exact other node (congrArg Dialogue.Exchange.question is)

/-- What the registration does after an answer is what is known of it then. -/
theorem fares_enlisting {work : Pending Bool} {asked : Desk} {answer : work.call.Answer}
    (prepared : enlistConduct.Prepared work)
    (enlisting : Enlisting record causes s.desk.ending work.call) :
    Fares (record ++ [⟨⟨work.call, answer⟩, asked⟩]) causes
      (System.goOnEnlisting .silent (work.next answer) s ()).1 := by
  obtain ⟨call, next⟩ := work
  have behaves := prepared answer s.desk
  cases enlisting with
  | asked node nothing tells unfinished =>
    subst nothing
    by_cases succeeds : succeeded answer = true
    · have answered : answer = some (.ok ()) := by
        unfold succeeded at succeeds
        split at succeeds
        · rfl
        · cases succeeds
      simp only [enlistConduct, succeeds, if_true] at behaves
      refine fares_enlisted ⟨⟨_, List.mem_singleton_self _, node, by rw [answered]⟩, ?_, tells,
        unfinished⟩ behaves
      intro moment mem
      rw [List.mem_singleton.1 mem]
      simp [mem_farewell]
    · simp only [enlistConduct, succeeds] at behaves
      refine fares_unlisted ?_ behaves
      rintro ⟨moment, mem, other, is⟩
      rw [List.mem_singleton.1 mem] at is
      cases is
      exact succeeds rfl
  | worked subscribes serving =>
    have answered := serving.append
      ⟨⟨call, answer⟩, asked⟩ subscribes.not_mem_farewell
    rw [enlistConduct_of_subscribes subscribes] at behaves
    exact fares_enlisted answered behaves
  | failed refused =>
    refine fares_unlisted (not_registered_append refused fun node is => ?_) behaves
    cases is

/-- What the removal does after an answer is what is known of it then. -/
theorem fares_retiring {work : Pending Unit} {asked : Desk} {answer : work.call.Answer}
    (prepared : removalConduct.Prepared work) (ended : s.loops.allEnded = true)
    (leaving : Leaving record causes (.asks work.call) s.desk) :
    Fares (record ++ [⟨⟨work.call, answer⟩, asked⟩]) causes
      (System.goOnRetiring .silent (work.next answer) s ()).1 := by
  let moment : Moment := ⟨⟨work.call, answer⟩, asked⟩
  have open_call : Leaving record causes (.asks moment.question) s.desk := leaving
  exact fares_goOnRetiring (prepared answer s.desk) ended fun _ _ aim => open_call.answered aim

end Answers

/-! ## Everything that can happen -/

section Happenings

variable {record : List Moment} {causes : List (Option Fault)} {s : System}

/-- A message does not change the gauge for the node's readiness. -/
theorem nodeReady_receive (i : Inbox) (purpose : Topic.Purpose) (topic : String)
    (payload : ByteArray) : (i.receive purpose topic payload).metrics.nodeReady =
      i.metrics.nodeReady := by
  have reports : ∀ (i : Inbox) (reports : List Biz.Report),
      (i.takeReports reports).1.metrics = i.metrics := by
    intro i reports
    induction reports generalizing i with
    | nil => rfl
    | cons report reports ih =>
      have one : (i.takeReport report).1.metrics = i.metrics := by
        unfold Inbox.takeReport
        split <;> rfl
      exact (ih _).trans one
  cases purpose with
  | bizState =>
    simp only [Inbox.receive, Inbox.receiveReports]
    cases Biz.Report.decode payload with
    | error e => rfl
    | ok decoded =>
      let counted : Inbox := { i with metrics := i.metrics.addBizMessages decoded.length }
      have same := congrArg Watch.Metrics.nodeReady (reports counted.touch decoded)
      exact same
  | _ => rfl

/-- What comes from outside records nothing, and nobody becomes ready by it. -/
theorem Happening.touch_ending (h : Happening) (causes : List (Option Fault)) (d : Desk) :
    (d.ending.Tells causes → (h.touch d).ending.Tells causes) ∧
      (h.touch d).completion = d.completion ∧ (d.Offline → (h.touch d).Offline) := by
  cases h with
  | start => exact ⟨id, rfl, id⟩
  | stimulus stimulus =>
    cases stimulus with
    | cancel => exact ⟨Ending.Tells.cancel, rfl, id⟩
    | message purpose topic payload =>
      refine ⟨id, rfl, fun offline => ⟨offline.1, ?_⟩⟩
      exact (nodeReady_receive _ purpose topic payload).trans offline.2
    | _ => exact ⟨id, rfl, id⟩

/-- What is known of a run stays known when something comes from outside. -/
theorem Fares.outside (fares : Fares record causes s) (h : Happening) :
    Fares record causes { s with desk := h.touch s.desk } := by
  obtain ⟨tells, completion, offline⟩ := h.touch_ending causes s.desk
  have serves : Serving record causes s.desk.ending →
      Serving record causes (h.touch s.desk).ending := fun ⟨registered, before, told, unfinished⟩ =>
    ⟨registered, before, tells told, (congrArg Completion.done completion).trans unfinished⟩
  have leaves : ∀ {stop}, Leaving record causes stop s.desk →
      Leaving record causes stop (h.touch s.desk) := by
    rintro stop ⟨calls, caused, told, done, absent⟩
    exact ⟨calls, caused, tells told, completion ▸ done, fun late => offline (absent late)⟩
  obtain ⟨desk, stage, loops⟩ := s
  cases stage with
  | idle =>
    obtain ⟨nothing, told, unfinished⟩ := fares
    exact ⟨nothing, tells told, (congrArg Completion.done completion).trans unfinished⟩
  | enlisting work =>
    obtain ⟨prepared, enlisting⟩ := fares
    refine ⟨prepared, ?_⟩
    obtain ⟨call, next⟩ := work
    cases enlisting with
    | asked node nothing told unfinished =>
      exact .asked node nothing (tells told)
        ((congrArg Completion.done completion).trans unfinished)
    | worked subscribes serving => exact .worked subscribes (serves serving)
    | failed refused => exact .failed refused
  | serving => exact fares.imp_left serves
  | joining => exact fares.imp_left (And.imp_left serves)
  | retiring work => exact ⟨fares.1, fares.2.1, leaves fares.2.2⟩
  | _ => exact fares.imp_right (And.imp_right leaves)

/-- While loops are at work the node is served, and they conduct themselves well. -/
theorem Fares.serves (fares : Fares record causes s)
    (stage : s.stage = .serving ∨ s.stage = .joining) :
    (Serving record causes s.desk.ending ∧ LoopsBehave s.loops) ∧
      (s.stage = .joining → causes ≠ []) := by
  rcases stage with stage | stage
  · simp only [Fares, stage] at fares
    exact ⟨fares, by simp [stage]⟩
  · simp only [Fares, stage] at fares
    exact ⟨fares.1, fun _ => fares.2⟩

/-- This is what is known while loops are at work. -/
theorem fares_of_serves (stage : s.stage = .serving ∨ s.stage = .joining)
    (serving : Serving record causes s.desk.ending) (behave : LoopsBehave s.loops)
    (caused : s.stage = .joining → causes ≠ []) : Fares record causes s := by
  rcases stage with stage | stage
  · simp only [Fares, stage]
    exact ⟨serving, behave⟩
  · simp only [Fares, stage]
    exact ⟨⟨serving, behave⟩, caused stage⟩

/-- A task that a loop begins conducts itself well, and decides nothing yet. -/
theorem begins_behaves {h : Happening} {name : LoopName} {task : Activity Unit} {d : Desk}
    (begins : s.Begins h name task d) : d.ending = s.desk.ending ∧
      (loopConduct name).Behaves task (comesTo name s.desk.ending) d Ends := by
  cases begins with
  | beat _ => exact ⟨rfl, beat_behaves⟩
  | pass _ => exact ⟨rfl, reconcile_behaves⟩
  | look _ _ => exact ⟨rfl, pushStatuses_behaves⟩
  | renew _ => exact ⟨rfl, renewSubscriptions_behaves⟩

/-- Loops that end conduct themselves well. -/
theorem LoopsBehave.quit (behave : LoopsBehave s.loops) (name : LoopName) :
    LoopsBehave (s.loops.set name .ended) := by
  intro other work busy
  rcases System.busy_of_set busy with ⟨-, ended⟩ | before
  · cases ended
  · exact behave other work before

variable {c : Chronicle}

/-- An answer that decides nothing records nothing. -/
theorem cause?_of_undecisive {strand : Strand} {call : Call} (reply : Reply)
    (waits : c.system.openCall? strand = some call) (undecided : ¬ call.Decides) :
    c.cause? (.stimulus (.answer strand reply)) = none := by
  simp [Chronicle.cause?, waits, Desk.verdict?_eq_none _ undecided]

/-- Without an answer nothing is recorded but that the owner has cancelled the run. -/
theorem cause?_of_silent {h : Happening} (other : h ≠ .stimulus .halt)
    (closed : ∀ strand, h.answered? = some strand → c.system.openCall? strand = none) :
    c.cause? h = none := by
  cases h with
  | start => rfl
  | stimulus stimulus =>
    cases stimulus with
    | answer strand reply => simp [Chronicle.cause?, closed strand rfl]
    | halt => exact absurd rfl other
    | _ => rfl

/-- Nothing is recorded when nothing happens. -/
theorem cause?_of_still {h : Happening} (still : c.system.meet h = c.system)
    (closed : ∀ strand, h.answered? = some strand → c.system.openCall? strand = none) :
    c.cause? h = none := by
  by_cases halts : h = .stimulus .halt
  · subst halts
    have unmoved := congrArg System.stage still
    simp only [System.meet, System.react, System.halt] at unmoved
    unfold Chronicle.cause?
    cases stage : c.system.stage with
    | serving =>
      cases stopping : c.system.desk.stopping with
      | true => simp [stage, stopping] at unmoved
      | false => rfl
    | _ => rfl
  · exact cause?_of_silent halts closed

/-- The record after an answer. -/
theorem record_step_answer {strand : Strand} {call : Call} (reply : Reply)
    (waits : c.system.openCall? strand = some call) :
    (c.step (.stimulus (.answer strand reply))).record =
      c.record ++ [⟨⟨call, reply call⟩, c.asked strand⟩] := by
  simp [Chronicle.step, Chronicle.answered?_of_open reply waits]

/-- The record after something that answers nobody. -/
theorem record_step_silent {h : Happening}
    (closed : ∀ strand, h.answered? = some strand → c.system.openCall? strand = none) :
    (c.step h).record = c.record := by
  simp [Chronicle.step, Chronicle.answered?_of_closed closed]

/-- While nothing is recorded and nobody is answered, it is enough to look at the system. -/
theorem Fares.still {h : Happening} {s : System} (fares : Fares c.record causes s)
    (system : c.system.meet h = s) (other : h ≠ .stimulus .halt)
    (closed : ∀ strand, h.answered? = some strand → c.system.openCall? strand = none) :
    Fares (c.step h).record (causes ++ (c.cause? h).toList) (c.step h).system := by
  have here : (c.step h).system = s := system
  rw [record_step_silent closed, cause?_of_silent other closed, here]
  simpa using fares

/-- A loop has begun a task. -/
theorem Fares.step_begin (fares : Fares c.record causes c.system) (orderly : c.system.Orderly)
    {h : Happening} {name : LoopName} {task : Activity Unit} {d : Desk}
    (begins : c.system.Begins h name task d) (resting : c.system.loops.get name = .resting) :
    Fares c.record causes (System.work .silent name task { c.system with desk := d } ()).1 := by
  have stage := orderly.stage_of_working (.inl resting)
  obtain ⟨⟨serving, others⟩, caused⟩ := fares.serves stage
  obtain ⟨ending, behave⟩ := LoopsBehave.work (s := { c.system with desk := d }) others
    (begins_behaves begins).2 (keepsTo_comesTo name c.system.desk.ending)
  refine fares_of_serves ?_ (ending ▸ serving) behave ?_
  · rw [System.stage_work]
    exact stage
  · rw [System.stage_work]
    exact caused

/-- A loop was answered: its answer may decide that the run ends. -/
theorem Fares.step_busy (fares : Fares c.record causes c.system) (orderly : c.system.Orderly)
    {name : LoopName} {p : Pending Unit} (busy : c.system.loops.get name = .busy p) (reply : Reply)
    (system : c.system.meet (.stimulus (.answer (.loop name) reply)) =
      (System.work .silent name (p.next (reply p.call)) c.system ()).1) :
    Fares (c.step (.stimulus (.answer (.loop name) reply))).record
      (causes ++ (c.cause? (.stimulus (.answer (.loop name) reply))).toList)
      (c.step (.stimulus (.answer (.loop name) reply))).system := by
  have waits := System.openCall?_busy busy
  have stage := orderly.stage_of_working (.inr ⟨p, busy⟩)
  obtain ⟨⟨serving, behave⟩, caused⟩ := fares.serves stage
  obtain ⟨prepared, errand⟩ := behave name p busy
  obtain ⟨ending, behave'⟩ := behave.work (prepared (reply p.call) c.system.desk)
    (keepsTo_loopConduct name p.call (reply p.call) c.system.desk)
  have cause : (c.cause? (.stimulus (.answer (.loop name) reply))).toList =
      ((c.system.desk.verdict? p.call (reply p.call)).map some).toList := by
    simp [Chronicle.cause?, waits]
  obtain ⟨tells, done⟩ := serving.tells.by_verdict (c.system.desk.verdict? p.call (reply p.call))
  have here : (c.step (.stimulus (.answer (.loop name) reply))).system =
      (System.work .silent name (p.next (reply p.call)) c.system ()).1 := system
  rw [record_step_answer reply waits, cause, here]
  refine fares_of_serves ?_ ?_ behave' ?_
  · rw [System.stage_work]
    exact stage
  · have answered := serving.append
      ⟨⟨p.call, reply p.call⟩, c.asked (.loop name)⟩ errand.not_mem_farewell
    rw [ending]
    exact ⟨answered.registered, answered.before, tells, done.trans serving.unfinished⟩
  · rw [System.stage_work]
    intro joining
    simp [caused joining]

/-- The run stops serving, and if its owner has cancelled it then that is recorded. -/
theorem Fares.step_halt (fares : Fares c.record causes c.system)
    (serves : c.system.stage = .serving) (stopping : c.system.desk.stopping = true) :
    Fares c.record (causes ++ (c.cause? (.stimulus .halt)).toList) { c.system with
      desk := if c.system.desk.cancelled then c.system.desk.recordOutcome none else c.system.desk
      stage := .joining } := by
  obtain ⟨⟨serving, behave⟩, -⟩ := fares.serves (.inl serves)
  cases cancelled : c.system.desk.cancelled with
  | true =>
    have cause : (c.cause? (.stimulus .halt)).toList = [none] := by
      simp [Chronicle.cause?, serves, stopping, cancelled]
    rw [cause, if_pos rfl]
    have unfinished := (serving.tells.record none).2.trans serving.unfinished
    exact ⟨⟨⟨serving.registered, serving.before, serving.tells.heed stopping cancelled, unfinished⟩,
      behave⟩, by simp⟩
  | false =>
    have cause : (c.cause? (.stimulus .halt)).toList = [] := by
      simp [Chronicle.cause?, serves, cancelled]
    have caused : causes ≠ [] := by
      have told : c.system.desk.stopping = (c.system.desk.cancelled || !causes.isEmpty) :=
        serving.tells.stopping
      rintro rfl
      simp [stopping, cancelled] at told
    rw [cause, List.append_nil]
    exact ⟨⟨serving, behave⟩, caused⟩

/-- The registration was answered. -/
theorem Fares.step_enlisting (fares : Fares c.record causes c.system) {p : Pending Bool}
    (stage : c.system.stage = .enlisting p) (reply : Reply)
    (system : c.system.meet (.stimulus (.answer .life reply)) =
      (System.goOnEnlisting .silent (p.next (reply p.call)) c.system ()).1) :
    Fares (c.step (.stimulus (.answer .life reply))).record
      (causes ++ (c.cause? (.stimulus (.answer .life reply))).toList)
      (c.step (.stimulus (.answer .life reply))).system := by
  simp only [Fares, stage] at fares
  obtain ⟨prepared, enlisting⟩ := fares
  have waits := System.openCall?_enlisting stage
  have undecided : ¬ p.call.Decides := by
    cases call : p.call
    all_goals
      rw [call] at enlisting
      first
        | exact id
        | cases enlisting with
          | worked subscribes _ => exact fun _ => subscribes
  have here : (c.step (.stimulus (.answer .life reply))).system =
      (System.goOnEnlisting .silent (p.next (reply p.call)) c.system ()).1 := system
  rw [record_step_answer reply waits, cause?_of_undecisive reply waits undecided, here,
    Option.toList_none, List.append_nil]
  exact fares_enlisting prepared enlisting

/-- The removal was answered. -/
theorem Fares.step_retiring (fares : Fares c.record causes c.system) {p : Pending Unit}
    (stage : c.system.stage = .retiring p) (reply : Reply)
    (system : c.system.meet (.stimulus (.answer .life reply)) =
      (System.goOnRetiring .silent (p.next (reply p.call)) c.system ()).1) :
    Fares (c.step (.stimulus (.answer .life reply))).record
      (causes ++ (c.cause? (.stimulus (.answer .life reply))).toList)
      (c.step (.stimulus (.answer .life reply))).system := by
  simp only [Fares, stage] at fares
  obtain ⟨prepared, ended, leaving⟩ := fares
  have waits := System.openCall?_retiring stage
  have undecided : ¬ p.call.Decides := by
    rcases mem_farewell.1 leaving.mem with call | call | call | call
    all_goals
      rw [call]
      exact id
  have here : (c.step (.stimulus (.answer .life reply))).system =
      (System.goOnRetiring .silent (p.next (reply p.call)) c.system ()).1 := system
  rw [record_step_answer reply waits, cause?_of_undecisive reply waits undecided, here,
    Option.toList_none, List.append_nil]
  exact fares_retiring prepared ended leaving

/-- The run has been started. -/
theorem Fares.step_start (fares : Fares record causes s) (idle : s.stage = .idle) :
    Fares record causes (System.goOnEnlisting .silent enlist s ()).1 := by
  simp only [Fares, idle] at fares
  obtain ⟨nothing, tells, unfinished⟩ := fares
  rw [nothing]
  refine fares_goOnEnlisting enlist_behaves ?_ ?_ ?_
  · rintro call e ⟨⟨node, rfl⟩, same⟩
    refine .asked node rfl (same ▸ tells) ?_
    exact (congrArg (fun ending : Ending => ending.completion.done) same).trans unfinished
  · exact fun _ => False.elim
  · exact fun _ => False.elim

/-- Whatever happens, what is known of a run is known after it as well. -/
theorem Fares.step (fares : Fares c.record causes c.system) (orderly : c.system.Orderly)
    (h : Happening) :
    Fares (c.step h).record (causes ++ (c.cause? h).toList) (c.step h).system := by
  have turn := c.system.turn h
  generalize system : c.system.meet h = s at turn
  cases turn with
  | outside outer =>
    refine (fares.outside h).still system ?_ ?_
    · rintro rfl
      cases outer
    · simp [Happening.answered?_of_outside outer]
  | still inner closed =>
    have here : (c.step h).system = c.system := system
    rw [record_step_silent closed, cause?_of_still system closed, here]
    simpa using fares
  | enlist is idle =>
    subst is
    exact (fares.step_start idle).still system nofun (fun _ => nofun)
  | enlisting is stage =>
    subst is
    exact fares.step_enlisting stage _ system
  | begin begins resting =>
    refine (fares.step_begin orderly begins resting).still system ?_ ?_
    · rintro rfl
      cases begins
    · simp [begins.silent.2]
  | busy is busy =>
    subst is
    exact fares.step_busy orderly busy _ system
  | @quit name is stopping working =>
    subst is
    obtain ⟨⟨serving, behave⟩, caused⟩ := fares.serves (orderly.stage_of_working working)
    have quit : Fares c.record causes { c.system with loops := c.system.loops.set name .ended } :=
      fares_of_serves (orderly.stage_of_working working) serving (behave.quit name) caused
    exact quit.still system nofun (fun _ => nofun)
  | halt is serves stopping =>
    subst is
    have here : (c.step (.stimulus .halt)).system = _ := system
    have silent : (c.step (.stimulus .halt)).record = c.record := rfl
    rw [silent, here]
    exact fares.step_halt serves stopping
  | join is joining ended =>
    subst is
    obtain ⟨⟨serving, -⟩, caused⟩ := fares.serves (.inr joining)
    exact (serving.retire (caused joining) ended).still system nofun (fun _ => nofun)
  | retiring is stage =>
    subst is
    exact fares.step_retiring stage _ system

/-- What is known at one moment is known at every later one. -/
theorem Fares.follow (fares : Fares c.record causes c.system) (orderly : c.system.Orderly)
    (happenings : List Happening) :
    Fares (c.follow happenings).record (causes ++ c.causes happenings)
      (c.follow happenings).system ∧ (c.follow happenings).system.Orderly := by
  induction happenings generalizing c causes with
  | nil =>
    rw [← List.append_nil causes] at fares
    exact ⟨fares, orderly⟩
  | cons h later ih =>
    have rest := ih (fares.step orderly h) (orderly.meet h)
    rw [List.append_assoc] at rest
    exact rest

/-- Before the run is started no loop is at work. -/
theorem orderly_fresh (settings : Settings) (origin : Time.Stamp) :
    (Chronicle.fresh settings origin).system.Orderly := by
  intro _ _ name
  cases name with
  | _ => exact .inl rfl

/-- What is known at every moment of every run. -/
theorem fares_follow (settings : Settings) (origin : Time.Stamp) (happenings : List Happening) :
    Fares ((Chronicle.fresh settings origin).follow happenings).record
        ((Chronicle.fresh settings origin).causes happenings)
        ((Chronicle.fresh settings origin).follow happenings).system ∧
      ((Chronicle.fresh settings origin).follow happenings).system.Orderly := by
  have begun : Fares (Chronicle.fresh settings origin).record []
      (Chronicle.fresh settings origin).system := ⟨rfl, ⟨rfl, rfl⟩, rfl⟩
  exact begun.follow (orderly_fresh settings origin) happenings

end Happenings

end VirtualNode.Controller
