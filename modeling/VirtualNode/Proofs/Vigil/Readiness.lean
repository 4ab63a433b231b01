import VirtualNode.Proofs.Interleaving.Habits
import VirtualNode.Proofs.Interleaving.Sessions
import VirtualNode.Proofs.Vigil.Panel
import VirtualNode.Proofs.Vigil.Thresholds

/-!
# Readiness follows liveness

The node counts as ready as long as probes are acknowledged and the base has been heard of lately.
When that was is told by what has happened alone: by the messages of the base and by the time that
has passed since (`HeardWithin`), for no strand touches the clock or the last sign of life
(`Desk.SamePulse`).  So every beat that does not end the run shows the node with the readiness that
it deserves, and by then the node, the gauge and the journal agree (`readiness_follows_liveness`).
-/

set_option autoImplicit false

namespace VirtualNode.Controller

open Dialogue (within_request_bind within_state_bind within_update_bind)

/-! ## Signs of life -/

namespace Happening

/-- The time that passes with a happening. -/
def span : Happening → Nat
  | .stimulus (.elapse ms) => ms
  | _ => 0

/-- Whether the base lets know that it is alive: with a heartbeat or with readable reports. -/
def isSignOfLife : Happening → Bool
  | .stimulus (.message .baseHeart _ _) => true
  | .stimulus (.message .bizState _ payload) => (Biz.Report.decode payload).isOk
  | _ => false

end Happening

/-- The time that passes with happenings. -/
def elapsed : List Happening → Nat
  | [] => 0
  | h :: late => h.span + elapsed late

/-- The time that one more happening takes is added. -/
theorem elapsed_concat (happenings : List Happening) (h : Happening) :
    elapsed (happenings ++ [h]) = elapsed happenings + h.span := by
  induction happenings with
  | nil => simp [elapsed]
  | cons first late ih => simp only [List.cons_append, elapsed, ih, Nat.add_assoc]

/-- The base was heard of, and since then no more than `limit` milliseconds have passed. -/
def HeardWithin (limit : Nat) (happenings : List Happening) : Prop :=
  ∃ early sign late, happenings = early ++ sign :: late ∧ sign.isSignOfLife = true ∧
    elapsed late ≤ limit

/-- Before anything has happened nothing was heard. -/
theorem not_heardWithin_nil (limit : Nat) : ¬ HeardWithin limit [] := by
  rintro ⟨early, sign, late, split, -⟩
  simp at split

/-- The base was heard within a limit if it is heard now, or was within what the limit leaves. -/
theorem heardWithin_concat {limit : Nat} {happenings : List Happening} {h : Happening} :
    HeardWithin limit (happenings ++ [h]) ↔
      h.isSignOfLife = true ∨ h.span ≤ limit ∧ HeardWithin (limit - h.span) happenings := by
  constructor
  · rintro ⟨early, sign, late, split, alive, soon⟩
    rcases List.eq_nil_or_concat late with rfl | ⟨late, last, rfl⟩
    · obtain ⟨-, is⟩ := List.append_inj' split rfl
      cases is
      exact .inl alive
    · -- the sign came before the last happening, which takes its part of the time
      rw [List.concat_eq_append, ← List.cons_append, ← List.append_assoc] at split
      obtain ⟨rfl, is⟩ := List.append_inj' split rfl
      cases is
      rw [List.concat_eq_append, elapsed_concat] at soon
      exact .inr ⟨by omega, early, sign, late, rfl, alive, by omega⟩
  · rintro (alive | ⟨short, early, sign, late, rfl, alive, soon⟩)
    · exact ⟨happenings, h, [], rfl, alive, Nat.zero_le _⟩
    · refine ⟨early, sign, late ++ [h], by simp, alive, ?_⟩
      rw [elapsed_concat]
      omega

/-! ## When the base was last heard of -/

/-- Reports by themselves are no sign of life. -/
theorem pulse_takeReports (i : Inbox) (reports : List Biz.Report) :
    (i.takeReports reports).1.clock = i.clock ∧
      (i.takeReports reports).1.lastAlive = i.lastAlive := by
  induction reports generalizing i with
  | nil => exact ⟨rfl, rfl⟩
  | cons report reports ih =>
    have one : (i.takeReport report).1.clock = i.clock ∧
        (i.takeReport report).1.lastAlive = i.lastAlive := by
      unfold Inbox.takeReport
      split
      · exact ⟨rfl, rfl⟩
      · exact ⟨rfl, rfl⟩
    exact ⟨(ih _).1.trans one.1, (ih _).2.trans one.2⟩

/-- A message tells of the base just if it is a sign of life. -/
theorem pulse_receive (i : Inbox) (purpose : Topic.Purpose) (topic : String)
    (payload : ByteArray) :
    let alive := (Happening.stimulus (.message purpose topic payload)).isSignOfLife
    let j := i.receive purpose topic payload
    j.clock = i.clock ∧ (alive = true → j.lastAlive = some i.clock) ∧
      (alive = false → j.lastAlive = i.lastAlive) := by
  cases purpose with
  | bizState =>
    unfold Inbox.receive Inbox.receiveReports Happening.isSignOfLife
    dsimp only
    split
    · exact ⟨rfl, by simp [*, Except.isOk, Except.toBool], fun _ => rfl⟩
    · rename_i reports read
      let counted : Inbox := { i with metrics := i.metrics.addBizMessages reports.length }
      obtain ⟨clock, lastAlive⟩ := pulse_takeReports counted.touch reports
      exact ⟨clock, fun _ => lastAlive, by simp [read, Except.isOk, Except.toBool]⟩
  | baseHeart => exact ⟨rfl, fun _ => rfl, nofun⟩
  | _ => exact ⟨rfl, nofun, fun _ => rfl⟩

/-- The desk tells rightly when the base was last heard of. -/
structure Hears (happenings : List Happening) (d : Desk) : Prop where
  fresh : ∀ limit, d.isFresh limit = true ↔ HeardWithin limit happenings
  past : ∀ seen, d.lastAlive = some seen → seen ≤ d.clock

section Hears

variable {happenings : List Happening} {d e : Desk} {h : Happening}

/-- What was heard is what the desk takes for it, while the pulse is the same. -/
theorem Hears.same (hears : Hears happenings d) (same : d.SamePulse e) : Hears happenings e := by
  have clock : e.clock = d.clock := congrArg Pulse.clock same
  have lastAlive : e.lastAlive = d.lastAlive := congrArg Pulse.lastAlive same
  have isFresh (limit : Nat) : e.isFresh limit = d.isFresh limit := by
    simp only [Inbox.isFresh, clock, lastAlive]
  constructor
  · simpa only [isFresh] using hears.fresh
  · simpa only [clock, lastAlive] using hears.past

/-- A sign of life is heard at its time. -/
theorem Hears.sign (alive : h.isSignOfLife = true) (heard : e.lastAlive = some e.clock) :
    Hears (happenings ++ [h]) e := by
  refine ⟨fun limit => iff_of_true ?_ (heardWithin_concat.2 (.inl alive)), fun seen is => ?_⟩
  · simp [Inbox.isFresh, heard]
  · rw [heard] at is
    exact (Option.some.inj is).ge

/-- Without a sign of life the last one stays, and time goes on. -/
theorem Hears.later (hears : Hears happenings d) (unheard : h.isSignOfLife = false)
    (clock : e.clock = d.clock + h.span) (lastAlive : e.lastAlive = d.lastAlive) :
    Hears (happenings ++ [h]) e := by
  refine ⟨fun limit => ?_, fun seen is => ?_⟩
  · rw [heardWithin_concat, unheard, ← hears.fresh]
    unfold Inbox.isFresh
    rw [lastAlive, clock]
    cases known : d.lastAlive with
    | none => simp
    | some seen =>
      -- differences of readings add up only because nothing was heard in the future
      have past := hears.past seen known
      simp only [decide_eq_true_eq, Bool.false_eq_true, false_or]
      omega
  · have past := hears.past seen (lastAlive ▸ is)
    omega

/-- What comes from outside is heard. -/
theorem Hears.touch (hears : Hears happenings d) (h : Happening) :
    Hears (happenings ++ [h]) (h.touch d) := by
  cases h with
  | start => exact hears.later rfl rfl rfl
  | stimulus stimulus =>
    cases stimulus with
    | message purpose topic payload =>
      obtain ⟨clock, heard, unheard⟩ := pulse_receive d.toInbox purpose topic payload
      cases alive : (Happening.stimulus (.message purpose topic payload)).isSignOfLife with
      | true => exact .sign alive ((heard alive).trans (congrArg some clock.symm))
      | false => exact hears.later alive clock (unheard alive)
    | _ => exact hears.later rfl rfl rfl

end Hears

/-! ## Beats -/

/-- A panel that has turned shows the verdict on the node. -/
theorem Desk.Turns.shows {d e : Desk} {ready : Bool} (turns : d.Turns ready e) :
    e.node.Shows ready := by
  obtain ⟨message, node⟩ := turns.node
  rw [node]
  exact d.node.shows_mark ready message d.now

/-- Work that shows the node and ends with the answer. -/
def Showing (work : Pending Unit) : Prop :=
  (∃ node, work.call = .reportNode node) ∧
    ∀ answer d, ∃ e, (work.next answer).advance .silent d () = (e, (), .finished ())

/-- What comes of the answer to a probe: the node is shown with the readiness that the desk gives to
it, or the run ends. -/
inductive Heeds (d : Desk) (probed : Bool) (verdict : Option Fault) :
    Desk × Unit × Dialogue.Standing Call Call.Answer Desk Unit → Prop
  | shows {e : Desk} {next} (readiness : e.node.Shows (d.verdictOn probed))
    (showing : Showing ⟨.reportNode e.node, next⟩) :
    Heeds d probed verdict (e, (), .waiting (.reportNode e.node) next)
  | stops {e : Desk} (lost : verdict ≠ none) : Heeds d probed verdict (e, (), .finished ())

/-- The work of a beat: a probe is on its way, or the node is being shown. -/
inductive Beating : Pending Unit → Prop
  | probing {content : Biz.Probe} {next : Except DeliveryFault Unit → Activity Unit}
    (heeds : ∀ outcome d, Heeds d outcome.isOk (d.verdict? (.probe content) outcome)
      ((next outcome).advance .silent d ())) :
    Beating ⟨.probe content, next⟩
  | showing {work : Pending Unit} (showing : Showing work) : Beating work

/-- A beat whose probe decides nothing shows the node. -/
theorem refreshNode_heeds (probed : Bool) (verdict : Option Fault) (d : Desk) :
    Heeds d probed verdict ((refreshNode probed).advance .silent d ()) := by
  refine .shows (d.turns_setReadiness probed).shows ⟨⟨_, rfl⟩, fun answer e => ?_⟩
  simp only [Dialogue.bind_done]
  split
  · exact ⟨_, rfl⟩
  · exact ⟨_, rfl⟩

/-- The desk gives the same readiness to its node as long as nothing is heard and no time passes. -/
theorem Desk.verdictOn_same {d e : Desk} (same : d.SamePulse e) (probed : Bool) :
    e.verdictOn probed = d.verdictOn probed := by
  have settings : e.settings = d.settings := congrArg Pulse.settings same
  have clock : e.clock = d.clock := congrArg Pulse.clock same
  have lastAlive : e.lastAlive = d.lastAlive := congrArg Pulse.lastAlive same
  simp only [verdictOn, Inbox.isFresh, settings, clock, lastAlive]

/-- A probe that failed leaves the pulse alone. -/
theorem Desk.samePulse_probeFailed (d : Desk) (e : DeliveryFault) : d.SamePulse (d.probeFailed e) :=
  congrArg Vigil.pulse (d.vigil_probeFailed e)

/-- What comes of the answer to a probe is the same as long as nothing is heard and no time
passes. -/
theorem Heeds.same {d e : Desk} {probed : Bool} {verdict : Option Fault}
    {standing : Desk × Unit × Dialogue.Standing Call Call.Answer Desk Unit}
    (heeds : Heeds e probed verdict standing) (same : d.SamePulse e) :
    Heeds d probed verdict standing := by
  cases heeds with
  | shows readiness showing => exact .shows (Desk.verdictOn_same same probed ▸ readiness) showing
  | stops lost => exact .stops lost

/-- A failed probe after which too many have failed in a row ends the run. -/
theorem Desk.verdict?_of_lost {d : Desk} {fault : DeliveryFault} (content : Biz.Probe)
    (lost : (d.probeFailed fault).settings.maxHeartbeatFailures ≤
      (d.probeFailed fault).missedProbes) :
    d.verdict? (.probe content) (.error fault) ≠ none := by
  have settings : (d.probeFailed fault).settings = d.settings :=
    congrArg Pulse.settings (d.samePulse_probeFailed fault)
  have missed : (d.probeFailed fault).missedProbes = d.missedProbes + 1 :=
    congrArg Vigil.missedProbes (d.vigil_probeFailed fault)
  rw [settings, missed] at lost
  simp [verdict?, lost]

/-- A beat waits for the answer to a probe, and heeds it. -/
theorem beat_beating : GoesWithin (fun _ _ => True) Beating beat := by
  intro asked
  let content := Biz.Probe.ofNode asked.settings.nodeId asked.now
  refine ⟨trivial, @Beating.probing content _ fun outcome d => ?_⟩
  cases outcome with
  | ok _ =>
    have same : d.SamePulse (d.noteTransport (.ok ())).probeSucceeded := rfl
    exact (refreshNode_heeds true none _).same same
  | error fault =>
    let e := (d.noteTransport (.error fault)).probeFailed fault
    have same : d.SamePulse e := (d.noteTransport (.error fault)).samePulse_probeFailed fault
    show Heeds d false (d.verdict? (.probe content) (.error fault)) (Dialogue.advance .silent
      (if e.settings.maxHeartbeatFailures ≤ e.missedProbes then _ else _) e ())
    split
    · rename_i lost
      exact .stops (Desk.verdict?_of_lost (d := d.noteTransport (.error fault)) content lost)
    · exact (refreshNode_heeds false _ e).same same

/-- A beat goes on as a beat. -/
theorem Beating.goes {work : Pending Unit} (beating : Beating work) (answer : work.call.Answer) :
    GoesWithin (fun _ _ => True) Beating (work.next answer) := by
  intro d
  cases beating with
  | probing heeds =>
    have heeded := heeds answer d
    generalize Dialogue.advance _ _ _ _ = standing at heeded
    cases heeded with
    | shows readiness showing => exact ⟨trivial, .showing showing⟩
    | stops lost => trivial
  | showing showing =>
    obtain ⟨e, ends⟩ := showing.2 answer d
    rw [ends]
    trivial

/-! ## No strand touches what tells whether the base is alive -/

/-- A beat leaves the pulse alone. -/
theorem beat_same_pulse {d : Desk} : beat.Within Desk.SamePulse (fun _ => True) d := by
  refine within_state_bind.2 fun d => within_request_bind.2 ⟨trivial, fun outcome d => ?_⟩
  refine within_update_bind.2 fun d => ⟨rfl, ?_⟩
  cases outcome with
  | ok _ =>
    refine within_update_bind.2 fun d => ⟨rfl, ?_⟩
    exact samePulse_of_watchless (refreshNode_watchless true d.probeSucceeded)
  | error fault =>
    refine within_update_bind.2 fun d => ⟨d.samePulse_probeFailed fault, ?_⟩
    refine within_state_bind.2 fun d => ?_
    split
    · trivial
    · exact samePulse_of_watchless (refreshNode_watchless false d)

/-- Everybody keeps off what tells whether the base is alive, and the heartbeat loop does nothing
but beats. -/
def beatHabits : Habits where
  enlisting := Waits Desk.SamePulse
  loop name work := Waits Desk.SamePulse work ∧ (name = .heartbeat → Beating work)
  retiring := Waits Desk.SamePulse

/-- An activity that leaves the pulse alone does so whenever it waits. -/
theorem goesWithin_same_pulse {α : Type} {task : Activity α}
    (within : ∀ d, task.Within Desk.SamePulse (fun _ => True) d) :
    GoesWithin Desk.SamePulse (Waits Desk.SamePulse) task :=
  goesWithin_of_within (fun _ => rfl) (fun first second => second.trans first) within

/-- A task of the heartbeat that beats sticks to the habits of its loop. -/
theorem goesWithin_beats {task : Activity Unit}
    (within : ∀ d, task.Within Desk.SamePulse (fun _ => True) d)
    (beats : GoesWithin (fun _ _ => True) Beating task) :
    GoesWithin Desk.SamePulse (beatHabits.loop .heartbeat) task :=
  ((goesWithin_same_pulse within).and beats).mono fun _ known => ⟨known.1, fun _ => known.2⟩

/-- A task of another loop sticks to its habits if it leaves the pulse alone. -/
theorem goesWithin_other {name : LoopName} {task : Activity Unit} (other : name ≠ .heartbeat)
    (within : ∀ d, task.Within Desk.SamePulse (fun _ => True) d) :
    GoesWithin Desk.SamePulse (beatHabits.loop name) task :=
  (goesWithin_same_pulse within).mono fun _ waits => ⟨waits, fun is => absurd is other⟩

/-- All loops stick to the habits about beats. -/
theorem beatHabits_kept : beatHabits.Kept Desk.SamePulse where
  refl _ := rfl
  trans first second := second.trans first
  enlist := goesWithin_same_pulse fun _ => samePulse_of_watchless enlist_watchless
  enlisting waits answer := goesWithin_same_pulse (waits answer)
  beat := goesWithin_beats (fun _ => beat_same_pulse) beat_beating
  reconcile := goesWithin_other nofun fun _ => reconcile_same_pulse
  push := goesWithin_other nofun fun _ => samePulse_of_detached pushStatuses_detached
  renew := goesWithin_other nofun fun _ => samePulse_of_detached renewSubscriptions_detached
  watch := goesWithin_other nofun fun _ => samePulse_of_detached watchSessions_detached
  loop := by
    rintro name work ⟨waits, beats⟩ answer
    by_cases is : name = .heartbeat
    · subst is
      exact goesWithin_beats (waits answer) ((beats rfl).goes answer)
    · exact goesWithin_other is (waits answer)
  retire := goesWithin_same_pulse fun _ => samePulse_of_watchless retire_watchless
  retiring waits answer := goesWithin_same_pulse (waits answer)
  woken _ := rfl
  outcome _ := rfl

/-! ## Every beat -/

/-- Before the start nobody waits. -/
theorem habitual_fresh (settings : Settings) (origin : Time.Stamp) :
    (Chronicle.fresh settings origin).system.Habitual beatHabits := by
  refine ⟨nofun, fun {name work} busy => ?_, nofun⟩
  cases name <;> cases busy

/-- At every moment of every run the desk tells rightly when the base was last heard of. -/
theorem hears_follow (settings : Settings) (origin : Time.Stamp) (happenings : List Happening) :
    Hears happenings ((Chronicle.fresh settings origin).follow happenings).system.desk := by
  induction happenings using List.reverseRecOn with
  | nil => exact ⟨fun limit => iff_of_false nofun (not_heardWithin_nil limit), nofun⟩
  | append_singleton early h ih =>
    have habitual := beatHabits_kept.follow (habitual_fresh settings origin) early
    rw [Chronicle.follow_append]
    exact (ih.touch h).same (beatHabits_kept.meet habitual h).desk

/-- A beat that goes on after its probe shows the node with the readiness that the desk gives to
it. -/
theorem Chronicle.shows_after_probe {c : Chronicle} {content : Biz.Probe} {reply : Reply}
    (habitual : c.system.Habitual beatHabits)
    (waits : c.system.openCall? (.loop .heartbeat) = some (.probe content)) :
    let h : Happening := .stimulus (.answer (.loop .heartbeat) reply)
    let c' := c.step h
    c.cause? h = none →
      c'.system.openCall? (.loop .heartbeat) = some (.reportNode c'.system.desk.node) ∧
        c'.system.desk.node.Shows
          (c.system.desk.verdictOn (Except.isOk (reply (.probe content)))) := by
  intro h c' goes_on
  obtain ⟨work, busy, is⟩ := System.busy_of_openCall? waits
  obtain ⟨-, beats⟩ := habitual.loop busy
  have next : c'.system =
      (System.work .silent .heartbeat (work.next (reply work.call)) c.system ()).1 := by
    simp [c', h, Chronicle.step, System.meet, System.react, System.take, busy]
  have undecided : c.system.desk.verdict? (.probe content) (reply (.probe content)) = none := by
    simpa [h, Chronicle.cause?, waits] using goes_on
  cases beats rfl with
  | showing showing =>
    obtain ⟨⟨node, shown⟩, -⟩ := showing
    cases shown.symm.trans is
  | probing heeds =>
    cases is
    have heeded := heeds (reply (.probe content)) c.system.desk
    unfold System.work at next
    rw [next]
    generalize Dialogue.advance _ _ _ _ = standing at heeded
    cases heeded with
    | stops lost => exact absurd undecided lost
    | shows readiness showing => exact ⟨rfl, readiness⟩

/-- The node is not removed while it is served. -/
theorem Fares.not_removed {record : List Moment} {causes : List (Option Fault)} {s : System}
    (fares : Fares record causes s) (serves : s.stage = .serving ∨ s.stage = .joining) :
    ¬ Removed record := by
  rintro ⟨moment, mem, is⟩
  exact (fares.serves serves).1.1.before moment mem (mem_farewell.2 (.inr (.inr (.inl is))))

/-- Whenever a probe is answered and that does not end the run, the node is shown as ready exactly
if the probe was acknowledged and the base was heard of within the time that it counts as alive, and
as not ready else.  At every moment of every run the journal tells changes of readiness that
alternate, beginning with ready, the last of them is the readiness of the node, and so is the gauge
until the node is removed, which never happens while it is served. -/
theorem readiness_follows_liveness (settings : Settings) (origin : Time.Stamp)
    (happenings : List Happening) :
    let c := (Chronicle.fresh settings origin).follow happenings
    (∀ content reply, c.system.openCall? (.loop .heartbeat) = some (.probe content) →
      let h : Happening := .stimulus (.answer (.loop .heartbeat) reply)
      let c' := c.step h
      c.cause? h = none → ∃ ready : Bool,
        (ready = true ↔ Except.isOk (reply (.probe content)) = true ∧
          HeardWithin settings.baseHeartbeatTimeout happenings) ∧
        c'.system.openCall? (.loop .heartbeat) = some (.reportNode c'.system.desk.node) ∧
        c'.system.desk.node.Shows ready) ∧
    (Desk.fresh settings origin).metrics.nodeReady = false ∧
    (¬ Removed c.record → c.system.desk.metrics.nodeReady = c.system.desk.node.isReady) ∧
    (c.system.stage = .serving ∨ c.system.stage = .joining → ¬ Removed c.record) ∧
    c.system.desk.readings = alternation c.system.desk.readings.length ∧
    c.system.desk.node.isReady = (c.system.desk.readings.length % 2 == 1) := by
  intro c
  have shown : c.affairs.Shown := shown_follow settings origin happenings
  have hears : Hears happenings c.system.desk := hears_follow settings origin happenings
  have told : c.system.desk.settings = settings :=
    (tally_follow settings origin happenings).settings
  refine ⟨?_, rfl, shown.gauge.resolve_right, ?_, shown.readings, shown.ready⟩
  · intro content reply waits h c' goes_on
    have habitual := beatHabits_kept.follow (habitual_fresh settings origin) happenings
    refine ⟨_, ?_, Chronicle.shows_after_probe habitual waits goes_on⟩
    rw [Desk.verdictOn, Bool.and_eq_true, told, hears.fresh]
  · exact (fares_follow settings origin happenings).1.not_removed

/-- A run in which the base lets itself be heard and a probe is on its way. -/
def aliveRun : List Happening :=
  [.start, granted .life, granted .life, granted .life, granted .life, granted .life,
    .stimulus (.message .baseHeart "" .empty), .stimulus (.elapse 1), .stimulus .beat]

/-- The node of the base is shown as running. -/
theorem readiness_follows_liveness_alive :
    let c := (Chronicle.fresh { (default : Settings) with baseHeartbeatTimeout := 1 } default).follow
      aliveRun
    let c' := c.step (granted (.loop .heartbeat))
    ((∃ content, c.system.openCall? (.loop .heartbeat) = some (.probe content)) ∧
      c.cause? (granted (.loop .heartbeat)) = none ∧ HeardWithin 1 aliveRun) ∧
    c'.system.openCall? (.loop .heartbeat) = some (.reportNode c'.system.desk.node) ∧
      c'.system.desk.node.Shows true := by
  intro c c'
  have waits : c.system.openCall? (.loop .heartbeat) = some (.probe (.ofNode "" ⟨0, 1000000⟩)) := by
    decide
  have goes_on : c.cause? (granted (.loop .heartbeat)) = none := by decide
  have heard : HeardWithin 1 aliveRun :=
    ⟨[.start, granted .life, granted .life, granted .life, granted .life, granted .life],
      .stimulus (.message .baseHeart "" .empty), [.stimulus (.elapse 1), .stimulus .beat], rfl, rfl,
      Nat.le_refl 1⟩
  obtain ⟨shows, -⟩ := readiness_follows_liveness
    { (default : Settings) with baseHeartbeatTimeout := 1 } default aliveRun
  obtain ⟨ready, deserved, shown, readiness⟩ := shows _ _ waits goes_on
  obtain rfl : ready = true := deserved.2 ⟨rfl, heard⟩
  exact ⟨⟨⟨_, waits⟩, goes_on, heard⟩, shown, readiness⟩

end VirtualNode.Controller
