import VirtualNode.Proofs.Ending.Stages
import VirtualNode.Proofs.Interleaving.Laws
import VirtualNode.Proofs.Nodes.History

/-!
# How readiness is shown

The readiness of the node is shown in three places: on the node itself, by a gauge and in the
journal.  A beat sets the node every time, the other two only if readiness has changed, and all
other activities leave them alone.  Whenever nobody is at the desk the three agree (`shown_follow`):
the journal tells changes that alternate, beginning with ready, the last of them is the readiness of
the node, and so is the gauge until the node is removed.
-/

set_option autoImplicit false

namespace VirtualNode.Controller

open Contract (abides_bind abides_change abides_desk abides_mono)
open Dialogue (within_update)

/-! ## Changes that alternate -/

/-- Changes of readiness that alternate, beginning with ready. -/
def alternation (n : Nat) : List Bool := (List.range n).map fun k => k % 2 == 0

/-- An alternation has as many readings as it is long. -/
@[simp] theorem length_alternation (n : Nat) : (alternation n).length = n := by
  simp [alternation]

/-- A longer alternation ends with one more reading, the opposite of the one before. -/
theorem alternation_succ (n : Nat) :
    alternation (n + 1) = alternation n ++ [n % 2 == 0] := by
  simp [alternation, List.range_succ]

/-- A number that is not odd is even. -/
theorem not_odd_eq_even (n : Nat) : (!(n % 2 == 1)) = (n % 2 == 0) := by
  rcases Nat.mod_two_eq_zero_or_one n with even | odd
  · simp [even]
  · simp [odd]

/-- After an even number comes an odd one. -/
theorem odd_succ_eq_even (n : Nat) : ((n + 1) % 2 == 1) = (n % 2 == 0) := by
  rcases Nat.mod_two_eq_zero_or_one n with even | odd
  · simp [Nat.add_mod, even]
  · simp [Nat.add_mod, odd]

example : alternation 3 = [true, false, true] := by decide

/-- Whether the removal of the node has been answered. -/
def Removed (record : List Moment) : Prop := ∃ moment ∈ record, moment.question = .deleteNode

/-- A node that was removed stays so. -/
theorem Removed.append {record : List Moment} (removed : Removed record) (later : List Moment) :
    Removed (record ++ later) := by
  obtain ⟨moment, mem, is⟩ := removed
  exact ⟨moment, List.mem_append_left _ mem, is⟩

/-! ## Setting readiness -/

/-- Readiness is set: the node is marked, and a change is told and measured. -/
structure Desk.Turns (ready : Bool) (d e : Desk) : Prop where
  node : ∃ message, e.node = (d.node.mark ready message d.now).1
  readings : e.readings = d.readings ++ if d.node.isReady = ready then [] else [ready]
  nodeReady : e.metrics.nodeReady =
    if d.node.isReady = ready then d.metrics.nodeReady else ready

/-- The readiness that a desk gives to its node after a probe. -/
def Desk.verdictOn (d : Desk) (probed : Bool) : Bool :=
  probed && d.isFresh d.settings.baseHeartbeatTimeout

/-- A node is ready if it was probed and the base is alive. -/
theorem readiness_fst (probed alive : Bool) : (readiness probed alive).1 = (probed && alive) := by
  cases probed <;> cases alive <;> rfl

/-- The panel turns to the verdict on the probe. -/
theorem Desk.turns_setReadiness (d : Desk) (probed : Bool) :
    d.Turns (d.verdictOn probed) (d.setReadiness probed) := by
  unfold setReadiness verdictOn
  rw [← readiness_fst]
  generalize readiness probed (d.isFresh d.settings.baseHeartbeatTimeout) = outcome
  obtain ⟨ready, reason⟩ := outcome
  obtain ⟨message, marked⟩ : ∃ message, (if ready then d.node.markReady d.now
      else d.node.markNotReady reason d.now) = d.node.mark ready message d.now := by
    cases ready with
    | true => exact ⟨_, rfl⟩
    | false => exact ⟨_, rfl⟩
  dsimp only
  rw [marked]
  have flips : (d.node.mark ready message d.now).2 = (d.node.isReady != ready) := rfl
  by_cases same : d.node.isReady = ready
  · rw [flips, if_neg (by simp [same])]
    refine ⟨⟨message, rfl⟩, ?_, (if_pos same).symm⟩
    rw [if_pos same, List.append_nil]
  · rw [flips, if_pos (by simpa using same)]
    refine ⟨⟨message, rfl⟩, ?_, (if_neg same).symm⟩
    rw [if_neg same]
    exact d.toInbox.readings_tell (.readinessChanged ready reason)

/-! ## The law -/

namespace Affairs

/-- The node, the gauge and the journal agree on readiness. -/
structure Shown (i : Affairs) : Prop where
  readings : i.desk.readings = alternation i.desk.readings.length
  ready : i.desk.node.isReady = (i.desk.readings.length % 2 == 1)
  gauge : i.desk.metrics.nodeReady = i.desk.node.isReady ∨ Removed i.record

variable {i : Affairs} {d : Desk}

/-- What is shown stays so while the panel is left alone. -/
theorem Shown.withDesk (shown : i.Shown) (panel : d.panel = i.desk.panel) :
    (i.withDesk d).Shown := by
  have readings : d.readings = i.desk.readings := congrArg Panel.readings panel
  have node : d.node = i.desk.node := congrArg Panel.node panel
  have nodeReady : d.metrics.nodeReady = i.desk.metrics.nodeReady := congrArg Panel.nodeReady panel
  obtain ⟨alternates, ready, gauge⟩ := shown
  constructor
  · rwa [desk_withDesk, readings]
  · rwa [desk_withDesk, readings, node]
  · rwa [desk_withDesk, record_withDesk, node, nodeReady]

/-- What is shown stays so when a call is answered. -/
theorem Shown.note (shown : i.Shown) (moment : Moment) : (i.note moment).Shown :=
  ⟨shown.readings, shown.ready, shown.gauge.imp_right fun removed => removed.append [moment]⟩

/-- Once the node is removed the gauge may say what it likes. -/
theorem Shown.deleted (shown : i.Shown) (answer : Call.deleteNode.Answer) (asked : Desk)
    (readings : d.readings = i.desk.readings) (node : d.node = i.desk.node) :
    ((i.note ⟨⟨.deleteNode, answer⟩, asked⟩).withDesk d).Shown := by
  obtain ⟨alternates, ready, -⟩ := shown
  constructor
  · rwa [desk_withDesk, readings]
  · rwa [desk_withDesk, readings, node]
  · exact .inr ⟨_, List.mem_append_right _ (List.mem_singleton_self _), rfl⟩

/-- A change is told just if the readiness of the node changes. -/
theorem Shown.turns (shown : i.Shown) {ready : Bool} (turns : i.desk.Turns ready d) :
    (i.withDesk d).Shown := by
  obtain ⟨⟨message, node⟩, readings, nodeReady⟩ := turns
  have is : d.node.isReady = ready := by rw [node, Kube.Node.isReady_mark]
  by_cases same : i.desk.node.isReady = ready
  · rw [if_pos same, List.append_nil] at readings
    rw [if_pos same] at nodeReady
    obtain ⟨alternates, before, gauge⟩ := shown
    constructor
    · rwa [desk_withDesk, readings]
    · rw [desk_withDesk, readings, is, ← same, before]
    · rwa [desk_withDesk, record_withDesk, is, nodeReady, ← same]
  · rw [if_neg same] at readings nodeReady
    -- what was told last is the readiness before, so the other one is next in the alternation
    have next : ready = (i.desk.readings.length % 2 == 0) := by
      rw [← not_odd_eq_even, ← shown.ready]
      exact Bool.eq_not_of_ne (Ne.symm same)
    constructor
    · rw [desk_withDesk, readings, List.length_append, List.length_singleton, alternation_succ,
        ← shown.readings, ← next]
    · rw [desk_withDesk, readings, is, List.length_append, List.length_singleton,
        odd_succ_eq_even, next]
    · exact .inl (by rw [desk_withDesk, is, nodeReady])

end Affairs

/-! ## Everybody keeps the law -/

/-- Everybody keeps the three places in agreement. -/
abbrev panelContract : Contract :=
  lawContract Affairs.Shown fun i => i.desk.node.isReady = false

section

variable {strand : Strand} {i j : Affairs}

/-- A task that shows nothing keeps the law. -/
theorem abides_unshown {α : Type} {task : Activity α} {Q : Call → Prop}
    (within : task.Within (fun d e => e.panel = d.panel) Q j.desk) (shown : j.Shown) :
    panelContract.Abides strand task i j fun _ _ j => j.Shown :=
  abides_law within shown (fun same kept => kept.withDesk same) fun _ kept => kept.note _

/-- What leaves the stance alone leaves the panel alone. -/
theorem unshown_of_stance {α : Type} {task : Activity α} {Q : Call → Prop} {d : Desk}
    (within : task.Within Desk.SameStance Q d) :
    task.Within (fun d e => e.panel = d.panel) Q d :=
  Dialogue.within_mono within (fun _ _ same => congrArg Stance.panel same) fun _ => id

/-- To show the node keeps what is shown in line with the readings. -/
theorem refreshNode_shows (probed : Bool) (shown : j.Shown) :
    panelContract.Abides strand (refreshNode probed) i j fun _ _ j => j.Shown := by
  have turned := shown.turns (j.desk.turns_setReadiness probed)
  refine abides_bind.2 (abides_change.2 (abides_bind.2 (abides_desk.2 ?_)))
  refine ⟨trivial, turned, fun k _ shown answer => ?_⟩
  simp only [Dialogue.bind_done]
  split
  · exact (shown.note _).withDesk rfl
  · exact (shown.note _).withDesk rfl

/-- A probe that failed leaves the panel alone. -/
theorem Desk.panel_probeFailed (d : Desk) (e : DeliveryFault) :
    (d.probeFailed e).panel = d.panel := by
  unfold probeFailed
  dsimp only
  split
  · rfl
  · rfl

/-- A listing that failed leaves the panel alone. -/
theorem Desk.panel_listingFailed (d : Desk) (e : Fault) :
    (d.listingFailed e).panel = d.panel := by
  unfold listingFailed
  dsimp only
  split
  · rfl
  · rfl

/-- A beat keeps what is shown in line with the readings. -/
theorem beat_shows (shown : i.Shown) :
    panelContract.Abides (.loop .heartbeat) beat i i fun _ _ j => j.Shown := by
  refine ⟨trivial, shown, fun k _ shown outcome => ?_⟩
  simp only [Dialogue.bind_done]
  refine abides_bind.2 (abides_change.2 ?_)
  cases outcome with
  | ok _ =>
    refine abides_bind.2 (abides_change.2 ?_)
    exact refreshNode_shows true ((shown.note _).withDesk rfl)
  | error fault =>
    refine abides_bind.2 (abides_change.2 (abides_bind.2 (abides_desk.2 ?_)))
    let moment : Moment :=
      ⟨⟨.probe (.ofNode i.desk.settings.nodeId i.desk.now), .error fault⟩, i.desk⟩
    let failed := (k.desk.noteTransport (.error fault)).probeFailed fault
    have noted : ((k.note moment).withDesk failed).Shown :=
      (shown.note moment).withDesk ((k.desk.noteTransport (.error fault)).panel_probeFailed fault)
    split
    · exact noted
    · exact refreshNode_shows false noted

/-- A pass leaves the panel alone. -/
theorem reconcile_unshown (d : Desk) :
    reconcile.Within (fun d e => e.panel = d.panel) (fun _ => True) d := by
  have anyhow {α : Type} {task : Activity α} {Q : Call → Prop} {d : Desk}
      (within : task.Within Desk.SameStance Q d) :
      task.Within (fun d e => e.panel = d.panel) (fun _ => True) d :=
    Dialogue.within_mono (unshown_of_stance within) (fun _ _ => id) fun _ _ => trivial
  refine Dialogue.within_state_bind.2 fun d => ?_
  refine Dialogue.within_bind (anyhow ensureSubscribed_same_stance) fun _ d => ?_
  refine Dialogue.within_request_bind.2 ⟨trivial, fun answer d => ?_⟩
  refine Dialogue.within_state_bind.2 fun d => ?_
  dsimp only
  split
  · exact within_update.2 fun d => d.panel_listingFailed _
  · refine Dialogue.within_update_bind.2 fun d => ⟨rfl, ?_⟩
    refine Dialogue.within_bind (anyhow (followListing_detached _)) fun _ d => ?_
    exact within_update.2 fun _ => rfl

/-- To give a run up leaves the panel alone. -/
theorem abandon_unshown (fault : Fault) (d : Desk) :
    (abandon fault).Within (fun d e => e.panel = d.panel) (fun _ => True) d := by
  refine Dialogue.within_update_bind.2 fun d => ⟨rfl, ?_⟩
  refine Dialogue.within_request_bind.2 ⟨trivial, fun _ d => ?_⟩
  exact within_update.2 fun d => d.panel_log rfl

/-- The node as it is registered is not ready, as the one before it was not. -/
theorem enlist_shows (shown : i.Shown) (unready : i.desk.node.isReady = false) :
    panelContract.Abides .life enlist i i fun _ _ j => j.Shown := by
  -- the node is replaced without a word, which is right as neither of the two is ready
  let begun := i.desk.log (.started version i.desk.settings.broker)
  have made : i.desk.settings.firstNode.isReady = false := rfl
  have untold : begun.panel = i.desk.panel := i.desk.panel_log rfl
  have noted := shown.withDesk untold
  have first : (i.withDesk { begun with node := i.desk.settings.firstNode }).Shown := by
    have ready : begun.node.isReady = i.desk.settings.firstNode.isReady := unready.trans made.symm
    refine ⟨noted.readings, ready.symm.trans noted.ready, noted.gauge.imp_left fun same => ?_⟩
    exact same.trans ready
  refine ⟨trivial, first, fun k _ shown answer => ?_⟩
  simp only [Dialogue.bind_done]
  split
  · refine abides_bind.2 (abides_mono (abides_unshown (abandon_unshown _ _) (shown.note _)) ?_)
    exact fun _ _ _ shown => shown
  · refine abides_bind.2 (abides_change.2 (abides_bind.2 (abides_mono (abides_unshown
      (unshown_of_stance ensureSubscribed_same_stance) ?_) fun _ _ _ shown => shown)))
    exact (shown.note _).withDesk (k.desk.panel_log rfl)

/-- The removal shows that the node is not ready. -/
theorem retire_shows (shown : i.Shown) :
    panelContract.Abides .life retire i i fun _ _ j => j.Shown := by
  refine ⟨trivial, shown, fun k _ shown _ => ?_⟩
  refine ⟨trivial, shown.note _, fun k _ shown _ => ?_⟩
  refine ⟨trivial, shown.note _, fun k _ shown answer => ?_⟩
  have told : readinessTold? (.nodeRemoved (succeeded answer)) = none := rfl
  have readings := congrArg Panel.readings (k.desk.panel_log told)
  refine ⟨trivial, shown.deleted answer _ readings rfl, fun k _ shown _ => ?_⟩
  exact (shown.note _).withDesk (k.desk.panel_log rfl)

/-- Reports are no readings. -/
theorem readings_takeReports (i : Inbox) (reports : List Biz.Report) :
    (i.takeReports reports).1.readings = i.readings := by
  induction reports generalizing i with
  | nil => rfl
  | cons report reports ih =>
    have one : (i.takeReport report).1.readings = i.readings := by
      unfold Inbox.takeReport
      split
      · rfl
      · refine (Inbox.readings_tell _ _).trans ?_
        exact List.append_nil _
    exact (ih _).trans one

/-- Messages are no readings. -/
theorem readings_receive (i : Inbox) (purpose : Topic.Purpose) (topic : String)
    (payload : ByteArray) : (i.receive purpose topic payload).readings = i.readings := by
  cases purpose with
  | bizState =>
    simp only [Inbox.receive, Inbox.receiveReports]
    cases Biz.Report.decode payload with
    | error e => exact (Inbox.readings_tell _ _).trans (List.append_nil _)
    | ok decoded => exact readings_takeReports _ decoded
  | _ => rfl

/-- Everybody keeps the contract about the panel. -/
theorem panelContract_kept : panelContract.Kept := by
  refine lawContract_kept ?_ ?_ (fun _ shown => (shown.note _).withDesk rfl) (fun _ => enlist_shows)
    (fun _ => beat_shows) (fun _ shown => abides_unshown (reconcile_unshown _) shown)
    (fun _ shown => abides_unshown (unshown_of_stance pushStatuses_detached) (shown.withDesk rfl))
    (fun _ shown => abides_unshown (unshown_of_stance renewSubscriptions_detached) shown)
    (fun _ => retire_shows)
  · rintro calls i j came shown
    cases came with
    | connect => exact ⟨shown.readings, shown.ready, shown.gauge⟩
    | elapse ms => exact shown.withDesk rfl
    | cancel => exact shown.withDesk rfl
    | outcome => exact shown.withDesk rfl
    | message purpose topic payload =>
      have readings := readings_receive i.desk.toInbox purpose topic payload
      have nodeReady := nodeReady_receive i.desk.toInbox purpose topic payload
      refine shown.withDesk ?_
      simp only [Desk.panel, readings, nodeReady]
  · rintro calls i j came unready
    cases came <;> exact unready

end

/-- At every moment of every run the node, the gauge and the journal agree on readiness. -/
theorem shown_follow (settings : Settings) (origin : Time.Stamp) (happenings : List Happening) :
    ((Chronicle.fresh settings origin).follow happenings).affairs.Shown :=
  (panelContract_kept.follow settings origin ⟨rfl, rfl, .inl rfl⟩ rfl happenings).law

end VirtualNode.Controller
