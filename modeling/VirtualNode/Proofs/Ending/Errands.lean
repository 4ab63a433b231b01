import VirtualNode.Controller.System
import VirtualNode.Proofs.Frames

/-!
# What loops ask for, and what they do not decide

Each loop has its own calls (`Call.Errand`), and how the run ends is decided only by failed probes
and failed listings.  Only a beat sets the readiness of the node, and only messages and the clock
tell whether the base is alive.  Here it is said of each activity that is neither a probe nor a
listing that it makes only calls of its loop and leaves alone what tells how the run ends, the
counts of failures, what readiness goes by and how it is shown (`Desk.stance`).  A beat shows the
readiness of the node besides (`refreshNode_vigilant`), and a pass may count a failed listing, but
does not touch what tells whether the base is alive (`reconcile_same_pulse`).
-/

set_option autoImplicit false

namespace VirtualNode.Controller

open Biz (Descriptor)
open Dialogue (within_bind within_mono within_request_bind within_state_bind within_update
  within_update_bind)
open Kube (Pod)

/-! ## Calls -/

namespace Call

/-- The calls of a loop. -/
def Errand : LoopName → Call → Prop
  | .heartbeat, probe _ | .heartbeat, reportNode _ => True
  | .reconcile, subscribe _ | .reconcile, noting | .reconcile, listPods
  | .reconcile, command _ _ _ | .reconcile, deletePod _ _ | .reconcile, reportPod _ _ _ => True
  | .renewal, turn | .renewal, subscribe _ | .renewal, noting => True
  | _, _ => False

/-- Whether the run may end because of the answer to a call. -/
def Decides : Call → Prop
  | probe _ | listPods => True
  | _ => False

/-- Whether a call publishes a command about a module. -/
def Orders : Call → Prop
  | command _ _ _ => True
  | _ => False

/-- The calls of a loop but those that decide how the run ends. -/
def Chore (name : LoopName) (call : Call) : Prop := call.Errand name ∧ ¬ call.Decides

/-- To subscribe is a chore of the loops that do so. -/
theorem Subscribes.chore {call : Call} (subscribes : call.Subscribes) {name : LoopName}
    (listens : name ≠ .heartbeat) : call.Chore name := by
  cases call with
  | subscribe purpose | noting =>
    cases name with
    | heartbeat => exact absurd rfl listens
    | reconcile | renewal => exact ⟨trivial, id⟩
  | _ => exact subscribes.elim

/-- To send commands is a chore of the pass. -/
theorem Orders.chore {call : Call} (orders : call.Orders) : call.Chore .reconcile := by
  cases call with
  | command verb pod target => exact ⟨trivial, id⟩
  | _ => exact orders.elim

/-- To write a status is a chore of the pass. -/
theorem WritesStatus.chore {call : Call} (writes : call.WritesStatus) : call.Chore .reconcile := by
  cases call with
  | reportPod space name status => exact ⟨trivial, id⟩
  | _ => exact writes.elim

end Call

/-! ## How the run ends -/

/-- What tells how the run ends. -/
structure Ending where
  completion : Completion
  cancelled : Bool
  stopping : Bool

/-! ## The readiness of the node -/

/-- What tells whether the base is alive. -/
structure Pulse where
  settings : Settings
  clock : Nat
  lastAlive : Option Nat

/-- What tells whether the base is alive, and how often in a row probes and listings have failed. -/
structure Vigil where
  pulse : Pulse
  missedProbes : Nat
  failedListings : Nat

/-- What is shown of the readiness of the node. -/
structure Panel where
  node : Kube.Node
  nodeReady : Bool
  /-- The changes of readiness of which the journal tells. -/
  readings : List Bool

/-- What beats go by and what they show, and what tells how the run ends. -/
structure Stance where
  vigil : Vigil
  panel : Panel
  ending : Ending

/-- The readiness that an event tells. -/
def readinessTold? : Watch.Event → Option Bool
  | .readinessChanged ready _ => some ready
  | _ => none

/-- The changes of readiness of which the journal tells. -/
def Inbox.readings (i : Inbox) : List Bool :=
  i.journal.toList.filterMap fun entry => readinessTold? entry.event

/-- An event is a reading of the node's readiness just if it tells about that. -/
theorem Inbox.readings_tell (i : Inbox) (event : Watch.Event) :
    (i.tell event).readings = i.readings ++ (readinessTold? event).toList := by
  simp only [readings, tell, Array.toList_push, List.filterMap_append]
  cases told : readinessTold? event <;> simp [told]

namespace Desk

def ending (d : Desk) : Ending := ⟨d.completion, d.cancelled, d.stopping⟩

def pulse (d : Desk) : Pulse := ⟨d.settings, d.clock, d.lastAlive⟩

def vigil (d : Desk) : Vigil := ⟨d.pulse, d.missedProbes, d.ledger.failedListings⟩

def panel (d : Desk) : Panel := ⟨d.node, d.metrics.nodeReady, d.readings⟩

def stance (d : Desk) : Stance := ⟨d.vigil, d.panel, d.ending⟩

/-- What tells how the run ends is not touched. -/
def SameEnding (d e : Desk) : Prop := e.ending = d.ending

/-- Neither what beats go by nor what they show is touched, nor how the run ends. -/
def SameStance (d e : Desk) : Prop := e.stance = d.stance

/-- At most what beats show is touched, and how the run ends. -/
def SameVigil (d e : Desk) : Prop := e.vigil = d.vigil

/-- What tells whether the base is alive is not touched. -/
def SamePulse (d e : Desk) : Prop := e.pulse = d.pulse

/-- Where the stance is the same, the counts of failures are. -/
theorem SameStance.vigil (d e : Desk) (same : SameStance d e) : SameVigil d e :=
  congrArg Stance.vigil same

/-- Where the stance is the same, the ending is. -/
theorem SameStance.ending (d e : Desk) (same : SameStance d e) : SameEnding d e :=
  congrArg Stance.ending same

/-- An event that does not tell about readiness leaves the panel as it was. -/
theorem panel_log (d : Desk) {event : Watch.Event} (other : readinessTold? event = none) :
    (d.log event).panel = d.panel := by
  have readings : (d.log event).readings = d.readings := by
    refine (d.toInbox.readings_tell event).trans ?_
    rw [other, Option.toList_none, List.append_nil]
  simp only [panel, readings]
  rfl

/-- An event that does not tell about readiness leaves the stance as it was. -/
theorem stance_log (d : Desk) {event : Watch.Event} (other : readinessTold? event = none) :
    (d.log event).stance = d.stance := by
  simp only [stance, panel_log d other]
  rfl

/-- The claims of pods are no part of the stance. -/
theorem stance_setClaims (d : Desk) (key : String) (held : List Descriptor) :
    (d.updateLedger (·.setClaims key held)).stance = d.stance := by
  unfold Ledger.setClaims
  cases held with
  | nil => rfl
  | cons module rest => rfl

/-- Setting readiness is a matter of what is shown. -/
theorem vigil_setReadiness (d : Desk) (probed : Bool) :
    (d.setReadiness probed).vigil = d.vigil ∧ (d.setReadiness probed).ending = d.ending := by
  unfold setReadiness
  generalize readiness probed (d.isFresh d.settings.baseHeartbeatTimeout) = outcome
  obtain ⟨ready, reason⟩ := outcome
  dsimp only
  generalize (if ready then d.node.markReady d.now else d.node.markNotReady reason d.now) = shown
  obtain ⟨node, flipped⟩ := shown
  cases flipped with
  | true => exact ⟨rfl, rfl⟩
  | false => exact ⟨rfl, rfl⟩

/-- A listing that failed adds one to the failures in a row, and changes no other count. -/
theorem vigil_listingFailed (d : Desk) (e : Fault) :
    (d.listingFailed e).vigil =
      { d.vigil with failedListings := d.ledger.failedListings + 1 } := by
  unfold listingFailed
  dsimp only
  split
  · rfl
  · rfl

end Desk

/-- A task of a loop that decides nothing. -/
abbrev Undecisive {α : Type} (name : LoopName) (task : Activity α) (d : Desk) : Prop :=
  task.Within Desk.SameEnding (Call.Chore name) d

/-- A task of a loop that neither decides nor shows anything. -/
abbrev Detached {α : Type} (name : LoopName) (task : Activity α) (d : Desk) : Prop :=
  task.Within Desk.SameStance (Call.Chore name) d

/-- A task that makes no calls but commands, and neither decides nor shows anything. -/
abbrev Commanding {α : Type} (task : Activity α) (d : Desk) : Prop :=
  task.Within Desk.SameStance Call.Orders d

section

variable {α : Type} {name : LoopName} {task : Activity α} {d : Desk}

/-- Activities that only send commands leave the stance alone. -/
theorem detached_of_commanding (commanding : Commanding task d) : Detached .reconcile task d :=
  within_mono commanding (fun _ _ => id) fun _ => Call.Orders.chore

/-- Activities that leave the stance alone make no call that may decide. -/
theorem undecisive_of_detached (detached : Detached name task d) : Undecisive name task d :=
  within_mono detached Desk.SameStance.ending fun _ => id

end

variable {d : Desk}

/-! ## Showing the node -/

/-- Showing the node touches nothing but what is shown. -/
theorem refreshNode_vigilant (probed : Bool) :
    (refreshNode probed).Within (fun d e => e.vigil = d.vigil ∧ e.ending = d.ending)
      (Call.Chore .heartbeat) d := by
  refine within_update_bind.2 fun d => ⟨d.vigil_setReadiness probed, ?_⟩
  refine within_state_bind.2 fun d => within_request_bind.2 ⟨⟨trivial, id⟩, fun answer e => ?_⟩
  split
  · exact within_update.2 fun _ => ⟨rfl, rfl⟩
  · exact within_update.2 fun _ => ⟨rfl, rfl⟩

/-- To show the node decides nothing about the end of the run. -/
theorem refreshNode_undecisive (probed : Bool) :
    Undecisive .heartbeat (refreshNode probed) d :=
  within_mono (refreshNode_vigilant probed) (fun _ _ => And.right) fun _ => id

/-! ## Subscriptions -/

/-- To subscribe to topics leaves the stance alone. -/
theorem subscribeAll_same_stance (purposes : List Topic.Purpose) :
    (subscribeAll purposes).Within Desk.SameStance Call.Subscribes d := by
  induction purposes generalizing d with
  | nil => trivial
  | cons purpose rest ih =>
    have one : (subscribe purpose).Within Desk.SameStance Call.Subscribes d := by
      refine within_request_bind.2 ⟨trivial, fun outcome e => ?_⟩
      refine within_request_bind.2 ⟨trivial, fun _ e => ?_⟩
      refine within_update_bind.2 fun e => ⟨rfl, ?_⟩
      cases outcome with
      | ok _ => trivial
      | error fault => exact within_update_bind.2 fun e => ⟨rfl, trivial⟩
    exact within_bind one fun worked e => within_bind ih fun _ _ => trivial

/-- To see to the subscriptions leaves the stance alone. -/
theorem ensureSubscribed_same_stance :
    ensureSubscribed.Within Desk.SameStance Call.Subscribes d := by
  refine within_state_bind.2 fun d => ?_
  split
  · trivial
  · exact within_bind (subscribeAll_same_stance listened) fun worked e =>
      within_update.2 fun _ => rfl

/-- To see to the subscriptions leaves the ending alone. -/
theorem ensureSubscribed_same_ending :
    ensureSubscribed.Within Desk.SameEnding Call.Subscribes d :=
  within_mono ensureSubscribed_same_stance Desk.SameStance.ending fun _ => id

/-- To see to the subscriptions is a chore of the loops that do so. -/
theorem ensureSubscribed_detached {name : LoopName} (listens : name ≠ .heartbeat) :
    Detached name ensureSubscribed d :=
  within_mono ensureSubscribed_same_stance (fun _ _ => id) fun _ subscribes =>
    subscribes.chore listens

/-- The renewal begins with its own call and decides nothing. -/
theorem watchSessions_detached : Detached .renewal watchSessions d :=
  within_request_bind.2 ⟨⟨trivial, id⟩, fun _ _ => within_update.2 fun _ => rfl⟩

/-- To renew the subscriptions leaves the stance alone. -/
theorem renewSubscriptions_detached : Detached .renewal renewSubscriptions d :=
  within_update_bind.2 fun _ => ⟨rfl, ensureSubscribed_detached nofun⟩

/-! ## Modules -/

/-- To publish a command makes no other call than that. -/
theorem publishCommand_orders (verb : Verb) (key : String) (module : Descriptor) :
    Commanding (publishCommand verb key module) d := by
  refine within_request_bind.2 ⟨trivial, fun outcome e => ?_⟩
  refine within_update_bind.2 fun e => ⟨rfl, ?_⟩
  cases outcome with
  | ok _ => exact within_update_bind.2 fun e => ⟨(e.measure _).stance_log rfl, trivial⟩
  | error fault => exact within_update_bind.2 fun e => ⟨rfl, trivial⟩

/-- To release a module makes no call but to send commands. -/
theorem release_orders (listing : List Pod) (key : String) (module : Descriptor) :
    Commanding (release listing key module) d := by
  refine within_state_bind.2 fun d => ?_
  split
  · trivial
  · refine within_bind (publishCommand_orders .uninstall key module) fun delivered e => ?_
    cases delivered with
    | true => exact within_update_bind.2 fun e => ⟨rfl, trivial⟩
    | false => trivial

/-- To release what a pod no longer wants makes no call but to send commands. -/
theorem releaseUndesired_orders (listing : List Pod) (key : String)
    (desired held : List Descriptor) :
    Commanding (releaseUndesired listing key desired held) d := by
  induction held generalizing d with
  | nil => trivial
  | cons module rest ih =>
    have one : Commanding (retain listing key desired module) d := by
      unfold retain
      split
      · trivial
      · exact within_bind (release_orders listing key module) fun _ _ => trivial
    exact within_bind one fun kept e => within_bind ih fun _ _ => trivial

/-- To acquire what a pod lacks makes no call but to send commands. -/
theorem acquireMissing_orders (key : String) (held desired : List Descriptor) :
    Commanding (acquireMissing key held desired) d := by
  induction desired generalizing d held with
  | nil => trivial
  | cons module rest ih =>
    have one : Commanding (acquire key module) d := by
      refine within_state_bind.2 fun d => ?_
      split
      · trivial
      · exact publishCommand_orders .install key module
    unfold acquireMissing
    split
    · exact ih held
    · exact within_bind one fun stands e => ih _

/-- To visit a live pod makes no call but to send commands. -/
theorem syncPod_orders (listing : List Pod) (pod : Pod) :
    Commanding (syncPod listing pod) d := by
  refine within_state_bind.2 fun d => within_update_bind.2 fun e => ⟨rfl, ?_⟩
  refine within_bind (releaseUndesired_orders listing _ _ _) fun held e => ?_
  refine within_bind (acquireMissing_orders _ held _) fun held e => ?_
  exact within_update.2 fun e => e.stance_setClaims pod.key held

/-- To release all that a pod holds makes no call but to send commands. -/
theorem releaseAll_orders (listing : List Pod) (key : String) :
    Commanding (releaseAll listing key) d := by
  refine within_state_bind.2 fun d => within_update_bind.2 fun e => ⟨rfl, ?_⟩
  refine within_bind (releaseUndesired_orders listing _ _ _) fun held e => ?_
  exact within_update_bind.2 fun e => ⟨e.stance_setClaims key held, trivial⟩

/-- To visit a terminating pod leaves the stance alone. -/
theorem dismissPod_detached (listing : List Pod) (pod : Pod) :
    Detached .reconcile (dismissPod listing pod) d := by
  refine within_update_bind.2 fun e => ⟨rfl, ?_⟩
  refine within_bind (detached_of_commanding (releaseAll_orders listing pod.key)) fun gone e => ?_
  cases gone with
  | true => exact within_request_bind.2 ⟨⟨trivial, id⟩, fun _ _ => trivial⟩
  | false => trivial

/-- To visit the pods of a listing leaves the stance alone. -/
theorem visitPods_detached (listing rest : List Pod) (live : Table String Pod) :
    Detached .reconcile (visitPods listing rest live) d := by
  induction rest generalizing d live with
  | nil => trivial
  | cons pod rest ih =>
    unfold visitPods
    split
    · exact within_bind (dismissPod_detached listing pod) fun _ e => ih live
    · exact within_bind (detached_of_commanding (syncPod_orders listing pod)) fun _ e => ih _

/-- To release what vanished pods hold makes no call but to send commands. -/
theorem releaseVanished_orders (listing : List Pod) (keys : List String) :
    Commanding (releaseVanished listing keys) d := by
  induction keys generalizing d with
  | nil => trivial
  | cons key rest ih =>
    refine within_update_bind.2 fun e => ⟨rfl, ?_⟩
    exact within_bind (releaseAll_orders listing key) fun _ e => ih

/-! ## Statuses and passes -/

/-- To write the statuses of some pods leaves the stance alone. -/
theorem writeStatuses_detached (pods : List (String × Pod)) :
    Detached .reconcile (writeStatuses pods) d := by
  induction pods generalizing d with
  | nil => trivial
  | cons entry rest ih =>
    refine within_state_bind.2 fun e => ?_
    dsimp only
    split
    · exact ih
    · refine within_request_bind.2 ⟨⟨trivial, id⟩, fun answer e => ?_⟩
      split
      · exact within_update_bind.2 fun _ => ⟨rfl, ih⟩
      · exact within_update_bind.2 fun _ => ⟨rfl, ih⟩

/-- To write all statuses that are due leaves the stance alone. -/
theorem pushStatuses_detached : Detached .reconcile pushStatuses d :=
  within_state_bind.2 fun d => writeStatuses_detached d.ledger.pods.entries

/-- What a pass does after its listing leaves the stance alone. -/
theorem followListing_detached (listing : List Pod) :
    Detached .reconcile (followListing listing) d := by
  refine within_bind (visitPods_detached listing listing _) fun live e => ?_
  refine within_state_bind.2 fun e => ?_
  refine within_bind (detached_of_commanding (releaseVanished_orders listing _)) fun _ e => ?_
  exact within_update_bind.2 fun _ => ⟨rfl, pushStatuses_detached⟩

/-! ## Registration and removal -/

/-- A task that neither probes nor lists, nor touches what beats go by. -/
abbrev Watchless {α : Type} (task : Activity α) (d : Desk) : Prop :=
  task.Within Desk.SameVigil (¬ Call.Decides ·) d

/-- Activities that leave the stance alone leave the watch alone. -/
theorem watchless_of_detached {α : Type} {name : LoopName} {task : Activity α}
    (detached : Detached name task d) : Watchless task d :=
  within_mono detached Desk.SameStance.vigil fun _ => And.right

/-- To see to the subscriptions leaves the watch alone. -/
theorem ensureSubscribed_watchless : Watchless ensureSubscribed d := by
  have detached : Detached .renewal ensureSubscribed d := ensureSubscribed_detached nofun
  exact watchless_of_detached detached

/-- To give up after a refused registration leaves the watch alone. -/
theorem abandon_watchless (fault : Fault) : Watchless (abandon fault) d := by
  refine within_update_bind.2 fun e => ⟨rfl, ?_⟩
  refine within_request_bind.2 ⟨id, fun _ e => ?_⟩
  exact within_update.2 fun _ => rfl

/-- The start of a run leaves the watch alone. -/
theorem enlist_watchless : Watchless enlist d := by
  refine within_state_bind.2 fun d => within_update_bind.2 fun e => ⟨rfl, ?_⟩
  refine within_request_bind.2 ⟨id, fun answer e => ?_⟩
  split
  · rename_i fault _
    exact within_bind (abandon_watchless fault) fun _ _ => trivial
  · refine within_update_bind.2 fun e => ⟨rfl, ?_⟩
    exact within_bind ensureSubscribed_watchless fun _ _ => trivial

/-- To unsubscribe from topics leaves the watch alone. -/
theorem unsubscribeAll_watchless (purposes : List Topic.Purpose) :
    Watchless (unsubscribeAll purposes) d := by
  induction purposes generalizing d with
  | nil => trivial
  | cons purpose rest ih => exact within_request_bind.2 ⟨id, fun _ _ => ih⟩

/-- The removal of the node leaves the watch alone. -/
theorem retire_watchless : Watchless retire d := by
  refine within_bind (unsubscribeAll_watchless listened) fun _ e => ?_
  refine within_request_bind.2 ⟨id, fun answer e => ?_⟩
  refine within_update_bind.2 fun e => ⟨rfl, ?_⟩
  refine within_request_bind.2 ⟨id, fun _ e => ?_⟩
  exact within_update.2 fun _ => rfl

/-! ## The pulse -/

section

variable {α : Type} {task : Activity α}

/-- Activities that leave the watch alone leave the pulse alone. -/
theorem samePulse_of_watchless (watchless : Watchless task d) :
    task.Within Desk.SamePulse (fun _ => True) d :=
  within_mono watchless (fun _ _ same => congrArg Vigil.pulse same) fun _ _ => trivial

/-- Activities that leave the stance alone leave the pulse alone. -/
theorem samePulse_of_detached {name : LoopName} (detached : Detached name task d) :
    task.Within Desk.SamePulse (fun _ => True) d :=
  samePulse_of_watchless (watchless_of_detached detached)

end

/-- A pass may count a failed listing, but does not touch the pulse. -/
theorem reconcile_same_pulse : reconcile.Within Desk.SamePulse (fun _ => True) d := by
  refine within_state_bind.2 fun d => ?_
  refine within_bind (samePulse_of_watchless ensureSubscribed_watchless) fun _ d => ?_
  refine within_request_bind.2 ⟨trivial, fun answer d => within_state_bind.2 fun d => ?_⟩
  dsimp only
  split
  · exact within_update.2 fun d => congrArg Vigil.pulse (d.vigil_listingFailed _)
  · refine within_update_bind.2 fun d => ⟨rfl, ?_⟩
    refine within_bind (samePulse_of_detached (followListing_detached _)) fun _ d => ?_
    exact within_update.2 fun _ => rfl

end VirtualNode.Controller
