import VirtualNode.Proofs.Ending.Errands

/-!
# How strands conduct themselves

A strand works in goes: from an answer to its next call, or to its end.  A conduct says what comes
of a go, given the answer with which it began and the desk at that time.  `Conduct.Behaves` says
that a dialogue conducts itself so, whatever is answered and whatever others do to the desk between
goes.

Main statements: a loop makes only its own calls, and what tells how the run ends changes only as
the answer has decided (`beat_behaves`, `reconcile_behaves`); the registration says truly whether it
has worked (`enlist_behaves`); the removal makes its calls in order and finishes the run after the
last one (`retire_behaves`).
-/

set_option autoImplicit false

namespace VirtualNode.Controller

open Dialogue (Environment)

/-! ## Goes -/

/-- Where a go stops. -/
inductive Stop (α : Type) where
  | asks (call : Call)
  | ends (result : α)

/-- What is to come of a go: where it stops, and the desk then. -/
abbrev Aim (α : Type) := Stop α → Desk → Prop

/-- What is to come of a go, given the answer with which it begins and the desk at that time. -/
abbrev Conduct (α : Type) := (call : Call) → call.Answer → Desk → Aim α

namespace Conduct

variable {α β γ : Type} {K : Conduct γ} {aim : Aim γ} {d : Desk}

/-- Whether a dialogue whose present go is to come to `aim` conducts itself well and ends with
`post`, which is about its result, about what the go is to come to, and about the desk. -/
def Behaves (K : Conduct γ) : Activity α → Aim γ → Desk → (α → Aim γ → Desk → Prop) → Prop
  | .done a, aim, d, post => post a aim d
  | .read next, aim, d, post => K.Behaves (next d) aim d post
  | .write d next, aim, _, post => K.Behaves next aim d post
  | .ask call next, aim, d, post => aim (.asks call) d ∧
      ∀ answer e, K.Behaves (next answer) (K call answer e) e post

/-- The end of a dialogue is what its last go is to come to. -/
abbrev Ends (a : γ) (aim : Aim γ) (d : Desk) : Prop := aim (.ends a) d

/-- Whether work that waits conducts itself well once the answer is there. -/
def Prepared (K : Conduct γ) (work : Pending γ) : Prop :=
  ∀ answer d, K.Behaves (work.next answer) (K work.call answer d) d Ends

/-- Good conduct up to some end is good conduct up to any weaker one. -/
theorem behaves_mono {task : Activity α} {post weaker : α → Aim γ → Desk → Prop}
    (behaves : K.Behaves task aim d post) (implies : ∀ a aim d, post a aim d → weaker a aim d) :
    K.Behaves task aim d weaker := by
  induction task generalizing aim d with
  | done a => exact implies a aim d behaves
  | read next ih => exact ih d behaves
  | write e next ih => exact ih behaves
  | ask call next ih => exact ⟨behaves.1, fun answer e => ih answer (behaves.2 answer e)⟩

/-- A sequence conducts itself well just if the rest does so wherever the first part may end. -/
theorem behaves_bind {task : Activity α} {f : α → Activity β} {post : β → Aim γ → Desk → Prop} :
    K.Behaves (task.bind f) aim d post ↔
      K.Behaves task aim d fun a aim d => K.Behaves (f a) aim d post := by
  induction task generalizing aim d with
  | done a => exact Iff.rfl
  | read next ih => exact ih d
  | write e next ih => exact ih
  | ask call next ih =>
    exact and_congr_right fun _ => forall_congr' fun answer => forall_congr' fun e => ih answer

/-- To look at the desk needs no conduct. -/
theorem behaves_desk {post : Desk → Aim γ → Desk → Prop} :
    K.Behaves Activity.desk aim d post ↔ post d aim d := Iff.rfl

/-- A change of the desk needs no conduct, and the rest begins at the new desk. -/
theorem behaves_change {f : Desk → Desk} {post : Unit → Aim γ → Desk → Prop} :
    K.Behaves (Activity.change f) aim d post ↔ post () aim (f d) := Iff.rfl

/-- When nobody answers at once, a dialogue that conducts itself well does so up to its next
call. -/
theorem behaves_advance {task : Activity γ} (behaves : K.Behaves task aim d Ends) :
    match task.advance .silent d () with
    | (e, _, .finished a) => aim (.ends a) e
    | (e, _, .waiting call next) => aim (.asks call) e ∧ K.Prepared ⟨call, next⟩ := by
  induction task generalizing d with
  | done a => exact behaves
  | read next ih => exact ih d behaves
  | write e next ih =>
    have later := ih behaves
    exact later
  | ask call next ih => exact behaves

end Conduct

/-! ## Loops -/

/-- The fault with which the run ends because of an answer, if it does. -/
def Desk.verdict? (d : Desk) : (call : Call) → call.Answer → Option Fault
  | .probe _, .error _ =>
    if d.settings.maxHeartbeatFailures ≤ d.missedProbes + 1 then
      some (.heartbeatLost (d.missedProbes + 1))
    else none
  | .listPods, answer => match bounded Call.listPods.what d.settings.operationTimeout answer with
    | .error e =>
      if d.settings.maxClusterFailures ≤ d.ledger.failedListings + 1 then some (listingFault e)
      else none
    | .ok _ => none
  | _, _ => none

/-- Only the answers to calls that may decide do decide. -/
theorem Desk.verdict?_eq_none (d : Desk) {call : Call} (decides : ¬ call.Decides)
    (answer : call.Answer) : d.verdict? call answer = none := by
  cases call with
  | probe content => exact absurd trivial decides
  | listPods => exact absurd trivial decides
  | _ => rfl

/-- The go makes a call of its loop, or none, and comes to an ending. -/
def comesTo (name : LoopName) (ending : Ending) : Aim Unit
  | .asks call, d => call.Errand name ∧ d.ending = ending
  | .ends _, d => d.ending = ending

/-- The go makes no more calls and comes to an ending. -/
def stopsAt (ending : Ending) : Aim Unit := fun stop d => stop = .ends () ∧ d.ending = ending

/-- A loop makes its own calls, and the run ends only as the answers decide.  With the answer that
ends the run the task of the loop is over. -/
def loopConduct (name : LoopName) : Conduct Unit := fun call answer d =>
  match d.verdict? call answer with
  | none => comesTo name d.ending
  | some fault => stopsAt (d.fail fault).ending

namespace Conduct

variable {α : Type} {name : LoopName} {d : Desk}

/-- The go is to come to the ending that is already on the desk. -/
def Settled {α : Type} (name : LoopName) : α → Aim Unit → Desk → Prop := fun _ aim d =>
  aim = comesTo name d.ending

/-- An activity that makes no call that may decide conducts itself well in its loop. -/
theorem behaves_of_undecisive {task : Activity α} {ending : Ending}
    (undecisive : Undecisive name task d) (here : d.ending = ending) :
    (loopConduct name).Behaves task (comesTo name ending) d (Settled name) := by
  induction task generalizing d ending with
  | done a => exact congrArg _ here.symm
  | read next ih => exact ih d (undecisive d) here
  | write e next ih => exact ih undecisive.2 (Eq.trans undecisive.1 here)
  | ask call next ih =>
    obtain ⟨⟨errand, decides⟩, go_on⟩ := undecisive
    refine ⟨⟨errand, here⟩, fun answer e => ?_⟩
    rw [loopConduct, Desk.verdict?_eq_none e decides answer]
    exact ih answer (go_on answer e) rfl

/-- A task of a loop may end where nothing is left to be decided. -/
theorem Settled.ends {a : Unit} {aim : Aim Unit} {d : Desk} (settled : Settled name a aim d) :
    Ends a aim d := by
  rw [settled]
  rfl

end Conduct

open Conduct

variable {d : Desk}

/-! ### Beats -/

/-- A failed probe is counted, and it ends the run just if the count has come to its bound. -/
theorem probeFailed_tells (d : Desk) (e : DeliveryFault) :
    (d.probeFailed e).settings = d.settings ∧
      (d.probeFailed e).missedProbes = d.missedProbes + 1 ∧
      (d.probeFailed e).ending =
        if d.settings.maxHeartbeatFailures ≤ d.missedProbes + 1 then
          (d.fail (.heartbeatLost (d.missedProbes + 1))).ending
        else d.ending := by
  unfold Desk.probeFailed
  dsimp only
  by_cases last : d.settings.maxHeartbeatFailures ≤ d.missedProbes + 1
  · rw [if_pos last, if_pos (by exact last)]
    exact ⟨rfl, rfl, rfl⟩
  · rw [if_neg last, if_neg (by exact last)]
    exact ⟨rfl, rfl, rfl⟩

/-- A beat probes and shows the node, and with a probe that ends the run it is over. -/
theorem beat_behaves :
    (loopConduct .heartbeat).Behaves beat (comesTo .heartbeat d.ending) d Ends := by
  refine ⟨⟨trivial, rfl⟩, fun outcome e => ?_⟩
  cases outcome with
  | ok _ =>
    have here : ((e.noteTransport (.ok ())).probeSucceeded).ending = e.ending := rfl
    have shown := behaves_of_undecisive (refreshNode_undecisive true) here
    exact behaves_mono shown fun _ _ _ => Settled.ends
  | error fault =>
    obtain ⟨settings, missed, ending⟩ := probeFailed_tells (e.noteTransport (.error fault)) fault
    show (loopConduct .heartbeat).Behaves (if _ then _ else _) _ _ _
    rw [settings, missed]
    by_cases last : e.settings.maxHeartbeatFailures ≤ e.missedProbes + 1
    · have verdict : e.verdict? (.probe (.ofNode d.settings.nodeId d.now)) (.error fault) =
          some (.heartbeatLost (e.missedProbes + 1)) := if_pos last
      rw [if_pos (by exact last), loopConduct, verdict]
      exact ⟨rfl, ending.trans (if_pos last)⟩
    · have verdict : e.verdict? (.probe (.ofNode d.settings.nodeId d.now)) (.error fault) =
          none := if_neg last
      rw [if_neg (by exact last), loopConduct, verdict]
      have shown := behaves_of_undecisive (refreshNode_undecisive false)
        (ending.trans (if_neg last))
      exact behaves_mono shown fun _ _ _ => Settled.ends

/-! ### Passes -/

/-- A listing that failed ends the run just if the count of failures has come to its bound. -/
theorem listingFailed_ending (d : Desk) (e : Fault) : (d.listingFailed e).ending =
    if d.settings.maxClusterFailures ≤ d.ledger.failedListings + 1 then
      (d.fail (listingFault e)).ending
    else d.ending := by
  unfold Desk.listingFailed
  dsimp only
  by_cases last : d.settings.maxClusterFailures ≤ d.ledger.failedListings + 1
  · rw [if_pos last, if_pos (by exact last)]
    rfl
  · rw [if_neg last, if_neg (by exact last)]
    rfl

/-- The writing of statuses decides nothing about the end of the run. -/
theorem pushStatuses_behaves :
    (loopConduct .reconcile).Behaves pushStatuses (comesTo .reconcile d.ending) d Ends :=
  behaves_mono (behaves_of_undecisive (undecisive_of_detached pushStatuses_detached) rfl)
    fun _ _ _ => Settled.ends

/-- A pass decides about the end of the run by the answer to its listing alone. -/
theorem reconcile_behaves :
    (loopConduct .reconcile).Behaves reconcile (comesTo .reconcile d.ending) d Ends := by
  have begun : Undecisive .reconcile ensureSubscribed d :=
    undecisive_of_detached (ensureSubscribed_detached nofun)
  have subscribed := behaves_of_undecisive begun rfl
  refine behaves_bind.2 (behaves_desk.2 (behaves_bind.2 (behaves_mono subscribed ?_)))
  intro _ aim e settled
  refine ⟨?_, fun answer k => ?_⟩
  · rw [settled]
    exact ⟨trivial, rfl⟩
  · simp only [Dialogue.bind_done]
    refine behaves_bind.2 (behaves_desk.2 ?_)
    split
    · rename_i fault failed
      have ending := listingFailed_ending k fault
      by_cases last : k.settings.maxClusterFailures ≤ k.ledger.failedListings + 1
      · simp only [loopConduct, Desk.verdict?, failed, last, if_true]
        exact ⟨rfl, ending.trans (if_pos last)⟩
      · simp only [loopConduct, Desk.verdict?, failed, last, if_false]
        exact ending.trans (if_neg last)
    · rename_i listing listed
      have going_on : (loopConduct .reconcile) .listPods answer k =
          comesTo .reconcile (k.listingSucceeded listing.length).ending := by
        simp only [loopConduct, Desk.verdict?, listed]
        rfl
      rw [going_on]
      have followed := behaves_of_undecisive (d := k.listingSucceeded listing.length)
        (undecisive_of_detached (followListing_detached listing)) rfl
      refine behaves_bind.2 (behaves_change.2 (behaves_bind.2 (behaves_mono followed ?_)))
      intro _ aim e settled
      exact Settled.ends settled

/-- The first look of the renewal decides nothing about the end of the run. -/
theorem watchSessions_behaves :
    (loopConduct .renewal).Behaves watchSessions (comesTo .renewal d.ending) d Ends :=
  behaves_mono (behaves_of_undecisive (undecisive_of_detached watchSessions_detached) rfl)
    fun _ _ _ => Settled.ends

/-- The renewal decides nothing about the end of the run. -/
theorem renewSubscriptions_behaves :
    (loopConduct .renewal).Behaves renewSubscriptions (comesTo .renewal d.ending) d Ends :=
  behaves_mono (behaves_of_undecisive (undecisive_of_detached renewSubscriptions_detached) rfl)
    fun _ _ _ => Settled.ends

/-! ## Registration -/

/-- The node is registered: subscriptions follow, and how the run ends is still open. -/
def enlisted (ending : Ending) : Aim Bool
  | .asks call, d => call.Subscribes ∧ d.ending = ending
  | .ends worked, d => worked = true ∧ d.ending = ending

/-- The node is not registered, and the controller disconnects. -/
def unlisted : Aim Bool
  | .asks call, _ => call = .disconnect
  | .ends worked, _ => worked = false

/-- What the registration does depends on whether the node was registered. -/
def enlistConduct : Conduct Bool
  | .register _, answer, d => if succeeded answer then enlisted d.ending else unlisted
  | .subscribe _, _, d | .noting, _, d => enlisted d.ending
  | _, _, _ => unlisted

/-- After an answer in an attempt to subscribe the node is still registered. -/
theorem enlistConduct_of_subscribes {call : Call} (subscribes : call.Subscribes)
    (answer : call.Answer) (d : Desk) : enlistConduct call answer d = enlisted d.ending := by
  cases call with
  | subscribe purpose => rfl
  | noting => rfl
  | _ => exact subscribes.elim

/-- The first go of the registration. -/
def registering (ending : Ending) : Aim Bool
  | .asks call, d => (∃ node, call = .register node) ∧ d.ending = ending
  | .ends _, _ => False

/-- The subscriptions at the start of a run leave its ending alone. -/
theorem ensureSubscribed_enlists {ending : Ending} (here : d.ending = ending) :
    enlistConduct.Behaves ensureSubscribed (enlisted ending) d fun _ aim e =>
      aim = enlisted e.ending := by
  have within := ensureSubscribed_same_ending (d := d)
  generalize ensureSubscribed = task at within
  induction task generalizing d ending with
  | done a => exact congrArg _ here.symm
  | read next ih => exact ih d here (within d)
  | write e next ih => exact ih (Eq.trans within.1 here) within.2
  | ask call next ih =>
    obtain ⟨subscribes, go_on⟩ := within
    refine ⟨⟨subscribes, here⟩, fun answer e => ?_⟩
    rw [enlistConduct_of_subscribes subscribes]
    exact ih answer rfl (go_on answer e)

/-- The start registers the node first, and serves it or disconnects by the answer. -/
theorem enlist_behaves : enlistConduct.Behaves enlist (registering d.ending) d Ends := by
  refine ⟨⟨⟨_, rfl⟩, rfl⟩, fun answer k => ?_⟩
  simp only [Dialogue.bind_done]
  split
  · rename_i fault failed
    have refused : succeeded answer = false := by
      cases answer with
      | none => rfl
      | some outcome =>
        rw [show outcome = .error fault from failed]
        rfl
    simp only [enlistConduct, refused, Bool.false_eq_true, if_false]
    exact ⟨rfl, fun _ e => rfl⟩
  · rename_i registered
    have worked : succeeded answer = true := by
      cases answer with
      | none => cases registered
      | some outcome =>
        rw [show outcome = .ok () from registered]
        rfl
    simp only [enlistConduct, worked, if_true]
    refine behaves_bind.2 (behaves_change.2 (behaves_bind.2 (behaves_mono
      (ensureSubscribed_enlists rfl) ?_)))
    intro _ aim e settled
    rw [settled]
    exact ⟨rfl, rfl⟩

/-! ## Removal -/

/-- The calls with which a node is removed. -/
def farewell : List Call := listened.map .unsubscribe ++ [.deleteNode, .disconnect]

/-- What follows one of these calls. -/
def followUp : Call → Stop Unit
  | .unsubscribe .bizState => .asks (.unsubscribe .baseHeart)
  | .unsubscribe _ => .asks .deleteNode
  | .deleteNode => .asks .disconnect
  | _ => .ends ()

/-- The controller does not count as ready, nor does its node. -/
def Desk.Offline (d : Desk) : Prop := d.health.registered = false ∧ d.metrics.nodeReady = false

/-- The desk after one of the calls of the removal was answered. -/
def Desk.LeftBy (d : Desk) : Call → Desk → Prop
  | .deleteNode, e => e.ending = d.ending ∧ e.Offline
  | .disconnect, e =>
    e.ending = { d.ending with completion := d.completion.finish } ∧ (d.Offline → e.Offline)
  | _, e => e.ending = d.ending

/-- The removal makes its calls one after the other. -/
def removalConduct : Conduct Unit := fun call _ d stop e => stop = followUp call ∧ d.LeftBy call e

/-- The removal makes its calls in order, whatever is answered. -/
theorem retire_behaves : removalConduct.Behaves retire
    (fun stop e => stop = .asks (.unsubscribe .bizState) ∧ e.ending = d.ending) d Ends := by
  refine ⟨⟨rfl, rfl⟩, fun _ e => ⟨⟨rfl, rfl⟩, fun _ e => ⟨⟨rfl, rfl⟩, fun answer e => ?_⟩⟩⟩
  refine ⟨⟨rfl, rfl, rfl, rfl⟩, fun _ e => ?_⟩
  exact ⟨rfl, rfl, id⟩

end VirtualNode.Controller
