import VirtualNode.Controller.Heartbeat
import VirtualNode.Controller.Lifetime
import VirtualNode.Controller.Reconcile
import VirtualNode.Proofs.Restraint

/-!
# What the activities of a controller leave alone

Most activities of a controller touch only a few fields of its desk.  Here it is said of each what
it leaves alone: whatever tells whether the subscriptions are up to date (`Desk.link`), whatever
tells which statuses are to be written (`Desk.outlook`), and in a pass the cached pods, the claims
of other pods and the statuses that were written last (`Desk.Tours`).
-/

set_option autoImplicit false

namespace VirtualNode.Controller

open Biz (Descriptor)
open Dialogue (within_bind within_mono within_request_bind within_state_bind within_update
  within_update_bind)
open Kube (Pod)

/-! ## Parts of the desk -/

/-- What tells whether the subscriptions are up to date. -/
structure Link where
  subscribed : Bool
  sessions : Nat
  sessionsSeen : Nat

/-- What tells which statuses are to be written. -/
structure Outlook where
  settings : Settings
  ledger : Ledger
  sightings : Biz.Sightings
  wake : Bool

/-- Whether a call writes the status of a pod. -/
def Call.WritesStatus : Call → Prop
  | .reportPod _ _ _ => True
  | _ => False

/-- Whether a call is made in an attempt to subscribe: it asks for a topic, or its outcome waits to
be noted. -/
def Call.Subscribes : Call → Prop
  | .subscribe _ | .noting => True
  | _ => False

/-- Whether a call neither writes the status of a pod nor publishes a command. -/
def Call.Distant : Call → Prop
  | .reportPod _ _ _ | .command _ _ _ => False
  | _ => True

/-- A distant call writes no status. -/
theorem Call.Distant.not_writesStatus {call : Call} (distant : call.Distant) :
    ¬ call.WritesStatus := by
  cases call with
  | reportPod space name status => exact distant.elim
  | _ => exact id

/-- A call of an attempt to subscribe is distant. -/
theorem Call.Subscribes.distant {call : Call} (subscribes : call.Subscribes) : call.Distant := by
  cases call with
  | subscribe purpose => trivial
  | noting => trivial
  | _ => exact subscribes.elim

namespace Desk

def link (d : Desk) : Link := ⟨d.subscribed, d.sessions, d.sessionsSeen⟩

def outlook (d : Desk) : Outlook := ⟨d.settings, d.ledger, d.sightings, d.wake⟩

/-- Neither the subscriptions nor the statuses are touched. -/
def Beside (d e : Desk) : Prop := e.link = d.link ∧ e.outlook = d.outlook

/-- The statuses are not touched. -/
def SameOutlook (d e : Desk) : Prop := e.outlook = d.outlook

/-- The ledger has the same cached pods, the same claims but those of the touched keys, and the same
statuses that were written last but some of the forgotten keys, which have none. -/
structure Spares (touched forgotten : List String) (d e : Desk) : Prop where
  pods : ∀ key, e.ledger.pods.get? key = d.ledger.pods.get? key
  claims : ∀ key, key ∉ touched → e.ledger.claims.get? key = d.ledger.claims.get? key
  written : ∀ key, e.ledger.written.get? key = d.ledger.written.get? key ∨
    (key ∈ forgotten ∧ e.ledger.written.get? key = none)

/-- At most the statuses that were written last are touched. -/
structure Pushes (d e : Desk) : Prop where
  link : e.link = d.link
  claims : e.ledger.claims = d.ledger.claims
  sightings : e.sightings = d.sightings

/-- At most the ledger is touched, in so far as it is not spared, and what was seen of modules. -/
structure Tours (touched forgotten : List String) (d e : Desk) : Prop
    extends Spares touched forgotten d e where
  link : e.link = d.link

/-- Where the ledger is the same, all of it is spared. -/
theorem Spares.of_ledger {d e : Desk} {touched forgotten : List String}
    (ledger : e.ledger = d.ledger) : Spares touched forgotten d e := by
  refine ⟨?_, ?_, ?_⟩
  · intro key
    rw [ledger]
  · intro key _
    rw [ledger]
  · intro key
    rw [ledger]
    exact .inl rfl

/-- Where link and ledger are the same, nothing is toured. -/
theorem tours_of_ledger {d e : Desk} {touched forgotten : List String} (link : e.link = d.link)
    (ledger : e.ledger = d.ledger) : Tours touched forgotten d e :=
  ⟨.of_ledger ledger, link⟩

/-- What stays within some keys stays within more of them. -/
theorem Tours.mono {touched touched' forgotten forgotten' : List String}
    (more : touched ⊆ touched') (more' : forgotten ⊆ forgotten') (d e : Desk)
    (tours : Tours touched forgotten d e) : Tours touched' forgotten' d e := by
  refine ⟨⟨tours.pods, ?_, ?_⟩, tours.link⟩
  · intro key untouched
    exact tours.claims key fun mem => untouched (more mem)
  · intro key
    exact (tours.written key).imp_right (And.imp_left fun mem => more' mem)

/-- The claims of a key that are dropped are those that are touched. -/
theorem tours_dropClaims (d : Desk) (key : String) :
    Tours [key] [] d (d.updateLedger (·.dropClaims key)) := by
  refine ⟨⟨fun _ => rfl, ?_, fun _ => .inl rfl⟩, rfl⟩
  intro other differ
  have ne : key ≠ other := fun is => differ (by simp [is])
  simp [Desk.updateLedger, Ledger.dropClaims, Table.get?_erase, ne]

/-- The claims of a key that are set are those that are touched. -/
theorem tours_setClaims (d : Desk) (key : String) (held : List Descriptor) :
    Tours [key] [] d (d.updateLedger (·.setClaims key held)) := by
  unfold Ledger.setClaims
  cases held with
  | nil => exact tours_of_ledger rfl rfl
  | cons module rest =>
    refine ⟨⟨fun _ => rfl, ?_, fun _ => .inl rfl⟩, rfl⟩
    intro other differ
    have ne : key ≠ other := fun is => differ (by simp [is])
    simp [Desk.updateLedger, Table.get?_insert, ne]

/-- The status of a key that is forgotten is the one that may be missing. -/
theorem tours_forgetStatus (d : Desk) (key : String) :
    Tours [] [key] d (d.updateLedger (·.forgetStatus key)) := by
  refine ⟨⟨fun _ => rfl, fun _ _ => rfl, ?_⟩, rfl⟩
  intro other
  by_cases is : key = other
  · exact .inr ⟨by simp [is], by simp [Desk.updateLedger, Ledger.forgetStatus, Table.get?_erase, is]⟩
  · exact .inl (by simp [Desk.updateLedger, Ledger.forgetStatus, Table.get?_erase, is])

/-- The readiness of the node is beside subscriptions and statuses. -/
theorem beside_setReadiness (d : Desk) (probed : Bool) : d.Beside (d.setReadiness probed) := by
  unfold setReadiness
  generalize readiness probed (d.isFresh d.settings.baseHeartbeatTimeout) = outcome
  obtain ⟨ready, reason⟩ := outcome
  dsimp only
  generalize (if ready then d.node.markReady d.now else d.node.markNotReady reason d.now) = shown
  obtain ⟨node, flipped⟩ := shown
  cases flipped with
  | true => exact ⟨rfl, rfl⟩
  | false => exact ⟨rfl, rfl⟩

/-- A probe that failed is beside subscriptions and statuses. -/
theorem beside_probeFailed (d : Desk) (e : DeliveryFault) : d.Beside (d.probeFailed e) := by
  unfold probeFailed
  dsimp only
  split
  · exact ⟨rfl, rfl⟩
  · exact ⟨rfl, rfl⟩

/-- After a listing that failed, at most the count of failures differs. -/
theorem listingFailed_eq (d : Desk) (fault : Fault) :
    (d.listingFailed fault).link = d.link ∧ (d.listingFailed fault).outlook =
      { d.outlook with
        ledger := { d.ledger with failedListings := d.ledger.failedListings + 1 } } := by
  unfold listingFailed
  dsimp only
  split
  · exact ⟨rfl, rfl⟩
  · exact ⟨rfl, rfl⟩

/-- A listing that failed adds to the count of the ledger and leaves the rest of it alone. -/
theorem ledger_listingFailed (d : Desk) (fault : Fault) : (d.listingFailed fault).ledger =
    { d.ledger with failedListings := d.ledger.failedListings + 1 } :=
  congrArg Outlook.ledger (d.listingFailed_eq fault).2

/-- A listing that failed leaves alone what was seen of modules. -/
theorem sightings_listingFailed (d : Desk) (fault : Fault) :
    (d.listingFailed fault).sightings = d.sightings :=
  congrArg Outlook.sightings (d.listingFailed_eq fault).2

end Desk

variable {d : Desk}

/-- What is beside subscriptions and statuses is beside statuses. -/
theorem within_sameOutlook {α : Type} {task : Activity α} {Q : Call → Prop}
    (within : task.Within Desk.Beside Q d) : task.Within Desk.SameOutlook Q d :=
  within_mono within (fun _ _ => And.right) fun _ => id

/-! ## Beats -/

/-- To show the node touches neither subscriptions nor statuses. -/
theorem refreshNode_within (probed : Bool) :
    (refreshNode probed).Within Desk.Beside Call.Distant d := by
  refine within_update_bind.2 fun d => ⟨d.beside_setReadiness probed, ?_⟩
  refine within_state_bind.2 fun d => within_request_bind.2 ⟨trivial, ?_⟩
  intro answer e
  split
  · exact within_update.2 fun _ => ⟨rfl, rfl⟩
  · exact within_update.2 fun _ => ⟨rfl, rfl⟩

/-- A beat touches neither subscriptions nor statuses. -/
theorem beat_within : beat.Within Desk.Beside Call.Distant d := by
  refine within_state_bind.2 fun d => within_request_bind.2 ⟨trivial, ?_⟩
  intro outcome e
  refine within_update_bind.2 fun e => ⟨⟨rfl, rfl⟩, ?_⟩
  cases outcome with
  | ok _ => exact within_update_bind.2 fun e => ⟨⟨rfl, rfl⟩, refreshNode_within true⟩
  | error fault =>
    refine within_update_bind.2 fun e => ⟨e.beside_probeFailed fault, ?_⟩
    refine within_state_bind.2 fun e => ?_
    split
    · trivial
    · exact refreshNode_within false

/-! ## Registration and removal -/

/-- To unsubscribe at the end touches neither subscriptions nor statuses. -/
theorem unsubscribeAll_within (purposes : List Topic.Purpose) :
    (unsubscribeAll purposes).Within Desk.Beside Call.Distant d := by
  induction purposes generalizing d with
  | nil => trivial
  | cons purpose rest ih => exact within_request_bind.2 ⟨trivial, fun _ _ => ih⟩

/-- The removal of the node touches neither subscriptions nor statuses. -/
theorem retire_within : retire.Within Desk.Beside Call.Distant d := by
  refine within_bind (unsubscribeAll_within listened) fun _ e => ?_
  refine within_request_bind.2 ⟨trivial, fun answer e => ?_⟩
  refine within_update_bind.2 fun e => ⟨⟨rfl, rfl⟩, ?_⟩
  refine within_request_bind.2 ⟨trivial, fun _ e => ?_⟩
  exact within_update.2 fun _ => ⟨rfl, rfl⟩

/-- To give a run up touches neither subscriptions nor statuses. -/
theorem abandon_within (fault : Fault) :
    (abandon fault).Within Desk.Beside Call.Distant d := by
  refine within_update_bind.2 fun e => ⟨⟨rfl, rfl⟩, ?_⟩
  refine within_request_bind.2 ⟨trivial, fun _ e => ?_⟩
  exact within_update.2 fun _ => ⟨rfl, rfl⟩

/-! ## Subscriptions -/

/-- A call to subscribe by itself touches neither subscriptions nor statuses, for its outcome is
only noted in the end. -/
theorem subscribe_within (purpose : Topic.Purpose) :
    (subscribe purpose).Within Desk.Beside Call.Subscribes d := by
  refine within_request_bind.2 ⟨trivial, fun outcome e => ?_⟩
  refine within_request_bind.2 ⟨trivial, fun _ e => ?_⟩
  refine within_update_bind.2 fun e => ⟨⟨rfl, rfl⟩, ?_⟩
  cases outcome with
  | ok _ => trivial
  | error fault => exact within_update_bind.2 fun e => ⟨⟨rfl, rfl⟩, trivial⟩

/-- Nor do several of them. -/
theorem subscribeAll_within (purposes : List Topic.Purpose) :
    (subscribeAll purposes).Within Desk.Beside Call.Subscribes d := by
  induction purposes generalizing d with
  | nil => trivial
  | cons purpose rest ih =>
    refine within_bind (subscribe_within purpose) fun worked e => ?_
    refine within_bind ih fun _ _ => ?_
    trivial

/-- To see to the subscriptions touches no statuses, and makes the calls of an attempt alone. -/
theorem ensureSubscribed_subscribes :
    ensureSubscribed.Within Desk.SameOutlook Call.Subscribes d := by
  refine within_state_bind.2 fun d => ?_
  split
  · trivial
  · have attempt : (subscribeAll listened).Within Desk.SameOutlook Call.Subscribes d :=
      within_sameOutlook (subscribeAll_within listened)
    exact within_bind attempt fun worked e => within_update.2 fun _ => rfl

/-- To see to the subscriptions makes distant calls alone. -/
theorem ensureSubscribed_within :
    ensureSubscribed.Within Desk.SameOutlook Call.Distant d :=
  within_mono ensureSubscribed_subscribes (fun _ _ => id) fun _ => Call.Subscribes.distant

/-- The renewal touches no statuses. -/
theorem renewSubscriptions_within :
    renewSubscriptions.Within Desk.SameOutlook Call.Distant d :=
  within_update_bind.2 fun _ => ⟨rfl, ensureSubscribed_within⟩

/-- The start of a run touches no statuses. -/
theorem enlist_within : enlist.Within Desk.SameOutlook Call.Distant d := by
  refine within_state_bind.2 fun d => within_update_bind.2 fun e => ⟨rfl, ?_⟩
  refine within_request_bind.2 ⟨trivial, fun answer e => ?_⟩
  split
  · rename_i fault _
    exact within_bind (within_sameOutlook (abandon_within fault)) fun _ _ => trivial
  · refine within_update_bind.2 fun e => ⟨rfl, ?_⟩
    exact within_bind ensureSubscribed_within fun _ _ => trivial

/-! ## Modules -/

/-- To publish a command touches no claims. -/
theorem publishCommand_within (verb : Verb) (key : String) (module : Descriptor) :
    (publishCommand verb key module).Within (Desk.Tours [] []) (¬ Call.WritesStatus ·) d := by
  refine within_request_bind.2 ⟨id, fun outcome e => ?_⟩
  refine within_update_bind.2 fun e => ⟨Desk.tours_of_ledger rfl rfl, ?_⟩
  cases outcome with
  | ok _ =>
    exact within_update_bind.2 fun e => ⟨Desk.tours_of_ledger rfl rfl, trivial⟩
  | error fault =>
    exact within_update_bind.2 fun e => ⟨Desk.tours_of_ledger rfl rfl, trivial⟩

/-- To release a module touches no claims yet. -/
theorem release_within (listing : List Pod) (key : String) (module : Descriptor) :
    (release listing key module).Within (Desk.Tours [] []) (¬ Call.WritesStatus ·) d := by
  refine within_state_bind.2 fun d => ?_
  split
  · trivial
  · refine within_bind (publishCommand_within .uninstall key module) fun delivered e => ?_
    cases delivered with
    | true =>
      exact within_update_bind.2 fun e => ⟨Desk.tours_of_ledger rfl rfl, trivial⟩
    | false => trivial

/-- To go over a module that is held touches no claims yet. -/
theorem retain_within (listing : List Pod) (key : String) (desired : List Descriptor)
    (module : Descriptor) :
    (retain listing key desired module).Within (Desk.Tours [] []) (¬ Call.WritesStatus ·) d := by
  unfold retain
  split
  · trivial
  · exact within_bind (release_within listing key module) fun _ _ => trivial

/-- To release what a pod no longer wants touches no claims yet. -/
theorem releaseUndesired_within (listing : List Pod) (key : String)
    (desired held : List Descriptor) :
    (releaseUndesired listing key desired held).Within (Desk.Tours [] [])
      (¬ Call.WritesStatus ·) d := by
  induction held generalizing d with
  | nil => trivial
  | cons module rest ih =>
    refine within_bind (retain_within listing key desired module) fun kept e => ?_
    exact within_bind ih fun _ _ => trivial

/-- To acquire a module touches no claims yet. -/
theorem acquire_within (key : String) (module : Descriptor) :
    (acquire key module).Within (Desk.Tours [] []) (¬ Call.WritesStatus ·) d := by
  refine within_state_bind.2 fun d => ?_
  split
  · trivial
  · exact publishCommand_within .install key module

/-- To acquire what a pod lacks touches no claims yet. -/
theorem acquireMissing_within (key : String) (held desired : List Descriptor) :
    (acquireMissing key held desired).Within (Desk.Tours [] []) (¬ Call.WritesStatus ·) d := by
  induction desired generalizing d held with
  | nil => trivial
  | cons module rest ih =>
    unfold acquireMissing
    split
    · exact ih held
    · exact within_bind (acquire_within key module) fun stands e => ih _

/-- What tours touches nothing tours with any list of keys. -/
theorem within_tours {α : Type} {task : Activity α}
    (within : task.Within (Desk.Tours [] []) (¬ Call.WritesStatus ·) d)
    (touched forgotten : List String) :
    task.Within (Desk.Tours touched forgotten) (¬ Call.WritesStatus ·) d :=
  within_mono within (Desk.Tours.mono (by simp) (by simp)) fun _ => id

/-- To visit a live pod touches the claims of its key alone. -/
theorem syncPod_within (listing : List Pod) (pod : Pod) :
    (syncPod listing pod).Within (Desk.Tours [pod.key] []) (¬ Call.WritesStatus ·) d := by
  refine within_state_bind.2 fun d => within_update_bind.2 fun e =>
    ⟨e.tours_dropClaims pod.key, ?_⟩
  refine within_bind (within_tours (releaseUndesired_within listing _ _ _) _ _) fun held e => ?_
  refine within_bind (within_tours (acquireMissing_within _ held _) _ _) fun held e => ?_
  exact within_update.2 fun e => e.tours_setClaims pod.key held

/-- To release all that a pod holds touches the claims of its key alone. -/
theorem releaseAll_within (listing : List Pod) (key : String) :
    (releaseAll listing key).Within (Desk.Tours [key] []) (¬ Call.WritesStatus ·) d := by
  refine within_state_bind.2 fun d => within_update_bind.2 fun e => ⟨e.tours_dropClaims key, ?_⟩
  refine within_bind (within_tours (releaseUndesired_within listing _ _ _) _ _) fun held e => ?_
  exact within_update_bind.2 fun e => ⟨e.tours_setClaims key held, trivial⟩

/-! ## Passes -/

/-- To visit a terminating pod touches the claims of its key, and may forget its status. -/
theorem dismissPod_within (listing : List Pod) (pod : Pod) :
    (dismissPod listing pod).Within (Desk.Tours [pod.key] [pod.key])
      (¬ Call.WritesStatus ·) d := by
  refine within_update_bind.2 fun e =>
    ⟨.mono (by simp) (List.Subset.refl _) _ _ (e.tours_forgetStatus pod.key), ?_⟩
  refine within_bind (within_mono (releaseAll_within listing pod.key)
    (Desk.Tours.mono (List.Subset.refl _) (by simp)) fun _ => id) fun gone e => ?_
  cases gone with
  | true => exact within_request_bind.2 ⟨id, fun _ _ => trivial⟩
  | false => trivial

/-- The keys of the pods of a listing that are being deleted. -/
def dying (listing : List Pod) : List String :=
  (listing.filter Pod.isTerminating).map Pod.key

/-- To visit pods touches the claims of their keys, and may forget statuses of those that are being
deleted. -/
theorem visitPods_within (listing rest : List Pod) (live : Table String Pod) :
    (visitPods listing rest live).Within (Desk.Tours (rest.map Pod.key) (dying rest))
      (¬ Call.WritesStatus ·) d := by
  induction rest generalizing d live with
  | nil => trivial
  | cons pod rest ih =>
    have later : ∀ (e : Desk) (table : Table String Pod), (visitPods listing rest table).Within
        (Desk.Tours ((pod :: rest).map Pod.key) (dying (pod :: rest)))
        (¬ Call.WritesStatus ·) e := by
      intro e table
      refine within_mono (ih table) (Desk.Tours.mono (by simp) ?_) fun _ => id
      unfold dying
      refine List.map_subset _ ?_
      intro other mem
      simp only [List.mem_filter] at mem ⊢
      exact ⟨List.mem_cons_of_mem _ mem.1, mem.2⟩
    unfold visitPods
    cases terminating : pod.isTerminating with
    | true =>
      rw [if_pos rfl]
      refine within_bind (within_mono (dismissPod_within listing pod) ?_ fun _ => id) fun _ e =>
        later e live
      exact Desk.Tours.mono (by simp) (by simp [dying, terminating])
    | false =>
      rw [if_neg nofun]
      refine within_bind (within_mono (syncPod_within listing pod) ?_ fun _ => id) fun _ e =>
        later e _
      exact Desk.Tours.mono (by simp) (by simp)

/-- To release what vanished pods hold touches the claims of their keys, and may forget their
statuses. -/
theorem releaseVanished_within (listing : List Pod) (keys : List String) :
    (releaseVanished listing keys).Within (Desk.Tours keys keys) (¬ Call.WritesStatus ·) d := by
  induction keys generalizing d with
  | nil => trivial
  | cons key rest ih =>
    refine within_update_bind.2 fun e =>
      ⟨.mono (by simp) (by simp) _ _ (e.tours_forgetStatus key), ?_⟩
    refine within_bind (within_mono (releaseAll_within listing key)
      (Desk.Tours.mono (by simp) (by simp)) fun _ => id) fun _ e => ?_
    exact within_mono ih (Desk.Tours.mono (by simp) (by simp)) fun _ => id

/-! ## Statuses -/

/-- To write the statuses of some pods makes no other calls, and touches at most what was written
last. -/
theorem writeStatuses_within (pods : List (String × Pod)) :
    (writeStatuses pods).Within Desk.Pushes Call.WritesStatus d := by
  induction pods generalizing d with
  | nil => trivial
  | cons entry rest ih =>
    refine within_state_bind.2 fun e => ?_
    dsimp only
    split
    · exact ih
    · refine within_request_bind.2 ⟨trivial, fun answer e => ?_⟩
      split
      · exact within_update_bind.2 fun _ => ⟨⟨rfl, rfl, rfl⟩, ih⟩
      · exact within_update_bind.2 fun _ => ⟨⟨rfl, rfl, rfl⟩, ih⟩

/-- To write all statuses that are due makes no other calls, and touches at most what was written
last. -/
theorem pushStatuses_within : pushStatuses.Within Desk.Pushes Call.WritesStatus d :=
  within_state_bind.2 fun d => writeStatuses_within d.ledger.pods.entries

/-! ## Passes and subscriptions -/

/-- Nothing is done that tells whether the subscriptions are up to date. -/
abbrev Unlinked {α : Type} (task : Activity α) (d : Desk) : Prop :=
  task.Within (fun d e => e.link = d.link) (fun _ => True) d

/-- What is beside subscriptions and statuses does nothing about subscriptions. -/
theorem unlinked_of_beside {α : Type} {task : Activity α} {Q : Call → Prop}
    (within : task.Within Desk.Beside Q d) : Unlinked task d :=
  within_mono within (fun _ _ => And.left) fun _ _ => trivial

/-- What tours some claims does nothing about subscriptions. -/
theorem unlinked_of_tours {α : Type} {task : Activity α} {touched forgotten : List String}
    (within : task.Within (Desk.Tours touched forgotten) (¬ Call.WritesStatus ·) d) :
    Unlinked task d :=
  within_mono within (fun _ _ => Desk.Tours.link) fun _ _ => trivial

/-- The writing of statuses does nothing about subscriptions. -/
theorem pushStatuses_unlinked : Unlinked pushStatuses d :=
  within_mono pushStatuses_within (fun _ _ => Desk.Pushes.link) fun _ _ => trivial

/-- What a pass does after its listing does nothing about subscriptions. -/
theorem followListing_unlinked (listing : List Pod) : Unlinked (followListing listing) d := by
  refine within_bind (unlinked_of_tours (visitPods_within listing listing _)) fun live e => ?_
  refine within_state_bind.2 fun e => ?_
  refine within_bind (unlinked_of_tours (releaseVanished_within listing _)) fun _ e => ?_
  exact within_update_bind.2 fun _ => ⟨rfl, pushStatuses_unlinked⟩

end VirtualNode.Controller
