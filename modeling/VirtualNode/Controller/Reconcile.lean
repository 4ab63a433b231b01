import VirtualNode.Controller.Subscriptions

/-!
# Passes over the pods

In a pass the controller lists the pods of its node and brings the modules of the base in line
with them: it installs what a pod wants and nobody has installed, and uninstalls what no pod
wants or holds any more.  A module is held on behalf of pods, its claims; a command that cannot
be delivered is tried again in the next pass.  At the end of a pass, and whenever the state of a
module has changed, the status of every pod whose status has changed is written.
-/

set_option autoImplicit false

namespace VirtualNode.Controller

open Activity Biz Kube

/-! ## Who wants and who holds a module -/

/-- Whether a pod other than `key` that is not being deleted wants the module. -/
def wantedElsewhere (listing : List Pod) (key : String) (d : Descriptor) : Bool :=
  listing.any fun pod => !pod.isTerminating && pod.key ≠ key
    && pod.descriptors.any fun e => e.identity = d.identity

/-- Whether the module is held on behalf of a pod other than `key`. -/
def Ledger.heldElsewhere (ledger : Ledger) (key : String) (d : Descriptor) : Bool :=
  ledger.claims.entries.any fun e => e.1 ≠ key && e.2.any fun held => held.same d

/-- Whether the base already reports the module. -/
def Inbox.alreadyThere (inbox : Inbox) (d : Descriptor) : Bool :=
  match inbox.sightings.get? d.identity with
  | none => false
  | some seen => seen.report.state ≠ .deactivated

/-- The modules that are held on behalf of a pod. -/
def Ledger.claimsOf (ledger : Ledger) (key : String) : List Descriptor :=
  (ledger.claims.get? key).getD []

/-- Takes out the claims of a pod. -/
def Ledger.dropClaims (ledger : Ledger) (key : String) : Ledger :=
  { ledger with claims := ledger.claims.erase key }

/-- Sets the claims of a pod, if there are any. -/
def Ledger.setClaims (ledger : Ledger) (key : String) (held : List Descriptor) : Ledger :=
  if held.isEmpty then ledger
  else { ledger with claims := ledger.claims.insert key held }

/-- Forgets the status that was written last for a pod. -/
def Ledger.forgetStatus (ledger : Ledger) (key : String) : Ledger :=
  { ledger with written := ledger.written.erase key }

/-! ## Commands -/

/-- Publishes a command about a module on behalf of a pod, and says whether it was delivered. -/
def publishCommand (verb : Verb) (key : String) (d : Descriptor) : Activity Bool := do
  let outcome ← call (.command verb key d)
  change (·.noteTransport outcome)
  match outcome with
  | .ok () =>
    change fun desk => (desk.measure (·.addCommand verb.text)).log
      (.commandPublished verb.text key d.identity)
    return true
  | .error _ =>
    change (·.measure (·.addTransportFailure verb.text))
    return false

/-- Gives up the claim of a pod on a module.  The module is uninstalled unless another pod wants
or holds it.  The answer says whether the claim is gone. -/
def release (listing : List Pod) (key : String) (d : Descriptor) : Activity Bool := do
  let state ← desk
  if wantedElsewhere listing key d || state.ledger.heldElsewhere key d then return true
  else
    let delivered ← publishCommand .uninstall key d
    if delivered then
      change fun desk => { desk with sightings := desk.sightings.remove d.identity }
    return delivered

/-- Takes up the claim of a pod on a module.  The module is installed unless the base reports it
or another pod holds it.  The answer says whether the claim stands. -/
def acquire (key : String) (d : Descriptor) : Activity Bool := do
  let state ← desk
  if state.alreadyThere d || state.ledger.heldElsewhere key d then return true
  else publishCommand .install key d

/-- Keeps a claim if it is desired and releases it else.  The answer says whether it still stands,
which it also does if it could not be released. -/
def retain (listing : List Pod) (key : String) (desired : List Descriptor) (d : Descriptor) :
    Activity Bool := do
  if desired.any (·.same d) then return true
  else
    let gone ← release listing key d
    return !gone

/-- Releases those modules that are not desired.  The answer are the modules that are still held,
those that could not be released among them. -/
def releaseUndesired (listing : List Pod) (key : String) (desired : List Descriptor) :
    List Descriptor → Activity (List Descriptor)
  | [] => return []
  | d :: rest => do
    let kept ← retain listing key desired d
    let held ← releaseUndesired listing key desired rest
    return if kept then d :: held else held

/-- Acquires those desired modules that are not held.  The answer are the modules held then. -/
def acquireMissing (key : String) (held : List Descriptor) :
    List Descriptor → Activity (List Descriptor)
  | [] => return held
  | d :: rest => do
    if held.any (·.same d) then acquireMissing key held rest
    else
      let stands ← acquire key d
      acquireMissing key (if stands then held ++ [d] else held) rest

/-- Brings the claims of a pod in line with its containers. -/
def syncPod (listing : List Pod) (pod : Pod) : Activity Unit := do
  let state ← desk
  let previous := state.ledger.claimsOf pod.key
  change (·.updateLedger (·.dropClaims pod.key))
  let held ← releaseUndesired listing pod.key pod.descriptors previous
  let held ← acquireMissing pod.key held pod.descriptors
  change (·.updateLedger (·.setClaims pod.key held))

/-- Releases all claims of a pod.  The answer says whether none is left. -/
def releaseAll (listing : List Pod) (key : String) : Activity Bool := do
  let state ← desk
  let previous := state.ledger.claimsOf key
  change (·.updateLedger (·.dropClaims key))
  let held ← releaseUndesired listing key [] previous
  change (·.updateLedger (·.setClaims key held))
  return held.isEmpty

/-! ## Pods -/

/-- Removes a pod from the cluster.  If that fails the next pass will try again. -/
def deletePod (pod : Pod) : Activity Unit := do
  let _ ← call (.deletePod pod.addressSpace pod.addressName)
  return ()

/-- Lets go of a pod that is being deleted. -/
def dismissPod (listing : List Pod) (pod : Pod) : Activity Unit := do
  change (·.updateLedger (·.forgetStatus pod.key))
  let released ← releaseAll listing pod.key
  if released then deletePod pod

/-- Goes through the pods of a listing.  The answer are the pods that are not being deleted. -/
def visitPods (listing : List Pod) : List Pod → Table String Pod → Activity (Table String Pod)
  | [], live => return live
  | pod :: rest, live => do
    if pod.isTerminating then
      dismissPod listing pod
      visitPods listing rest live
    else
      syncPod listing pod
      visitPods listing rest (live.insert pod.key pod)

/-- Lets go of pods that have claims but are not there any more. -/
def releaseVanished (listing : List Pod) : List String → Activity Unit
  | [] => return ()
  | key :: rest => do
    change (·.updateLedger (·.forgetStatus key))
    let _ ← releaseAll listing key
    releaseVanished listing rest

/-! ## Statuses -/

/-- The status of a pod, as what was last seen of its modules has it. -/
def Desk.statusOf (d : Desk) (pod : Pod) : PodStatus :=
  let statuses := pod.descriptors.map fun module =>
    let seen := d.sightings.get? module.identity
    ContainerStatus.ofReport module (seen.map Sighting.report)
      ((seen.map Sighting.since).getD d.now)
  .derive pod statuses d.settings.base.nodeIp

/-- Writes the statuses of pods that differ from those written last. -/
def writeStatuses : List (String × Pod) → Activity Unit
  | [] => return ()
  | (key, pod) :: rest => do
    let d ← desk
    let status := d.statusOf pod
    if d.ledger.written.get? key = some status then writeStatuses rest
    else
      let c : Call := .reportPod pod.addressSpace pod.addressName status
      let answer ← call (.reportPod pod.addressSpace pod.addressName status)
      match bounded c.what d.settings.operationTimeout answer with
      | .ok () =>
        change (·.updateLedger fun l => { l with written := l.written.insert key status })
      | .error e => change (·.noteDegraded Watch.Health.cluster e.message)
      writeStatuses rest

/-- Writes the statuses of the pods of the last listing. -/
def pushStatuses : Activity Unit := do
  let d ← desk
  writeStatuses d.ledger.pods.entries

/-! ## The pass -/

/-- The fault with which a run ends after too many listings have failed. -/
def listingFault (e : Fault) : Fault :=
  match e with
  | .clusterAccess _ => e
  | e => .clusterAccess e.message

/-- Notes that a listing failed, which ends the run after too many failures in a row. -/
def Desk.listingFailed (d : Desk) (e : Fault) : Desk :=
  let failed := d.ledger.failedListings + 1
  let d := d.updateLedger fun l => { l with failedListings := failed }
  if d.settings.maxClusterFailures ≤ failed then
    (d.noteUnhealthy Watch.Health.cluster e.message).fail (listingFault e)
  else d.noteDegraded Watch.Health.cluster e.message

/-- Notes that a listing worked. -/
def Desk.listingSucceeded (d : Desk) (pods : Nat) : Desk :=
  ((d.updateLedger fun l => { l with failedListings := 0 }).noteHealthy
    Watch.Health.cluster).measure (·.setPodsManaged pods)

/-- Brings the modules of the base in line with a listing. -/
def followListing (listing : List Pod) : Activity Unit := do
  let live ← visitPods listing listing Table.empty
  let state ← desk
  releaseVanished listing (state.ledger.claims.keys.filter fun key => !live.contains key)
  change (·.updateLedger fun l => { l with pods := live })
  pushStatuses

/-- The seconds between two readings of the clock. -/
def secondsBetween (started ended : Nat) : Float :=
  (ended - started).toFloat / 1000

/-- One pass. -/
def reconcile : Activity Unit := do
  let started := (← desk).clock
  ensureSubscribed
  let answer ← call .listPods
  let limit := (← desk).settings.operationTimeout
  match bounded Call.listPods.what limit answer with
  | .error e => change (·.listingFailed e)
  | .ok listing =>
    change (·.listingSucceeded listing.length)
    followListing listing
    change fun d => d.measure (·.observeLatency (secondsBetween started d.clock))

end VirtualNode.Controller
