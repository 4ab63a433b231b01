import VirtualNode.Proofs.Ledger.Fixpoint
import VirtualNode.Proofs.Statuses.Returns

/-!
# Repeating a pass

A status that is written comes back with the next listing: the cluster stores the start time, in
whole seconds, and the controller keeps the start time that a pod is listed with.  The times that
the controller takes from reports are cut to whole seconds, so they come back as they were.  Only a
start time that is listed with a fraction of a second comes back as another one
(`Desk.statusOf_stored_iff`).

So if all that a pass has asked for was done, and nobody has reported on modules since it began to
push statuses (`Round.EndsCalmly`), then further pushes do nothing.  The pass that follows over what
the cluster stores of the listing (`Relisted`) publishes no command and leaves the claims and what
was seen of modules as they are, and writes just the statuses of the pods whose start time was
listed with a fraction of a second (`repeated_pass_quiet`).
-/

set_option autoImplicit false

/-! ## Start times -/

namespace VirtualNode.Kube

/-- Whether a point in time has no fraction of a second. -/
abbrev Whole (t : Option Time.Stamp) : Prop := t.map Time.Stamp.truncate = t

namespace ContainerStatus

/-- The start of a container is in whole seconds. -/
theorem truncate_startedAt {d : Biz.Descriptor} {report : Option Biz.Report}
    {since t : Time.Stamp} (started : (ofReport d report since).startedAt = some t) :
    t.truncate = t := by
  simp only [startedAt, ofReport, Option.bind_some] at started
  unfold stateOf at started
  split at started
  · cases started
  · cases started
  · obtain rfl : since.truncate = t := Option.some.inj started
    exact since.truncate_truncate
  · cases started
  · cases started

end ContainerStatus

namespace PodStatus

/-- The earlier of two times in whole seconds is one. -/
theorem whole_earlier {t : Option Time.Stamp} {u : Time.Stamp} (whole : Whole t)
    (cut : u.truncate = u) : Whole (earlier t u) := by
  cases t with
  | none => exact congrArg some cut
  | some t =>
    unfold earlier
    dsimp only
    split
    · exact congrArg some cut
    · exact whole

/-- The earliest of times in whole seconds is one. -/
theorem whole_foldl_earlier {times : List Time.Stamp} {t : Option Time.Stamp} (whole : Whole t)
    (cut : ∀ u ∈ times, u.truncate = u) : Whole (times.foldl earlier t) := by
  induction times generalizing t with
  | nil => exact whole
  | cons u times ih =>
    rw [List.forall_mem_cons] at cut
    exact ih (whole_earlier whole cut.1) cut.2

/-- The start time of a pod that is taken from the reports about its modules is whole. -/
theorem whole_earliestStart {statuses : List ContainerStatus}
    (reported : ∀ s ∈ statuses, ∃ d report since, s = .ofReport d report since) :
    Whole (earliestStart statuses) := by
  refine whole_foldl_earlier rfl fun u mem => ?_
  obtain ⟨s, here, started⟩ := List.mem_filterMap.1 mem
  obtain ⟨d, report, since, rfl⟩ := reported s here
  exact ContainerStatus.truncate_startedAt started

end PodStatus

namespace Pod

/-- The pod as the cluster stores it with a status. -/
def stored (pod : Pod) (status : PodStatus) : Pod :=
  { pod with startTime := status.startTime.map Time.Stamp.truncate }

/-- Whether the start time with which the pod is listed has no fraction of a second. -/
def StartsWhole (pod : Pod) : Prop := Whole pod.startTime

instance (pod : Pod) : Decidable pod.StartsWhole := inferInstanceAs (Decidable (_ = _))

/-- A pod that was given a status has the key that it had. -/
@[simp]
theorem stored_key (pod : Pod) (status : PodStatus) : (pod.stored status).key = pod.key := rfl

/-- A pod that was given a status wants what it wanted. -/
theorem stored_wants {pod : Pod} {status : PodStatus} {d : Biz.Descriptor} :
    (pod.stored status).Wants d ↔ pod.Wants d := Iff.rfl

end Pod

end VirtualNode.Kube

namespace VirtualNode.Controller

open Biz (Descriptor)
open Dialogue (Course)
open Dialogue.Course (bind_iff done_iff)
open Kube (Pod PodStatus ContainerStatus)

variable {listing again : List Pod} {d e s : Desk} {r q : Round} {key : String}

/-- The statuses of the containers of a pod, as what was last seen of its modules has it. -/
def Desk.containersOf (d : Desk) (pod : Pod) : List ContainerStatus :=
  pod.descriptors.map fun module =>
    let seen := d.sightings.get? module.identity
    .ofReport module (seen.map Biz.Sighting.report) ((seen.map Biz.Sighting.since).getD d.now)

/-- The status of a pod is derived from its containers as the desk sees them. -/
theorem Desk.statusOf_eq (d : Desk) (pod : Pod) :
    d.statusOf pod = .derive pod (d.containersOf pod) d.settings.base.nodeIp := rfl

/-- The containers of a pod do not depend on its status. -/
theorem Desk.containersOf_stored (d : Desk) (pod : Pod) (status : PodStatus) :
    d.containersOf (pod.stored status) = d.containersOf pod := rfl

/-- The earliest start of the containers of a pod is in whole seconds. -/
theorem Desk.whole_containersOf (d : Desk) (pod : Pod) :
    Kube.Whole (PodStatus.earliestStart (d.containersOf pod)) := by
  refine PodStatus.whole_earliestStart fun status mem => ?_
  obtain ⟨module, -, rfl⟩ := List.mem_map.1 mem
  exact ⟨_, _, _, rfl⟩

/-- The status of a pod is the same when the cluster has stored it, unless the start time was listed
with a fraction of a second. -/
theorem Desk.statusOf_stored_iff {pod : Pod} :
    d.statusOf (pod.stored (d.statusOf pod)) = d.statusOf pod ↔ pod.StartsWhole := by
  have whole := d.whole_containersOf pod
  rw [statusOf_eq, containersOf_stored, statusOf_eq]
  simp only [PodStatus.derive, PodStatus.mk.injEq, true_and, and_true, Pod.stored, Pod.StartsWhole]
  cases pod.startTime with
  | some t => simp
  | none =>
    cases start : PodStatus.earliestStart (d.containersOf pod) with
    | none => simp
    | some t =>
      rw [start] at whole
      simpa using whole

/-! ## What the cluster stores -/

/-- A listing of what the cluster stores of the pods of another listing, when the statuses have been
written that a desk gives to them.  Of the pods that are being deleted some may be there no more. -/
structure Relisted (d : Desk) (listing again : List Pod) : Prop where
  distinct : Distinct again
  living : ∀ pod ∈ listing, pod.isTerminating = false → pod.stored (d.statusOf pod) ∈ again
  only : ∀ pod ∈ again, (∃ was ∈ listing, was.isTerminating = false ∧
    pod = was.stored (d.statusOf was)) ∨ (pod.isTerminating = true ∧ pod.key ∈ dying listing)

/-- A key that is being deleted has no other pod. -/
theorem Distinct.gone (distinct : Distinct listing) (dies : key ∈ dying listing) :
    Gone listing key := by
  obtain ⟨pod, mem, rfl⟩ := List.mem_map.1 dies
  obtain ⟨here, terminating⟩ := List.mem_filter.1 mem
  intro other mem' alive is
  rw [distinct.eq_of_key mem' here is, terminating] at alive
  cases alive

namespace Relisted

variable (relisted : Relisted d listing again)

include relisted

/-- A pod that is listed again and not being deleted is one that was listed before. -/
theorem origin {pod : Pod} (mem : pod ∈ again) (alive : pod.isTerminating = false) :
    ∃ was ∈ listing, was.isTerminating = false ∧ pod = was.stored (d.statusOf was) := by
  refine (relisted.only pod mem).resolve_right ?_
  rintro ⟨terminating, -⟩
  cases alive.symm.trans terminating

/-- What is wanted is the same when the pods are listed again. -/
theorem wantedBy_iff {module : Descriptor} :
    WantedBy again key module ↔ WantedBy listing key module := by
  constructor
  · rintro ⟨pod, mem, is, wants⟩
    obtain ⟨was, here, -, rfl⟩ := relisted.origin mem wants.1
    exact ⟨was, here, is, Pod.stored_wants.1 wants⟩
  · rintro ⟨pod, mem, is, wants⟩
    exact ⟨_, relisted.living pod mem wants.1, is, Pod.stored_wants.2 wants⟩

/-- When the pods are listed again, no others are being deleted. -/
theorem dying_subset (dies : key ∈ dying again) : key ∈ dying listing := by
  obtain ⟨pod, mem, rfl⟩ := List.mem_map.1 dies
  obtain ⟨here, terminating⟩ := List.mem_filter.1 mem
  rcases relisted.only pod here with ⟨was, -, alive, rfl⟩ | ⟨-, dies⟩
  · cases alive.symm.trans terminating
  · exact dies

/-- Claims in line are so when the pods are listed again. -/
theorem inLine (inLine : e.InLine listing) : e.InLine again :=
  ⟨fun _ _ => (inLine.holds _ _).trans relisted.wantedBy_iff.symm, inLine.occupied⟩

end Relisted

/-! ## Statuses that are up to date -/

/-- Whether all writes of statuses in a record have worked. -/
def AllWritten (record : List Moment) : Prop :=
  ∀ moment ∈ record, ∀ write ∈ moment.statusWrite?, write.worked = true

instance (record : List Moment) : Decidable (AllWritten record) :=
  inferInstanceAs (Decidable (∀ moment ∈ record, ∀ write ∈ moment.statusWrite?, _))

/-- The cached pods are those of the listing that are not being deleted.  Their last statuses are
the ones that they have now, and those of pods that are being deleted have been forgotten. -/
structure Desk.Current (listing : List Pod) (d : Desk) : Prop where
  cached : ∀ key pod, d.ledger.pods.get? key = some pod →
    pod ∈ listing ∧ pod.isTerminating = false ∧ pod.key = key
  living : ∀ pod ∈ listing, pod.isTerminating = false →
    d.ledger.written.get? pod.key = some (d.statusOf pod)
  dying : ∀ key ∈ dying listing, d.ledger.written.get? key = none

/-- With distinct keys the cache has every pod that is not being deleted. -/
theorem Refreshed.get?_listed (refreshed : Refreshed listing d s) (distinct : Distinct listing)
    {pod : Pod} (mem : pod ∈ listing) (alive : pod.isTerminating = false) :
    s.ledger.pods.get? pod.key = some pod := by
  cases cached : s.ledger.pods.get? pod.key with
  | none => exact absurd rfl (refreshed.covers _ cached pod mem alive)
  | some other =>
    obtain ⟨mem', -, is⟩ := refreshed.cached _ other cached
    rw [distinct.eq_of_key mem' mem is]

/-- A pass over a listing in which nobody reports on modules once statuses are being pushed. -/
def Round.EndsCalmly (r : Round) : Prop :=
  r.task = .pass ∧ ∃ started s early late, r.record = early ++ late ∧
    Course (Desk.Aside False) prepare r.before early (some started) s ∧
    Course (Desk.Aside True) (conclude started) s late () r.after

/-- A round that ends calmly goes. -/
theorem Round.EndsCalmly.goes (calm : r.EndsCalmly) : r.Goes False := by
  obtain ⟨pass, started, s, early, late, record, prepared, concluded⟩ := calm
  rw [Round.Goes, pass, Task.activity, reconcile_eq_prepare, record]
  exact bind_iff.2 ⟨early, some started, s, late, rfl, prepared,
    concluded.mono fun _ _ => Desk.Aside.anyhow⟩

/-- A round during which nobody reports ends calmly. -/
theorem Round.Goes.endsCalmly (goes : r.Goes True) (listed : r.listing? = some listing) :
    r.EndsCalmly := by
  obtain ⟨task, before, record, after⟩ := r
  cases task with
  | push =>
    have idle := (pushStatuses_course goes).1
    cases (Round.listing?_of_idle idle).symm.trans listed
  | pass =>
    rw [Round.Goes, Task.activity, reconcile_eq_prepare] at goes
    obtain ⟨early, started, s, late, rfl, prepared, concluded⟩ := bind_iff.1 goes
    obtain ⟨-, ⟨rfl, unlisted, -⟩ | ⟨begun, _, rfl, -⟩⟩ := prepare_refreshed prepared
    · obtain ⟨rfl, -⟩ := done_iff.1 concluded
      rw [Round.listing?, List.append_nil, unlisted] at listed
      cases listed
    · exact ⟨rfl, begun, s, early, late, rfl, prepared.mono fun _ _ => Desk.Aside.anyhow,
        concluded⟩

/-- Such a pass in which all writes work leaves current statuses. -/
theorem Round.EndsCalmly.current (calm : r.EndsCalmly) (listed : r.listing? = some listing)
    (distinct : Distinct listing) (written : AllWritten r.record) : r.after.Current listing := by
  obtain ⟨-, started, s, early, late, record, prepared, concluded⟩ := calm
  obtain ⟨-, ⟨⟨⟩, -⟩ | ⟨-, listing', -, listed', refreshed⟩⟩ := prepare_refreshed prepared
  obtain rfl : listing' = listing := by
    rw [Round.listing?, record, List.findSome?_append, listed'] at listed
    exact Option.some.inj listed
  obtain ⟨entries, cached, pushed⟩ := conclude_pushed concluded
  refine ⟨?_, ?_, ?_⟩
  · simpa only [pushed.pods] using refreshed.cached
  · intro pod mem alive
    have here := (cached _ _).2 (refreshed.get?_listed distinct mem alive)
    obtain ⟨u, alike, treated⟩ := pushed.treated (pod.key, pod) here
    have worked : AllWritten late := fun moment mem => written moment (by simp [record, mem])
    rw [treated.written worked, alike trivial, pushed.alike trivial]
  · intro key dies
    rw [pushed.kept_uncached cached (refreshed.uncached (distinct.gone dies))]
    exact refreshed.forgotten key (.inl dies)

/-- A pass that follows forgets no status that is current. -/
theorem Refreshed.written_same (refreshed : Refreshed again d s) (inLine : d.InLine again)
    (forgotten : ∀ key ∈ dying again, d.ledger.written.get? key = none) (key : String) :
    s.ledger.written.get? key = d.ledger.written.get? key := by
  by_cases forgets : d.Forgets again key
  · rw [refreshed.forgotten key forgets]
    rcases forgets with dies | ⟨gone, held⟩
    · exact (forgotten key dies).symm
    · exact absurd (inLine.unclaimed gone) held
  · exact refreshed.kept key forgets

/-! ## What comes between -/

/-- Nothing is different that a pass goes by. -/
structure Desk.Rests (d e : Desk) : Prop extends Desk.Keeps True d e, Desk.Steady True d e

/-- The desk rests while the others do nothing about modules. -/
theorem Desk.Rests.of_aside (meanwhile : Desk.Aside True d e) : d.Rests e :=
  ⟨.of_aside meanwhile, meanwhile.steady⟩

/-- What rests stays so. -/
theorem Desk.Rests.trans (first : d.Rests e) (second : e.Rests s) : d.Rests s :=
  ⟨first.toKeeps.trans second.toKeeps, first.toSteady.trans second.toSteady⟩

/-- While statuses are current and nobody reports on modules a push writes nothing. -/
theorem Round.Goes.rests (goes : r.Goes True) (push : r.task = .push)
    (current : d.Current listing) (rests : d.Rests r.before) :
    (∀ moment ∈ r.record, moment.command? = none ∧ moment.statusWrite? = none) ∧
      d.Rests r.after := by
  obtain ⟨task, before, record, after⟩ := r
  subst push
  obtain ⟨entries, cached, pushed⟩ := pushStatuses_pushed goes
  -- an entry of the cache is a pod of the listing, with a last status that is current
  have last {entry : String × Pod} (mem : entry ∈ entries) {u : Desk} (turn : before.Alike True u) :
      before.ledger.written.get? entry.1 = some (u.statusOf entry.2) := by
    obtain ⟨key, pod⟩ := entry
    obtain ⟨here, alive, rfl⟩ := current.cached key pod <| by
      rw [← rests.pods]
      exact (cached key pod).1 mem
    rw [rests.written, current.living pod here alive, (rests.alike.trans turn) trivial]
  refine ⟨fun moment mem => ⟨((pushStatuses_course goes).1 moment mem).1, ?_⟩, ?_⟩
  · rw [Option.eq_none_iff_forall_not_mem]
    intro write is
    obtain ⟨entry, here, -, turn, due⟩ := pushed.sound moment mem write is
    exact due (last here turn)
  · refine rests.trans ⟨(pushStatuses_quiet goes).keeps, pushed.pods, fun key => ?_, pushed.alike⟩
    by_cases here : key ∈ entries.map Prod.fst
    · obtain ⟨entry, mem, rfl⟩ := List.mem_map.1 here
      obtain ⟨u, turn, treated⟩ := pushed.treated entry mem
      cases treated with
      | same _ kept => exact kept
      | tried due => exact absurd (last mem turn) due
    · exact pushed.kept key here

/-- Pushes of statuses one after the other, while nobody reports on modules. -/
def Pushes : Desk → List Round → Desk → Prop
  | d, [], e => Desk.Aside True d e
  | d, p :: rest, e =>
    Desk.Aside True d p.before ∧ p.task = .push ∧ p.Goes True ∧ Pushes p.after rest e

/-- With all statuses current the looks at them publish and write nothing. -/
theorem Pushes.rest {pushes : List Round} (meanwhile : Pushes e pushes s)
    (current : d.Current listing) (rests : d.Rests e) :
    (∀ p ∈ pushes, ∀ moment ∈ p.record, moment.command? = none ∧ moment.statusWrite? = none) ∧
      d.Rests s := by
  induction pushes generalizing e with
  | nil => exact ⟨by simp, rests.trans (.of_aside meanwhile)⟩
  | cons p pushes ih =>
    obtain ⟨aside, push, goes, later⟩ := meanwhile
    obtain ⟨silent, rests⟩ := goes.rests push current (rests.trans (.of_aside aside))
    obtain ⟨silent_later, rests⟩ := ih later rests
    exact ⟨List.forall_mem_cons.2 ⟨silent, silent_later⟩, rests⟩

/-! ## The pass that follows -/

/-- A round does not touch the settings. -/
theorem Round.Goes.settings {still : Prop} (goes : r.Goes still) :
    r.after.settings = r.before.settings := by
  have within : r.task.activity.Within Desk.SamePulse (fun _ => True) r.before := by
    cases r.task with
    | pass => exact reconcile_same_pulse
    | push => exact samePulse_of_detached pushStatuses_detached
  exact (goes.within within (P := fun d => d.settings = r.before.settings)
    (fun _ _ meanwhile same => meanwhile.settings.trans same)
    (fun _ _ pulse same => (congrArg Pulse.settings pulse).trans same) rfl).1

/-- A round that repeats the one that left a desk: it publishes no command and leaves the claims and
what was seen of modules as they are.  It writes just the statuses of the pods whose start time was
listed with a fraction of a second, and all other statuses stay the last ones. -/
structure Repeats (listing : List Pod) (d : Desk) (q : Round) : Prop where
  silent : ∀ moment ∈ q.record, moment.command? = none
  claims : ∀ key, q.after.ledger.claims.get? key = d.ledger.claims.get? key
  sightings : ∀ identity, q.after.sightings.get? identity = d.sightings.get? identity
  sound : ∀ moment ∈ q.record, ∀ write ∈ moment.statusWrite?, ∃ pod ∈ listing,
    pod.isTerminating = false ∧ ¬ pod.StartsWhole ∧ write.Addresses pod
  complete : ∀ pod ∈ listing, pod.isTerminating = false → ¬ pod.StartsWhole → q.Writes pod
  written : ∀ key, (∀ pod ∈ listing, pod.isTerminating = false → pod.key = key →
    pod.StartsWhole) → q.after.ledger.written.get? key = d.ledger.written.get? key

/-- Of a pod that is listed as it is stored, the current status is due again just if its start time
had a fraction of a second. -/
theorem Desk.Current.due_iff (current : d.Current listing)
    (last : ∀ key, s.ledger.written.get? key = d.ledger.written.get? key) (alike : d.Alike True e)
    {pod : Pod} (mem : pod ∈ listing) (alive : pod.isTerminating = false) :
    s.ledger.written.get? (pod.stored (d.statusOf pod)).key ≠
      some (e.statusOf (pod.stored (d.statusOf pod))) ↔ ¬ pod.StartsWhole := by
  rw [last, Pod.stored_key, current.living pod mem alive, alike trivial, Ne, Option.some_inj,
    eq_comm, Desk.statusOf_stored_iff]

namespace Round.Goes

/-- When a pass over what the cluster stores comes to push, pods have the statuses that they had
before it, and the same statuses were written last. -/
theorem resumes (goes : q.Goes True) (listed : q.listing? = some again)
    (rests : d.Rests q.before) (inLine : q.before.InLine again)
    (idle : Desk.Keeps True q.before q.after) (current : d.Current listing)
    (relisted : Relisted d listing again) :
    ∃ s early late entries, q.record = early ++ late ∧
      (∀ moment ∈ early, moment.statusWrite? = none) ∧ Refreshed again q.before s ∧
      (∀ key pod, (key, pod) ∈ entries ↔ s.ledger.pods.get? key = some pod) ∧
      Pushed True entries s late q.after ∧ d.Alike True s ∧
      ∀ key, s.ledger.written.get? key = d.ledger.written.get? key := by
  obtain ⟨s, early, late, entries, record, unwritten, refreshed, cached, pushed⟩ :=
    goes.refreshed listed
  refine ⟨s, early, late, entries, record, unwritten, refreshed, cached, pushed, ?_, ?_⟩
  · -- what statuses depend on is the same up to the end of the pass, and since the push began
    have whole : q.before.Alike True q.after := fun _ =>
      statusOf_congr goes.settings fun identity => by
        simp [Inbox.view, idle.sightings trivial identity]
    intro _ pod
    rw [← pushed.alike trivial, (rests.alike.trans whole) trivial]
  · intro key
    refine (refreshed.written_same inLine (fun key dies => ?_) key).trans (rests.written key)
    exact (rests.written key).trans (current.dying key (relisted.dying_subset dies))

/-- A pass over what the cluster stores has nothing to do if the claims are in line with the listing
and the statuses are current, but for the start times. -/
theorem repeats (goes : q.Goes True) (listed : q.listing? = some again)
    (rests : d.Rests q.before) (inLine : d.InLine listing) (current : d.Current listing)
    (relisted : Relisted d listing again) : Repeats listing d q := by
  have inLine' : q.before.InLine again := relisted.inLine (inLine.keeps rests.toKeeps)
  obtain ⟨silent, idle⟩ := goes.idles_in_line listed relisted.distinct inLine'
  have keeps : Desk.Keeps True d q.after := rests.toKeeps.trans idle
  obtain ⟨s, early, late, entries, record, unwritten, refreshed, cached, pushed, alike, last⟩ :=
    goes.resumes listed rests inLine' idle current relisted
  have due {u : Desk} (turn : s.Alike True u) {pod : Pod} (mem : pod ∈ listing)
      (alive : pod.isTerminating = false) := current.due_iff last (alike.trans turn) mem alive
  refine ⟨silent, keeps.claims, keeps.sightings trivial, ?_, ?_, ?_⟩
  · intro moment mem write is
    rw [record, List.mem_append] at mem
    rcases mem with mem | mem
    · rw [unwritten moment mem] at is
      cases is
    · obtain ⟨⟨key, pod⟩, entry, addressed, turn, outdated⟩ := pushed.sound moment mem write is
      obtain ⟨mem', alive, rfl⟩ := refreshed.cached key pod ((cached key pod).1 entry)
      obtain ⟨was, here, alive', rfl⟩ := relisted.origin mem' alive
      exact ⟨was, here, alive', (due turn here alive').1 outdated, addressed⟩
  · intro pod mem alive cut
    have here := refreshed.get?_listed relisted.distinct (relisted.living pod mem alive) alive
    obtain ⟨u, turn, same | ⟨moment, mem', writes⟩⟩ :=
      pushed.complete _ ((cached _ _).2 here)
    · exact absurd same ((due turn mem alive).2 cut)
    · exact ⟨moment, by simp [record, mem'], writes⟩
  · intro key whole
    rw [← last key]
    cases here : s.ledger.pods.get? key with
    | none => exact pushed.kept_uncached cached here
    | some pod =>
      obtain ⟨u, turn, treated⟩ := pushed.treated (key, pod) ((cached key pod).2 here)
      obtain ⟨mem, alive, rfl⟩ := refreshed.cached key pod here
      obtain ⟨was, mem', alive', rfl⟩ := relisted.origin mem alive
      cases treated with
      | same _ kept => exact kept
      | tried outdated =>
        exact absurd (whole was mem' alive' rfl) ((due turn mem' alive').1 outdated)

end Round.Goes

/-- If nobody reports on modules once a pass in which everything works has begun to push statuses,
then a pass over what the cluster stores after it repeats that pass, and pushes between the two do
nothing at all. -/
theorem repeated_pass_quiet (calm : r.EndsCalmly) (listed : r.listing? = some listing)
    (distinct : Distinct listing) (delivered : ¬ Fails r.record) (written : AllWritten r.record)
    {pushes : List Round} (meanwhile : Pushes r.after pushes q.before) (goes : q.Goes True)
    (listed' : q.listing? = some again) (relisted : Relisted r.after listing again) :
    (∀ p ∈ pushes, ∀ moment ∈ p.record, moment.command? = none ∧ moment.statusWrite? = none) ∧
      Repeats listing r.after q := by
  have inLine : r.after.InLine listing := calm.goes.in_line listed distinct delivered
  have current : r.after.Current listing := calm.current listed distinct written
  obtain ⟨silent, rests⟩ := meanwhile.rest current (.of_aside (.refl True r.after))
  exact ⟨silent, goes.repeats listed' rests inLine current relisted⟩

/-- If no start time was listed with a fraction of a second, then no status is written at all. -/
theorem Repeats.quiet (repeats : Repeats listing d q)
    (whole : ∀ pod ∈ listing, pod.isTerminating = false → pod.StartsWhole) :
    (∀ moment ∈ q.record, moment.statusWrite? = none) ∧
      ∀ key, q.after.ledger.written.get? key = d.ledger.written.get? key := by
  refine ⟨fun moment mem => ?_, fun key => ?_⟩
  · rw [Option.eq_none_iff_forall_not_mem]
    intro write is
    obtain ⟨pod, here, alive, cut, -⟩ := repeats.sound moment mem write is
    exact cut (whole pod here alive)
  · exact repeats.written key fun pod here alive _ => whole pod here alive

/-- The cluster stores no fraction of a second. -/
theorem Relisted.startsWhole (relisted : Relisted d listing again) {pod : Pod} (mem : pod ∈ again)
    (alive : pod.isTerminating = false) : pod.StartsWhole := by
  obtain ⟨was, -, -, rfl⟩ := relisted.origin mem alive
  simp [Pod.StartsWhole, Kube.Whole, Pod.stored, Function.comp_def, Time.Stamp.truncate_truncate]

/-- So the repetition of a pass over what the cluster stores writes no status, whatever was listed
first. -/
theorem Relisted.quiet (relisted : Relisted d listing again) (repeats : Repeats again e q) :
    (∀ moment ∈ q.record, moment.statusWrite? = none) ∧
      ∀ key, q.after.ledger.written.get? key = e.ledger.written.get? key :=
  repeats.quiet fun _ mem alive => relisted.startsWhole mem alive

/-- A pod without modules that is listed with a start time. -/
def startedPod (name : String) (start : Time.Stamp) : Pod :=
  { podOf name [] with startTime := some start }

/-- A pod with a module, one that was started half a second after a whole one, and one that is being
deleted. -/
def timedListing : List Pod :=
  [podOf "p" ["m"], startedPod "q" ⟨0, 500000000⟩,
    { podOf "r" ["n"] with deletionTime := some default }]

/-- What the cluster stores of these pods, without the one that is being deleted. -/
def storedListing : List Pod := [podOf "p" ["m"], startedPod "q" ⟨0, 0⟩]

/-- A pass over these pods, a push, and a pass over what the cluster stores of them. -/
def repetition : List Round :=
  let r := Round.rehearsed .pass (obliging timedListing) (Desk.fresh default default)
  let p := Round.rehearsed .push (obliging []) r.after
  [r, p, .rehearsed .pass (obliging storedListing) p.after]

/-- The pass and the looks after it are a run. -/
theorem run_repetition : Run (Desk.fresh default default) repetition :=
  ⟨.refl False _, Round.goes_rehearsed False _ _ _, .refl False _, Round.goes_rehearsed False _ _ _,
    .refl False _, Round.goes_rehearsed False _ _ _, trivial⟩

/-- The pass ends calmly. -/
theorem calm_repetition : repetition[0].EndsCalmly :=
  (Round.goes_rehearsed True _ _ _).endsCalmly (show _ = some timedListing by decide)

/-- Between the passes the statuses are looked at once. -/
theorem pushes_repetition :
    Pushes repetition[0].after [repetition[1]] repetition[2].before :=
  ⟨.refl True _, rfl, Round.goes_rehearsed True _ _ _, .refl True _⟩

/-- The second listing has the pods of the first one, with the status that was written. -/
theorem relisted_storedListing : Relisted repetition[0].after timedListing storedListing :=
  ⟨by decide, by decide, by decide⟩

/-- The pod with the module is left alone, and the start time of the other one is written anew. -/
theorem repeated_pass_quiet_fraction :
    (¬ Fails repetition[0].record ∧ AllWritten repetition[0].record) ∧
      (∀ moment ∈ repetition[2].record, moment.command? = none) ∧
      repetition[2].after.ledger.written.get? "default/p" =
        repetition[0].after.ledger.written.get? "default/p" ∧
      repetition[2].Writes (startedPod "q" ⟨0, 500000000⟩) := by
  have delivered : ¬ Fails repetition[0].record := by decide
  have written : AllWritten repetition[0].record := by decide
  have goes : repetition[2].Goes True := Round.goes_rehearsed True _ _ _
  obtain ⟨-, repeats⟩ :=
    repeated_pass_quiet calm_repetition (show _ = some timedListing by decide) (by decide)
      delivered written pushes_repetition goes (by decide) relisted_storedListing
  exact ⟨⟨delivered, written⟩, repeats.silent, repeats.written "default/p" (by decide),
    repeats.complete (startedPod "q" ⟨0, 500000000⟩) (by decide) (by decide) (by decide)⟩

/-- So it is not true that from an empty ledger on a pass over what the cluster stores after a pass
in which everything worked writes no status. -/
theorem exists_rewritten :
    ¬ ∀ (first : Desk) (early pushes : List Round) (r q : Round) (listing again : List Pod),
      first.ledger = .empty → Run first (early ++ r :: (pushes ++ [q])) → r.EndsCalmly →
      Pushes r.after pushes q.before → q.Goes True → r.listing? = some listing →
      Distinct listing → ¬ Fails r.record → AllWritten r.record → q.listing? = some again →
      Relisted r.after listing again → ∀ moment ∈ q.record, moment.statusWrite? = none := by
  intro h
  have said := h _ [] [repetition[1]] repetition[0] repetition[2] timedListing storedListing rfl
    run_repetition calm_repetition pushes_repetition (Round.goes_rehearsed True _ _ _) (by decide)
    (by decide) (by decide) (by decide) (by decide) relisted_storedListing
  revert said
  decide

end VirtualNode.Controller
