import VirtualNode.Proofs.Statuses.Repetition

/-!
# What the status of a pod tells of its modules

The phase of a pod is computed from the states of its containers, and its conditions from whether
they are ready.  Both tell the same of what was last seen of the modules: a container runs, and is
ready, just if its module was seen activated, and it has ended just if its module was seen
deactivated (`ContainerStatus.Tells`, `PodStatus.Tells`).  In which order the containers stand
makes no difference to the pod as a whole (`Desk.statusOf_perm`), and the status that is written
of a pod is the one that it has when it is written (`Round.Goes.writes_statusOf`).

Main statement: `status_tells_sightings`.
-/

set_option autoImplicit false

/-! ## The earliest of some points in time -/

namespace VirtualNode.Time

variable {t u : Stamp}

/-- A time is earlier than another by its seconds, or else by its fraction. -/
theorem Stamp.earlierThan_iff : t.earlierThan u = true ↔
    t.seconds < u.seconds ∨ (t.seconds = u.seconds ∧ t.nanos < u.nanos) := by
  simp [earlierThan]

/-- A point in time of a kind than which no one of that kind is earlier. -/
def Earliest (kind : Stamp → Prop) (t : Stamp) : Prop :=
  kind t ∧ ∀ u, kind u → ¬ u.earlierThan t = true

namespace Earliest

variable {kind : Stamp → Prop}

/-- There is only one earliest time. -/
theorem unique (first : Earliest kind t) (first' : Earliest kind u) : t = u := by
  have le := first.2 u first'.1
  have ge := first'.2 t first.1
  rw [Stamp.earlierThan_iff] at le ge
  obtain ⟨seconds, nanos⟩ := t
  obtain ⟨seconds', nanos'⟩ := u
  simp only [Stamp.mk.injEq] at le ge ⊢
  omega

/-- The earlier one of the earliest point in time and another one is the earliest with it. -/
theorem insert (first : Earliest kind t) (u : Stamp) :
    Earliest (fun v => v = u ∨ kind v) (if u.earlierThan t = true then u else t) := by
  split
  · rename_i before
    refine ⟨.inl rfl, ?_⟩
    rintro v (rfl | other)
    · simp [Stamp.earlierThan_iff]
    · -- what is not earlier than the earliest one so far is not earlier than `u`
      have late := first.2 v other
      rw [Stamp.earlierThan_iff] at before late ⊢
      omega
  · rename_i before
    refine ⟨.inr first.1, ?_⟩
    rintro v (rfl | other)
    · exact before
    · exact first.2 v other

end Earliest

end VirtualNode.Time

namespace VirtualNode.Kube

open Time (Earliest Stamp)

namespace PodStatus

/-- A search that begins with an earliest time goes on to the earliest of all. -/
theorem foldl_earlier_some {m : Stamp} {kind : Stamp → Prop} (first : Earliest kind m)
    (times : List Stamp) : ∃ t, times.foldl earlier (some m) = some t ∧
      Earliest (fun u => u ∈ times ∨ kind u) t := by
  induction times generalizing m kind with
  | nil => exact ⟨m, rfl, by simpa using first⟩
  | cons u times ih =>
    obtain ⟨t, is, least⟩ := ih (first.insert u)
    refine ⟨t, is, ?_⟩
    simpa only [List.mem_cons, or_assoc, or_left_comm] using least

/-- The search among some times finds the earliest one. -/
theorem foldl_earlier_cons (m : Stamp) (times : List Stamp) :
    ∃ t, (m :: times).foldl earlier none = some t ∧ Earliest (· ∈ m :: times) t := by
  have single : Earliest (· = m) m := ⟨rfl, by simp [Stamp.earlierThan_iff]⟩
  obtain ⟨t, is, least⟩ := foldl_earlier_some single times
  refine ⟨t, is, ?_⟩
  simpa only [List.mem_cons, or_comm] using least

variable {statuses others : List ContainerStatus} {t : Stamp}

/-- Without a container that was started there is no earliest start. -/
theorem earliestStart_eq_none_iff :
    earliestStart statuses = none ↔ ∀ s ∈ statuses, s.startedAt = none := by
  rw [earliestStart, ← List.filterMap_eq_nil_iff]
  cases statuses.filterMap ContainerStatus.startedAt with
  | nil => simp
  | cons m times =>
    obtain ⟨t, is, -⟩ := foldl_earlier_cons m times
    simp [is]

/-- The start time of a pod is the earliest one of its running containers. -/
theorem earliestStart_eq_some_iff : earliestStart statuses = some t ↔
    Earliest (fun u => ∃ s ∈ statuses, s.startedAt = some u) t := by
  simp only [earliestStart, ← List.mem_filterMap]
  cases statuses.filterMap ContainerStatus.startedAt with
  | nil => simp [Earliest]
  | cons m times =>
    obtain ⟨first, is, least⟩ := foldl_earlier_cons m times
    rw [is, Option.some_inj]
    constructor
    · rintro rfl
      exact least
    · exact least.unique

/-! ## Phases and conditions -/

/-- The phase is the failed one just if some container has ended. -/
theorem phaseOf_eq_failed_iff :
    phaseOf statuses = "Failed" ↔ ∃ s ∈ statuses, s.isTerminated = true := by
  rw [← List.any_eq_true, phaseOf]
  split
  · simp [*]
  · split
    · simp [*]
    · simp [*]

/-- The phase is the running one just if none has ended and all there are run. -/
theorem phaseOf_eq_running_iff : phaseOf statuses = "Running" ↔
    (¬ ∃ s ∈ statuses, s.isTerminated = true) ∧
      statuses ≠ [] ∧ ∀ s ∈ statuses, s.isRunning = true := by
  rw [← List.any_eq_true, ← List.all_eq_true, phaseOf]
  split
  · simp [*]
  · split
    · simp_all
    · simp_all

/-- There are three phases. -/
theorem phaseOf_cases (statuses : List ContainerStatus) :
    phaseOf statuses = "Failed" ∨ phaseOf statuses = "Running" ∨ phaseOf statuses = "Pending" := by
  unfold phaseOf
  split
  · exact .inl rfl
  · split
    · exact .inr (.inl rfl)
    · exact .inr (.inr rfl)

/-- All are ready just if there are some, and each of them is. -/
theorem allReady_iff : allReady statuses = true ↔
    statuses ≠ [] ∧ ∀ s ∈ statuses, s.ready = true := by
  simp [allReady]

/-- Apart from the statuses of the containers themselves, their order makes no difference. -/
theorem derive_perm {pod pod' : Pod} (perm : statuses.Perm others)
    (start : pod'.startTime = pod.startTime) (nodeIp : String) :
    derive pod' others nodeIp =
      { derive pod statuses nodeIp with containerStatuses := some others } := by
  have phase : phaseOf others = phaseOf statuses := by
    simp only [phaseOf, perm.any_eq, perm.all_eq, perm.isEmpty_eq]
  have ready : allReady others = allReady statuses := by
    simp only [allReady, perm.all_eq, perm.isEmpty_eq]
  have earliest : earliestStart others = earliestStart statuses := by
    apply Option.ext
    intro t
    rw [earliestStart_eq_some_iff, earliestStart_eq_some_iff]
    simp only [perm.mem_iff]
  simp only [derive, phase, ready, earliest, start]

end PodStatus

/-! ## What was seen of the modules of a pod -/

/-- What was last seen of modules: the state of each and since when it has been in it. -/
abbrev View := String → Option (Biz.State × Stamp)

variable {view : View} {c : Container} {pod : Pod}

namespace Container

/-- Whether the module for which a container stands was last seen in a state. -/
def Seen (view : View) (c : Container) (state : Biz.State) : Prop :=
  (view c.descriptor.identity).map Prod.fst = some state

instance (view : View) (c : Container) (state : Biz.State) : Decidable (c.Seen view state) :=
  inferInstanceAs (Decidable (_ = _))

/-- A module was seen in a state if the view of its identity says so. -/
theorem seen_iff {state : Biz.State} : c.Seen view state ↔
    ∃ since, view c.descriptor.identity = some (state, since) := by
  simp [Seen, Option.map_eq_some_iff]

/-- A module is seen in one state at most. -/
theorem Seen.unique {s s' : Biz.State} (seen : c.Seen view s) (seen' : c.Seen view s') : s = s' :=
  Option.some.inj (seen.symm.trans seen')

end Container

namespace Pod

/-- Whether a pod has a container, and all its modules were last seen activated. -/
def AllActive (view : View) (pod : Pod) : Prop :=
  pod.containers ≠ [] ∧ ∀ c ∈ pod.containers, c.Seen view .activated

/-- Whether a module of a pod was last seen deactivated. -/
def SomeStopped (view : View) (pod : Pod) : Prop :=
  ∃ c ∈ pod.containers, c.Seen view .deactivated

instance (view : View) (pod : Pod) : Decidable (pod.AllActive view) :=
  inferInstanceAs (Decidable (_ ∧ _))

instance (view : View) (pod : Pod) : Decidable (pod.SomeStopped view) :=
  inferInstanceAs (Decidable (∃ c ∈ pod.containers, _))

/-- Whether a module of a pod was last seen activated, since a time that is this one when it is cut
to whole seconds. -/
def StartedAt (view : View) (pod : Pod) (t : Stamp) : Prop :=
  ∃ c ∈ pod.containers, ∃ since,
    view c.descriptor.identity = some (.activated, since) ∧ since.truncate = t

/-- Where all modules are active, none has stopped. -/
theorem AllActive.not_stopped (active : pod.AllActive view) : ¬ pod.SomeStopped view := by
  rintro ⟨c, mem, stopped⟩
  cases (active.2 c mem).unique stopped

end Pod

namespace ContainerStatus

def isWaiting (s : ContainerStatus) : Bool :=
  (s.state.bind ContainerState.waiting).isSome

def reason? (s : ContainerStatus) : Option String :=
  (s.state.bind ContainerState.waiting).bind Waiting.reason

/-- What the status of a container tells of its module. -/
structure Tells (s : ContainerStatus) (view : View) (c : Container) : Prop where
  name : s.name = c.name
  /-- The container waits, runs or has ended, and just one of these. -/
  single : [s.isWaiting, s.isRunning, s.isTerminated].count true = 1
  running : s.isRunning = true ↔ c.Seen view .activated
  ready : s.ready = true ↔ c.Seen view .activated
  started : s.started = some s.ready
  since : ∀ t, s.startedAt = some t ↔
    ∃ since, view c.descriptor.identity = some (.activated, since) ∧ since.truncate = t
  terminated : s.isTerminated = true ↔ c.Seen view .deactivated
  waiting : s.isWaiting = true ↔ ¬ c.Seen view .activated ∧ ¬ c.Seen view .deactivated
  unrecognised : ∀ raw, c.Seen view (.other raw) → s.reason? = some raw
  /-- A word that is reported and not recognised is such a state. -/
  verbatim : ∀ raw, Biz.State.known? (Biz.State.normal raw) = none →
    c.Seen view (.parse raw) → s.reason? = some raw

/-- A container has no start just if its module was not seen to be active. -/
theorem Tells.unstarted_iff {s : ContainerStatus} (tells : s.Tells view c) :
    s.startedAt = none ↔ ¬ c.Seen view .activated := by
  rw [Option.eq_none_iff_forall_ne_some, Container.seen_iff]
  simp [tells.since]

/-- A container runs in one state of its module, has ended in another one and waits in the rest. -/
theorem parts_stateOf (state : Option Biz.State) (t : Stamp) :
    (stateOf state t).running = (if state = some .activated then some ⟨some t⟩ else none) ∧
      ((stateOf state t).terminated.isSome = true ↔ state = some .deactivated) ∧
      ((stateOf state t).waiting.isSome = true ↔
        ¬ state = some .activated ∧ ¬ state = some .deactivated) := by
  rcases state with _ | (_ | _ | _ | raw)
  all_goals simp [stateOf, ContainerState.waits, ContainerState.runs, ContainerState.ended]

/-- A container is in one of three states. -/
theorem single_stateOf (state : Option Biz.State) (t : Stamp) :
    [(stateOf state t).waiting.isSome, (stateOf state t).running.isSome,
      (stateOf state t).terminated.isSome].count true = 1 := by
  rcases state with _ | (_ | _ | _ | raw)
  all_goals rfl

/-- The status of a container tells what was seen of its module, which may be nothing yet. -/
theorem tells_ofReport {report : Option Biz.Report} {since : Stamp}
    (seen : view c.descriptor.identity = report.map fun r => (r.state, since)) :
    (ofReport c.descriptor report since).Tells view c := by
  obtain ⟨runs, ended, waits⟩ := parts_stateOf (report.map Biz.Report.state) since.truncate
  have seen_iff (state : Biz.State) :
      c.Seen view state ↔ report.map Biz.Report.state = some state := by
    rw [Container.Seen, seen, Option.map_map]
    rfl
  have unrecognised {raw : String} (other : c.Seen view (.other raw)) :
      (ofReport c.descriptor report since).reason? = some raw := by
    rw [reason?, ofReport, (seen_iff _).1 other]
    rfl
  refine ⟨rfl, single_stateOf _ _, ?_, ?_, rfl, ?_, ?_, ?_, fun raw => unrecognised, ?_⟩
  · rw [seen_iff, isRunning, ofReport, Option.bind_some, runs]
    split
    · simp [*]
    · simp [*]
  · rw [seen_iff]
    exact decide_eq_true_iff
  · intro t
    rw [startedAt, ofReport, Option.bind_some, runs, seen]
    cases report with
    | none => simp
    | some r => by_cases active : r.state = .activated <;> simp [active]
  · rw [seen_iff]
    exact ended
  · rw [seen_iff, seen_iff]
    exact waits
  · intro raw unknown other
    rw [Biz.State.parse, unknown] at other
    exact unrecognised other

end ContainerStatus

namespace PodStatus

/-- What a pod is told by its conditions of a type. -/
def told (s : PodStatus) (type : String) : List String :=
  ((s.conditions.getD []).filter fun c => c.type = type).map PodCondition.status

/-- What the status of a pod tells of its modules. -/
structure Tells (s : PodStatus) (view : View) (pod : Pod) : Prop where
  containers : ∃ statuses, s.containerStatuses = some statuses ∧
    List.Forall₂ (fun c status => ContainerStatus.Tells status view c) pod.containers statuses
  running : s.phase = some "Running" ↔ pod.AllActive view
  failed : s.phase = some "Failed" ↔ pod.SomeStopped view
  pending : s.phase = some "Pending" ↔ ¬ pod.AllActive view ∧ ¬ pod.SomeStopped view
  ready : ∀ type ∈ ["Ready", "ContainersReady"],
    (s.told type = ["True"] ↔ pod.AllActive view) ∧
      (s.told type = ["False"] ↔ ¬ pod.AllActive view)
  kept : ∀ t, pod.startTime = some t → s.startTime = some t
  earliest : pod.startTime = none → ∀ t, s.startTime = some t ↔ Earliest (pod.StartedAt view) t
  unstarted : pod.startTime = none →
    (s.startTime = none ↔ ∀ c ∈ pod.containers, ¬ c.Seen view .activated)

variable {f : Container → ContainerStatus} {statuses : List ContainerStatus}

/-- Both conditions of readiness say whether all containers are ready. -/
theorem told_ready {type : String} (mem : type ∈ ["Ready", "ContainersReady"]) (nodeIp : String) :
    (derive pod statuses nodeIp).told type = [if allReady statuses then "True" else "False"] := by
  simp only [List.mem_cons, List.not_mem_nil, or_false] at mem
  rcases mem with rfl | rfl
  · rfl
  · rfl

/-- A status that is derived from containers which tell of the view tells of it as well. -/
theorem tells_derive (tells : ∀ c ∈ pod.containers, (f c).Tells view c) (nodeIp : String) :
    (derive pod (pod.containers.map f) nodeIp).Tells view pod := by
  have active : allReady (pod.containers.map f) = true ↔ pod.AllActive view := by
    rw [allReady_iff, List.forall_mem_map, Pod.AllActive, Ne, List.map_eq_nil_iff]
    exact and_congr_right' (forall₂_congr fun c mem => (tells c mem).ready)
  have failed : phaseOf (pod.containers.map f) = "Failed" ↔ pod.SomeStopped view := by
    simp only [phaseOf_eq_failed_iff, List.mem_map, exists_exists_and_eq_and]
    exact exists_congr fun c => and_congr_right fun mem => (tells c mem).terminated
  -- the phase asks for ended containers first, but with all modules active there is none
  have running : phaseOf (pod.containers.map f) = "Running" ↔ pod.AllActive view := by
    rw [phaseOf_eq_running_iff, ← phaseOf_eq_failed_iff, failed, List.forall_mem_map, Ne,
      List.map_eq_nil_iff]
    have all : (∀ c ∈ pod.containers, (f c).isRunning = true) ↔
        ∀ c ∈ pod.containers, c.Seen view .activated :=
      forall₂_congr fun c mem => (tells c mem).running
    rw [all]
    exact and_iff_right_of_imp Pod.AllActive.not_stopped
  have start (t : Stamp) : (∃ s ∈ pod.containers.map f, s.startedAt = some t) ↔
      pod.StartedAt view t := by
    simp only [List.mem_map, exists_exists_and_eq_and]
    exact exists_congr fun c => and_congr_right fun mem => (tells c mem).since t
  refine ⟨⟨_, rfl, ?_⟩, ?_, ?_, ?_, ?_, ?_, ?_, ?_⟩
  · rw [List.forall₂_map_right_iff, List.forall₂_same]
    exact tells
  · exact Option.some_inj.trans running
  · exact Option.some_inj.trans failed
  · refine Option.some_inj.trans ?_
    rw [← running, ← failed]
    rcases phaseOf_cases (pod.containers.map f) with is | is | is
    all_goals simp [is]
  · intro type mem
    rw [told_ready mem, ← active]
    cases allReady (pod.containers.map f) with
    | true => simp
    | false => simp
  · intro t stored
    simp [derive, stored]
  · intro unstored t
    simp only [derive, unstored, Option.none_or, earliestStart_eq_some_iff, start]
  · intro unstored
    simp only [derive, unstored, Option.none_or, earliestStart_eq_none_iff, List.forall_mem_map]
    exact forall₂_congr fun c mem => (tells c mem).unstarted_iff

end PodStatus

end VirtualNode.Kube

namespace VirtualNode.Controller

open Dialogue (Course)
open Dialogue.Course (bind_iff state_iff update_iff request_iff done_iff)
open Kube (ContainerStatus Pod PodStatus)

variable {still : Prop} {d s t : Desk} {calls : List Moment} {r : Round}

/-! ## Statuses of pods -/

/-- The status of a pod tells what the desk has seen of its modules. -/
theorem Desk.statusOf_tells (d : Desk) (pod : Pod) : (d.statusOf pod).Tells d.view pod := by
  rw [statusOf_eq, containersOf, Pod.descriptors, List.map_map]
  refine PodStatus.tells_derive (fun c _ => ContainerStatus.tells_ofReport ?_) _
  rw [Inbox.view]
  cases d.sightings.get? c.descriptor.identity with
  | none => rfl
  | some seen => rfl

/-- The order of the containers matters for nothing but their order in the status. -/
theorem Desk.statusOf_perm {pod pod' : Pod} (perm : pod.containers.Perm pod'.containers)
    (start : pod'.startTime = pod.startTime) (d : Desk) :
    d.statusOf pod' =
      { d.statusOf pod with containerStatuses := some (d.containersOf pod') } := by
  have statuses : (d.containersOf pod).Perm (d.containersOf pod') := (perm.map _).map _
  exact PodStatus.derive_perm statuses start d.settings.base.nodeIp

/-! ## Statuses that are written -/

/-- Whether a status that is written at a moment is the one that some cached pod has then. -/
def Moment.WritesStatusOf (cached : Pod → Prop) (moment : Moment) : Prop :=
  ∀ write ∈ moment.statusWrite?, ∃ pod, cached pod ∧ write.Addresses pod ∧
    write.status = moment.state.statusOf pod

/-- Every status that is written is that of some entry, as the desk sees it then. -/
theorem writeStatuses_statusOf {entries : List (String × Pod)} {a : Unit}
    (course : Course (Desk.Aside still) (writeStatuses entries) s calls a t) :
    ∀ moment ∈ calls, moment.WritesStatusOf fun pod => pod ∈ entries.map Prod.snd := by
  induction entries generalizing s calls with
  | nil =>
    obtain ⟨rfl, -, -⟩ := done_iff.1 course
    simp
  | cons entry rest ih =>
    obtain ⟨key, pod⟩ := entry
    -- whatever becomes of the first pod, the turns of the others follow
    have later {s : Desk} {calls : List Moment}
        (course : Course (Desk.Aside still) (writeStatuses rest) s calls a t) :
        ∀ moment ∈ calls, moment.WritesStatusOf fun p => p ∈ pod :: rest.map Prod.snd := by
      intro moment mem write is
      obtain ⟨other, here, written⟩ := ih course moment mem write is
      exact ⟨other, List.mem_cons_of_mem pod here, written⟩
    simp only [writeStatuses, Activity.desk, Dialogue.bind_eq, bind_iff, state_iff] at course
    obtain ⟨_, s₁, _, calls, rfl, ⟨rfl, -, rfl⟩, course⟩ := course
    rw [List.nil_append]
    split at course
    · exact later course
    · simp only [Activity.call, bind_iff, request_iff] at course
      obtain ⟨_, answer, s₂, _, rfl, ⟨rfl, -⟩, course⟩ := course
      rw [List.singleton_append, List.forall_mem_cons]
      constructor
      · rintro write ⟨⟩
        exact ⟨pod, List.mem_cons_self, ⟨rfl, rfl⟩, rfl⟩
      · split at course
        all_goals
          simp only [Activity.change, bind_iff, update_iff] at course
          obtain ⟨_, _, _, _, rfl, ⟨rfl, -⟩, course⟩ := course
          exact later course

/-- Every status that is written is that of a cached pod, as the desk sees it then. -/
theorem pushStatuses_statusOf {a : Unit}
    (course : Course (Desk.Aside still) pushStatuses s calls a t) :
    ∀ moment ∈ calls, moment.WritesStatusOf fun pod =>
      ∃ key, t.ledger.pods.get? key = some pod := by
  obtain ⟨_, -, pushed⟩ := pushStatuses_pushed course
  simp only [pushStatuses, Activity.desk, Dialogue.bind_eq, bind_iff, state_iff] at course
  obtain ⟨_, s₁, _, calls, rfl, ⟨rfl, m₁, rfl⟩, course⟩ := course
  intro moment mem write is
  obtain ⟨pod, cached, written⟩ := writeStatuses_statusOf course moment mem write is
  obtain ⟨⟨key, pod⟩, entry, rfl⟩ := List.mem_map.1 cached
  refine ⟨pod, ⟨key, ?_⟩, written⟩
  rw [pushed.pods, ← m₁.pods, Table.get?_eq_some_iff]
  exact entry

/-- In a round, the status that is written of a pod is the one that a cached pod has then. -/
theorem Round.Goes.writes_statusOf (goes : r.Goes still) :
    ∀ moment ∈ r.record, moment.WritesStatusOf fun pod =>
      ∃ key, r.after.ledger.pods.get? key = some pod := by
  obtain ⟨task, before, record, after⟩ := r
  cases task with
  | push => exact pushStatuses_statusOf goes
  | pass =>
    rw [Round.Goes, Task.activity, reconcile_eq_prepare] at goes
    obtain ⟨early, started, s, late, rfl, prepared, concluded⟩ := bind_iff.1 goes
    rw [List.forall_mem_append]
    constructor
    · intro moment mem write is
      rw [(prepare_refreshed prepared).1 moment mem] at is
      cases is
    · cases started with
      | none =>
        obtain ⟨rfl, -⟩ := done_iff.1 concluded
        simp
      | some begun =>
        simp only [Option.elim_some, conclude, Activity.change, Dialogue.bind_eq, bind_iff,
          update_iff] at concluded
        obtain ⟨late, _, s₁, _, rfl, pushes, rfl, s₂, m₁, rfl⟩ := concluded
        rw [List.append_nil]
        intro moment mem write is
        obtain ⟨pod, ⟨key, cached⟩, written⟩ := pushStatuses_statusOf pushes moment mem write is
        exact ⟨pod, ⟨key, (m₁.pods key).trans cached⟩, written⟩

/-- The status of a pod tells what was last seen of its modules.  Up to the statuses of the
containers it does not depend on their order.  In a round only such statuses are written, of cached
pods. -/
theorem status_tells_sightings :
    (∀ (d : Desk) (pod : Pod), (d.statusOf pod).Tells d.view pod) ∧
      (∀ (d : Desk) (pod pod' : Pod), pod.containers.Perm pod'.containers →
        pod'.startTime = pod.startTime →
        (d.statusOf pod').phase = (d.statusOf pod).phase ∧
          (d.statusOf pod').conditions = (d.statusOf pod).conditions ∧
          (d.statusOf pod').startTime = (d.statusOf pod).startTime) ∧
      ∀ (still : Prop) (r : Round), r.Goes still → ∀ moment ∈ r.record,
        ∀ write ∈ moment.statusWrite?, ∃ key pod, r.after.ledger.pods.get? key = some pod ∧
          write.Addresses pod ∧ write.status.Tells moment.state.view pod := by
  refine ⟨Desk.statusOf_tells, ?_, ?_⟩
  · intro d pod pod' perm start
    rw [Desk.statusOf_perm perm start]
    exact ⟨rfl, rfl, rfl⟩
  · intro still r goes moment mem write is
    obtain ⟨pod, ⟨key, cached⟩, addressed, status⟩ := goes.writes_statusOf moment mem write is
    refine ⟨key, pod, cached, addressed, ?_⟩
    rw [status]
    exact moment.state.statusOf_tells pod

/-- A desk at which a module was seen activated, since a time that is not whole, and another one in
a state that is not known. -/
def mixedDesk : Desk :=
  let active := Biz.Sightings.empty.apply ⟨"m", "", .activated, "", ""⟩ ⟨3, 500000000⟩
  let strange := active.1.apply ⟨"n", "", .parse "Broken ", "", ""⟩ ⟨2, 0⟩
  { Desk.fresh default default with sightings := strange.1 }

def mixedPass : Round :=
  .rehearsed .pass (obliging [podOf "p" ["m", "n"]]) mixedDesk

/-- A pod with one module that runs and another that was not seen is pending, and so it was written.
-/
theorem status_tells_sightings_mixed : ∃ moment ∈ mixedPass.record,
    ∃ write ∈ moment.statusWrite?, write.Addresses (podOf "p" ["m", "n"]) ∧
      write.status.phase = some "Pending" ∧ write.status.told "Ready" = ["False"] ∧
      write.status.startTime = some ⟨3, 0⟩ ∧
      (moment.state.statusOf (podOf "p" ["n", "m"])).phase = some "Pending" := by
  obtain ⟨statuses, order, written⟩ := status_tells_sightings
  obtain ⟨moment, mem, write, is, -⟩ : mixedPass.Writes (podOf "p" ["m", "n"]) := by decide
  obtain ⟨key, pod, cached, addressed, tells⟩ :=
    written True mixedPass (Round.goes_rehearsed True _ _ _) moment mem write is
  have entries : mixedPass.after.ledger.pods.entries = [("default/p", podOf "p" ["m", "n"])] := by
    decide
  rw [Table.get?_eq_some_iff, entries, List.mem_singleton, Prod.mk.injEq] at cached
  obtain ⟨-, rfl⟩ := cached
  have unfinished : ∀ moment ∈ mixedPass.record,
      ¬ (podOf "p" ["m", "n"]).AllActive moment.state.view ∧
        ¬ (podOf "p" ["m", "n"]).SomeStopped moment.state.view := by decide
  have began : ∀ moment ∈ mixedPass.record,
      moment.state.view "m:" = some (.activated, ⟨3, 500000000⟩) ∧
      ∀ c ∈ (podOf "p" ["m", "n"]).containers, ∀ seen ∈ moment.state.view c.descriptor.identity,
        seen.1 = .activated → ¬ seen.2.truncate.earlierThan ⟨3, 0⟩ = true := by decide
  refine ⟨moment, mem, write, is, addressed, tells.pending.2 (unfinished moment mem),
    (tells.ready "Ready" (by decide)).2.2 (unfinished moment mem).1, ?_, ?_⟩
  · rw [tells.earliest rfl]
    obtain ⟨active, first⟩ := began moment mem
    refine ⟨⟨⟨"m", none, []⟩, List.mem_cons_self, _, active, rfl⟩, ?_⟩
    rintro u ⟨c, here, since, seen, rfl⟩
    exact first c here _ seen rfl
  · have perm : (podOf "p" ["m", "n"]).containers.Perm (podOf "p" ["n", "m"]).containers := by
      decide
    rw [(order moment.state _ _ perm rfl).1]
    exact (statuses _ _).pending.2 (unfinished moment mem)

end VirtualNode.Controller
