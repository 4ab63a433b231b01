import Mathlib.Data.List.Induction
import VirtualNode.Proofs.Ending.Removal
import VirtualNode.Proofs.Nodes.Registration

/-!
# What a failed registration leaves behind

At every moment of every run the node was not accepted so far, or it was accepted at first
(`unlisted_or_accepted`).  A run whose registration was answered with a fault is given up: the
controller disconnects and is finished, and the fault is the outcome.  The deletion of the node is
not asked for (`Chronicle.GivenUp`).

But that a registration has failed does not mean that it has done nothing.  A node that was stored is
left behind if its status could not be written, or if the reply was lost or came too late.

Main statement: `left_behind_iff`, for every run and for every behaviour of the server.
-/

set_option autoImplicit false

namespace VirtualNode.Controller

/-! ## Runs whose node is not accepted -/

/-- The fault that an answer to the registration of the node means, if it means one. -/
def Settings.registrationFault? (s : Settings) (answer : Option (Except Fault Unit)) :
    Option Fault :=
  match bounded (Call.register s.firstNode).what s.operationTimeout answer with
  | .error fault => some fault
  | .ok () => none

/-- What is left to do of a run whose registration failed when the controller has disconnected. -/
def leave : Activity Bool :=
  (Activity.change fun d => (d.log (.stopped "registration failed")).finish).bind fun _ =>
    .done false

/-- The registration of the node was answered with a fault. -/
def Refused (settings : Settings) (moment : Moment) (fault : Fault) : Prop :=
  ∃ answer, moment.toExchange = ⟨.register settings.firstNode, answer⟩ ∧
    settings.registrationFault? answer = some fault

/-- Where a run stands as long as its node was not accepted: it has not been started, or the
registration is open, or it has failed, and the controller disconnects or is finished. -/
inductive Unlisted (settings : Settings) (record : List Moment) (d : Desk) : Stage → Prop
  | idle (known : d.settings = settings) (pending : d.completion = .pending)
      (nothing : record = []) : Unlisted settings record d .idle
  | asked (next : Option (Except Fault Unit) → Activity Bool) (pending : d.completion = .pending)
      (nothing : record = []) (gives_up : ∀ answer fault,
        settings.registrationFault? answer = some fault →
          next answer = (abandon fault).bind fun _ => .done false) :
      Unlisted settings record d (.enlisting ⟨.register settings.firstNode, next⟩)
  | refused (moment : Moment) (fault : Fault) (why : Refused settings moment fault)
      (only : record = [moment]) (recorded : d.completion = (Completion.pending.record fault).1) :
      Unlisted settings record d (.enlisting ⟨.disconnect, fun _ => leave⟩)
  | finished (moment last : Moment) (fault : Fault) (why : Refused settings moment fault)
      (disconnected : last.question = .disconnect) (both : record = [moment, last])
      (done : d.completion = (Completion.pending.record fault).1.finish) :
      Unlisted settings record d .over

/-- The registration of the node was the first call, it has worked, and the node is not registered
again. -/
def Accepted (settings : Settings) (record : List Moment) : Prop :=
  ∃ first rest, record = first :: rest ∧
    first.toExchange = ⟨.register settings.firstNode, some (.ok ())⟩ ∧
    ∀ moment ∈ rest, ∀ node, moment.question ≠ .register node

/-- A registration that is refused or comes too late has the fault that the settings give it. -/
theorem bounded_of_fault {settings : Settings} {answer : Option (Except Fault Unit)} {fault : Fault}
    (refuses : settings.registrationFault? answer = some fault) :
    bounded (Call.register settings.firstNode).what settings.operationTimeout answer =
      .error fault := by
  unfold Settings.registrationFault? at refuses
  cases outcome : bounded (Call.register settings.firstNode).what settings.operationTimeout answer with
  | error e =>
    rw [outcome] at refuses
    exact congrArg _ (Option.some.inj refuses)
  | ok worked =>
    rw [outcome] at refuses
    cases refuses

/-- A registration without a fault was acknowledged. -/
theorem accepted_of_no_fault {settings : Settings} {answer : Option (Except Fault Unit)}
    (works : settings.registrationFault? answer = none) : answer = some (.ok ()) := by
  rcases answer with _ | _ | ⟨⟩
  · cases works
  · cases works
  · rfl

/-- A registration that was accepted has worked. -/
theorem Accepted.works {settings : Settings} {record : List Moment} {moment : Moment}
    {node : Kube.Node} {answer : Option (Except Fault Unit)} (accepted : Accepted settings record)
    (mem : moment ∈ record) (answered : moment.toExchange = ⟨.register node, answer⟩) :
    answer = some (.ok ()) := by
  obtain ⟨first, rest, rfl, works, later⟩ := accepted
  rcases List.mem_cons.1 mem with rfl | mem
  · rw [works] at answered
    cases answered
    rfl
  · exact absurd (congrArg (·.question) answered) (later moment mem node)

namespace Unlisted

variable {settings : Settings} {record : List Moment} {d e : Desk} {stage : Stage}

/-- A run whose node was not accepted neither serves it nor waits for loops. -/
theorem apart (unlisted : Unlisted settings record d stage) :
    stage ≠ .serving ∧ stage ≠ .joining := by
  cases unlisted with
  | _ => exact ⟨nofun, nofun⟩

/-- What does not concern the end of the run does not concern its registration. -/
theorem aside (unlisted : Unlisted settings record d stage) (same : e.settings = d.settings)
    (completion : e.completion = d.completion) : Unlisted settings record e stage := by
  cases unlisted with
  | idle known pending nothing => exact .idle (same.trans known) (completion.trans pending) nothing
  | asked next pending nothing gives_up =>
    exact .asked next (completion.trans pending) nothing gives_up
  | refused moment fault why only recorded =>
    exact .refused moment fault why only (completion.trans recorded)
  | finished moment last fault why disconnected both done =>
    exact .finished moment last fault why disconnected both (completion.trans done)

end Unlisted

/-- What is known of a chronicle as long as its node was not accepted. -/
def Chronicle.Unlisted (c : Chronicle) (settings : Settings) : Prop :=
  Controller.Unlisted settings c.record c.system.desk c.system.stage

section Steps

variable {c : Chronicle} {settings : Settings}

/-- A run that stands where it stood is as unlisted as it was. -/
theorem Chronicle.Unlisted.stays {c' : Chronicle} (unlisted : c.Unlisted settings)
    (stays : c.Stays c') : c'.Unlisted settings := by
  unfold Chronicle.Unlisted
  rw [stays.record, stays.stage]
  exact Controller.Unlisted.aside unlisted stays.settings stays.completion

/-- What is known of an unlisted run, at the stage where it stands. -/
theorem Chronicle.Unlisted.here {stage : Stage} (unlisted : c.Unlisted settings)
    (here : c.system.stage = stage) :
    Controller.Unlisted settings c.record c.system.desk stage :=
  here ▸ unlisted

/-- A run begins with the registration of its node. -/
theorem unlisted_start (unlisted : c.Unlisted settings) (idle : c.system.stage = .idle) :
    (c.step .start).Unlisted settings := by
  cases unlisted.here idle with
  | idle known pending nothing =>
    subst known
    have begun : (c.step .start).system =
        (System.goOnEnlisting .silent enlist c.system ()).1 := by
      simp [Chronicle.step, System.meet, System.start, idle]
    unfold Chronicle.Unlisted
    rw [begun]
    refine .asked _ pending nothing fun answer fault refuses => ?_
    simp only [Dialogue.bind_eq, Dialogue.pure_eq, Dialogue.bind_done, bounded_of_fault refuses]

/-- With an answer the registration goes on. -/
theorem system_enlisting {work : Pending Bool} (stage : c.system.stage = .enlisting work)
    (reply : Reply) : (c.step (.stimulus (.answer .life reply))).system =
      (System.goOnEnlisting .silent (work.next (reply work.call)) c.system ()).1 := by
  simp [Chronicle.step, System.meet, System.react, System.take, stage]

/-- The answer to the registration decides whether the node is accepted. -/
theorem answered_register {next : Option (Except Fault Unit) → Activity Bool} (reply : Reply)
    (unlisted : c.Unlisted settings)
    (stage : c.system.stage = .enlisting ⟨.register settings.firstNode, next⟩) :
    (c.step (.stimulus (.answer .life reply))).Unlisted settings ∨
      Accepted settings (c.step (.stimulus (.answer .life reply))).record := by
  let moment : Moment :=
    ⟨⟨.register settings.firstNode, reply (.register settings.firstNode)⟩, c.asked .life⟩
  have record := record_step_answer reply (System.openCall?_enlisting stage)
  cases unlisted.here stage with
  | asked _ pending nothing gives_up =>
    have only : (c.step (.stimulus (.answer .life reply))).record = [moment] := by
      rw [record]
      simp [nothing, moment]
    cases outcome : settings.registrationFault? (reply (.register settings.firstNode)) with
    | none =>
      refine .inr ⟨moment, [], only, ?_, by simp⟩
      simp only [moment, accepted_of_no_fault outcome]
    | some fault =>
      have system := system_enlisting stage reply
      dsimp only at system
      rw [gives_up _ fault outcome] at system
      refine .inl ?_
      unfold Chronicle.Unlisted
      rw [system]
      exact .refused moment fault ⟨_, rfl, outcome⟩ only
        (congrArg (fun completion => (Completion.record completion fault).1) pending)

/-- A run whose registration failed is finished when the controller has disconnected. -/
theorem answered_disconnect (reply : Reply) (unlisted : c.Unlisted settings)
    (stage : c.system.stage = .enlisting ⟨.disconnect, fun _ => leave⟩) :
    (c.step (.stimulus (.answer .life reply))).Unlisted settings := by
  let last : Moment := ⟨⟨.disconnect, reply .disconnect⟩, c.asked .life⟩
  have record := record_step_answer reply (System.openCall?_enlisting stage)
  cases unlisted.here stage with
  | refused moment fault why only recorded =>
    unfold Chronicle.Unlisted
    rw [system_enlisting stage reply, record]
    refine .finished moment last fault why rfl ?_ (congrArg Completion.finish recorded)
    simp [only, last]

/-- A node that was not accepted so far is not accepted, or it is at first. -/
theorem Chronicle.Unlisted.step (unlisted : c.Unlisted settings) (orderly : c.system.Orderly)
    (h : Happening) : (c.step h).Unlisted settings ∨ Accepted settings (c.step h).record := by
  obtain ⟨serving, joining⟩ := Controller.Unlisted.apart unlisted
  rcases step_of_loopless orderly serving joining h with
    stays | ⟨rfl, idle⟩ | ⟨reply, call, rfl, waits⟩
  · exact .inl (unlisted.stays stays)
  · exact .inl (unlisted_start unlisted idle)
  · generalize stage : c.system.stage = standing
    cases unlisted.here stage with
    | asked next _ _ _ => exact answered_register reply unlisted stage
    | refused _ _ _ _ _ => exact .inl (answered_disconnect reply unlisted stage)
    | _ => simp [System.openCall?, stage] at waits

variable {causes : List (Option Fault)}

/-- The node is registered before anything else is called for. -/
theorem Fares.nothing_before_register (fares : Fares c.record causes c.system)
    (orderly : c.system.Orderly) {strand : Strand} {node : Kube.Node}
    (waits : c.system.openCall? strand = some (.register node)) : c.record = [] := by
  have unserved (stage : c.system.stage = .serving ∨ c.system.stage = .joining) : False := by
    obtain ⟨name, errand⟩ := (fares.serves stage).1.2.errand stage waits
    cases name with
    | _ => exact errand
  cases stage : c.system.stage with
  | enlisting work =>
    simp only [Fares, stage] at fares
    obtain ⟨-, enlisting⟩ := fares
    rw [← call_eq_of_enlisting orderly stage waits] at enlisting
    cases enlisting with
    | asked _ nothing _ => exact nothing
    | worked subscribes _ => exact subscribes.elim
  | serving => exact (unserved (.inl stage)).elim
  | joining => exact (unserved (.inr stage)).elim
  | retiring work =>
    simp only [Fares, stage] at fares
    have mem := fares.2.2.mem
    rw [← call_eq_of_retiring orderly stage waits] at mem
    simp [mem_farewell] at mem
  | _ =>
    have waits := waits_life orderly (by simp [stage]) (by simp [stage]) waits
    simp [System.openCall?, stage] at waits

/-- What is answered was asked by some strand. -/
theorem openCall?_of_answered {h : Happening} {moment : Moment}
    (answered : c.answered? h = some moment) :
    ∃ strand, c.system.openCall? strand = some moment.question := by
  unfold Chronicle.answered? at answered
  split at answered
  · rename_i strand reply
    obtain ⟨call, waits, rfl⟩ := Option.map_eq_some_iff.1 answered
    exact ⟨strand, waits⟩
  · cases answered

/-- A registration that was accepted stays so. -/
theorem Accepted.step (accepted : Accepted settings c.record)
    (fares : Fares c.record causes c.system) (orderly : c.system.Orderly) (h : Happening) :
    Accepted settings (c.step h).record := by
  obtain ⟨first, rest, record, works, later⟩ := accepted
  cases answered : c.answered? h with
  | none => exact ⟨first, rest, by simpa [Chronicle.step, answered] using record, works, later⟩
  | some moment =>
    refine ⟨first, rest ++ [moment], by simp [Chronicle.step, answered, record], works, ?_⟩
    intro other mem node asks
    rcases List.mem_append.1 mem with old | new
    · exact later other old node asks
    · -- a registration is open only while nothing was answered, so there is no second one
      rw [List.mem_singleton.1 new] at asks
      obtain ⟨strand, waits⟩ := openCall?_of_answered answered
      rw [asks] at waits
      rw [fares.nothing_before_register orderly waits] at record
      cases record

end Steps

/-- At every moment of every run: the node was not accepted so far, or it was accepted at first. -/
theorem unlisted_or_accepted (settings : Settings) (origin : Time.Stamp)
    (happenings : List Happening) :
    let c := (Chronicle.fresh settings origin).follow happenings
    c.Unlisted settings ∨ Accepted settings c.record := by
  induction happenings using List.reverseRecOn with
  | nil => exact .inl (.idle rfl rfl rfl)
  | append_singleton early h ih =>
    rw [Chronicle.follow_append]
    obtain ⟨fares, orderly⟩ := fares_follow settings origin early
    rcases ih with unlisted | accepted
    · exact unlisted.step orderly h
    · exact .inr (accepted.step fares orderly h)

/-- How a run goes on and ends whose registration was answered with a fault. -/
structure Chronicle.GivenUp (c : Chronicle) (settings : Settings)
    (answer : Option (Except Fault Unit)) : Prop where
  /-- Nothing is called for but the registration and the end of the connection. -/
  calls : c.record.map (·.question) =
    .register settings.firstNode :: if c.system.isDone then [.disconnect] else []
  /-- Nothing is waited for but the end of the connection. -/
  waits : ∀ strand, ∀ call ∈ c.system.openCall? strand, call = .disconnect
  /-- The outcome is the fault that the answer means. -/
  outcome : c.system.isDone = true → ∃ fault, settings.registrationFault? answer = some fault ∧
    c.system.desk.completion.fault? = some fault

/-- A run whose registration was answered with a fault is given up. -/
theorem Chronicle.Unlisted.givenUp {c : Chronicle} {settings : Settings} {moment : Moment}
    {answer : Option (Except Fault Unit)} (unlisted : c.Unlisted settings)
    (orderly : c.system.Orderly) (mem : moment ∈ c.record)
    (answered : moment.toExchange = ⟨.register settings.firstNode, answer⟩) :
    c.GivenUp settings answer := by
  generalize stage : c.system.stage = standing
  cases unlisted.here stage with
  | idle _ _ nothing => simp [nothing] at mem
  | asked _ _ nothing _ => simp [nothing] at mem
  | refused moment' fault why only recorded =>
    have going_on : c.system.isDone = false := congrArg Completion.done recorded
    obtain ⟨_, register, -⟩ := why
    refine ⟨?_, fun strand call waits => call_eq_of_enlisting orderly stage waits, ?_⟩
    · simp [only, going_on, register]
    · simp [going_on]
  | finished moment' last fault why disconnected both finished =>
    have done : c.system.isDone = true := congrArg Completion.done finished
    obtain ⟨_, register, refuses⟩ := why
    refine ⟨?_, ?_, fun _ => ⟨fault, ?_, congrArg Completion.fault? finished⟩⟩
    · simp [both, done, register, disconnected]
    · intro strand call waits
      have waits := waits_life orderly (by simp [stage]) (by simp [stage]) waits
      simp [System.openCall?, stage] at waits
    · rw [both, List.mem_cons, List.mem_singleton] at mem
      rcases mem with rfl | rfl
      · rw [register] at answered
        cases answered
        exact refuses
      · rw [answered] at disconnected
        cases disconnected

/-! ## Nodes that are left behind -/

open Kube.Cluster (attempt registerNode Dispatch Stored lookUp writeStatus)

/-- The run is finished, one of the requests that were sent has stored the node, and its deletion was
never asked for. -/
structure Chronicle.LeavesBehind (c : Chronicle) (sent : List Dispatch) : Prop where
  finished : c.system.isDone = true
  stored : Stored sent
  undeleted : ∀ moment ∈ c.record, moment.question ≠ .deleteNode

/-- A run that was given up leaves its node behind just if it is finished and the cluster has stored
the node. -/
theorem Chronicle.GivenUp.leavesBehind_iff {c : Chronicle} {settings : Settings}
    {answer : Option (Except Fault Unit)} (given_up : c.GivenUp settings answer)
    (sent : List Dispatch) : c.LeavesBehind sent ↔ c.system.isDone = true ∧ Stored sent := by
  refine ⟨fun left => ⟨left.finished, left.stored⟩, fun left => ⟨left.1, left.2, ?_⟩⟩
  -- the calls of a run that is given up and finished are known one by one
  intro moment mem deletes
  have called := List.mem_map_of_mem (f := fun moment : Moment => moment.question) mem
  rw [given_up.calls, if_pos left.1, deletes] at called
  simp at called

/-- Whatever happens, and whatever the server does: a run is given up whose registration has failed
or was cut short.  It leaves the node behind exactly if it is finished, the look-up was answered as
it should be, and the request after it was carried out.  That request was then the last one, or the
status could not be written. -/
theorem left_behind_iff (settings : Settings) (origin : Time.Stamp) (happenings : List Happening)
    (fates : List Kube.Cluster.Fate) :
    let c := (Chronicle.fresh settings origin).follow happenings
    let a := attempt (registerNode settings.firstNode) fates
    a.works = false →
    (∃ moment ∈ c.record, moment.toExchange = ⟨.register settings.firstNode, a.result⟩) →
    c.GivenUp settings a.result ∧
      (c.LeavesBehind a.sent ↔ c.system.isDone = true ∧
        ∃ first second rest, a.sent = first :: second :: rest ∧ first.meets lookUp = true ∧
          second.carriedOut = true ∧
          (rest = [] ∨ ∃ third, rest = [third] ∧ third.meets writeStatus = false)) := by
  rintro c a failed ⟨moment, mem, answered⟩
  have given_up : c.GivenUp settings a.result := by
    rcases unlisted_or_accepted settings origin happenings with unlisted | accepted
    · exact unlisted.givenUp (fares_follow settings origin happenings).2 mem answered
    · exact absurd (accepted.works mem answered) (Kube.Cluster.Attempt.result_ne_ok failed ())
  refine ⟨given_up, ?_⟩
  rw [given_up.leavesBehind_iff, Kube.Cluster.stored_iff failed]

/-! ### A node that was created and then given up -/

/-- Settings that tell nothing but the id of the node. -/
def bareSettings : Settings := .standard ⟨"n", "", "", "", ""⟩

/-- The server knows no node of the name and creates one, but it does not write the status. -/
def createdOnly : List Kube.Cluster.Fate :=
  [⟨false, some ⟨404, "\x7b\"status\":\"Failure\",\"reason\":\"NotFound\",\"code\":404\x7d"⟩⟩,
    ⟨true, some ⟨201, "\x7b\"metadata\":\x7b\"name\":\"vnode-n\"\x7d\x7d"⟩⟩,
    ⟨false, some .unavailable⟩]

/-- The fault that this means. -/
def givenUpFault : Fault := .clusterAccess " (Failed to parse error data)"

/-- A run that hears of this fault and then disconnects. -/
def givenUpRun : List Happening :=
  [.start,
    .stimulus (.answer .life fun
      | .register _ => some (.error givenUpFault)
      | call => refusing call),
    refused .life]

/-- The registration fails when the node is created but its status is refused. -/
theorem result_createdOnly :
    (attempt (registerNode bareSettings.firstNode) createdOnly).result = some (.error givenUpFault) := by
  decide +kernel

/-- All the same the cluster has stored the node. -/
theorem stored_createdOnly :
    Stored (attempt (registerNode bareSettings.firstNode) createdOnly).sent := by
  unfold Stored
  decide +kernel

/-- Such a registration does not work. -/
theorem works_createdOnly :
    (attempt (registerNode bareSettings.firstNode) createdOnly).works = false := by
  simp [Kube.Cluster.Attempt.works, result_createdOnly]

/-- The run was answered what came of that registration. -/
theorem answered_givenUpRun :
    ∃ moment ∈ ((Chronicle.fresh bareSettings default).follow givenUpRun).record,
      moment.toExchange = ⟨.register bareSettings.firstNode,
        (attempt (registerNode bareSettings.firstNode) createdOnly).result⟩ := by
  rw [result_createdOnly]
  exact ⟨_, List.mem_cons_self, rfl⟩

/-- So a run whose node is created but not given a status leaves it behind. -/
theorem left_behind_unwritten :
    let c := (Chronicle.fresh bareSettings default).follow givenUpRun
    let a := attempt (registerNode bareSettings.firstNode) createdOnly
    c.GivenUp bareSettings a.result ∧ c.LeavesBehind a.sent ∧
      ∃ first second rest, a.sent = first :: second :: rest ∧ second.carriedOut = true ∧
        ∃ third, rest = [third] ∧ third.meets writeStatus = false := by
  intro c a
  obtain ⟨given_up, left_iff⟩ := left_behind_iff bareSettings default givenUpRun createdOnly
    works_createdOnly answered_givenUpRun
  have left : c.LeavesBehind a.sent :=
    (given_up.leavesBehind_iff a.sent).2 ⟨by decide, stored_createdOnly⟩
  obtain ⟨-, first, second, rest, sent, -, carried, cause⟩ := left_iff.1 left
  refine ⟨given_up, left, first, second, rest, sent, carried, cause.resolve_left ?_⟩
  rintro rfl
  have three : a.sent.length = 3 := by decide +kernel
  exact absurd (three.symm.trans (congrArg List.length sent)) (by simp)

/-- So it is not true of every run whose registration fails that the node was not stored or that its
deletion was asked for. -/
theorem exists_left_behind :
    ¬ ∀ (settings : Settings) (origin : Time.Stamp) (happenings : List Happening)
      (fates : List Kube.Cluster.Fate), settings.validate = .ok () →
      let c := (Chronicle.fresh settings origin).follow happenings
      let a := attempt (registerNode settings.firstNode) fates
      a.works = false →
      (∃ moment ∈ c.record, moment.toExchange = ⟨.register settings.firstNode, a.result⟩) →
      c.system.isDone = true → ¬ Stored a.sent ∨ ∃ moment ∈ c.record, moment.question = .deleteNode := by
  intro h
  have said := h bareSettings default givenUpRun createdOnly rfl works_createdOnly
    answered_givenUpRun (by decide)
  rcases said with unstored | deleted
  · exact unstored stored_createdOnly
  · revert deleted
    decide

end VirtualNode.Controller
