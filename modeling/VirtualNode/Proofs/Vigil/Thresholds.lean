import VirtualNode.Proofs.Ending.Removal
import VirtualNode.Proofs.Ledger.Passes
import VirtualNode.Proofs.Statuses.Views
import VirtualNode.Proofs.Vigil.Tally

/-!
# Giving up

A run ends by itself when too many probes or too many listings in a row have failed.  It is about to
end with the answer that completes the first such row, neither sooner nor later, and the fault is
recorded at that moment (`gives_up_at_threshold`).

While the loops are at work both counts lie below their bounds (`Chronicle.Patient`).  An answer
adds at most one failure, and if that reaches the bound the loop whose count it is does nothing any
more (`System.Spent`), so that no count ever passes its bound.  A pass whose listing failed does
nothing else (`Round.Goes.idles`).
-/

set_option autoImplicit false

namespace VirtualNode.Controller

open Conduct
open Dialogue (Course)

/-! ## Runs that are about to end -/

namespace System

variable {s : System}

/-- Whether the loops are at work and nothing has told them to end. -/
def atWork (s : System) : Bool :=
  match s.stage with
  | .serving => !s.desk.stopping
  | _ => false

/-- The loops are at work just if the node is served and the controller is not about to end. -/
theorem atWork_iff : s.atWork = true ↔ s.stage = .serving ∧ s.desk.stopping = false := by
  unfold atWork
  cases s.stage with
  | serving => simp
  | _ => simp

/-- The controller is about to end, or its node is being removed. -/
def Closing (s : System) : Prop :=
  s.Removing ∨ (s.stage = .serving ∨ s.stage = .joining) ∧ s.desk.stopping = true

/-- The controller is about to end, and a loop has nothing left to do. -/
structure Spent (s : System) (name : LoopName) : Prop where
  closing : s.Closing
  unbusy : ∀ p, s.loops.get name ≠ .busy p

/-- A loop that has nothing left to do waits for no answer. -/
theorem Spent.closed {name : LoopName} (spent : s.Spent name) :
    s.openCall? (.loop name) = none := by
  cases waits : s.openCall? (.loop name) with
  | none => rfl
  | some call =>
    obtain ⟨p, busy, -⟩ := busy_of_openCall? waits
    exact absurd busy (spent.unbusy p)

/-- Loops that are at work are not about to end. -/
theorem not_closing_of_atWork (working : s.atWork = true) : ¬ s.Closing := by
  obtain ⟨stage, going_on⟩ := atWork_iff.1 working
  rintro (removing | ⟨-, stopping⟩)
  · simp [Removing, stage] at removing
  · rw [going_on] at stopping
    cases stopping

end System

/-! ## What ends the work of the loops -/

section

variable {c : Chronicle} {causes : List (Option Fault)} {h : Happening} {name : LoopName}

/-- Nothing has ended a run whose loops are at work. -/
theorem Fares.at_work (fares : Fares c.record causes c.system) (working : c.system.atWork = true) :
    causes = [] ∧ c.system.desk.cancelled = false := by
  obtain ⟨stage, going_on⟩ := System.atWork_iff.1 working
  have told : c.system.desk.stopping = (c.system.desk.cancelled || !causes.isEmpty) :=
    (fares.serves (.inl stage)).1.1.tells.stopping
  rw [going_on] at told
  obtain ⟨uncancelled, none_came⟩ := Bool.or_eq_false_iff.1 told.symm
  exact ⟨by simpa using none_came, uncancelled⟩

/-- A controller that is about to end stays so, whatever an answer decides. -/
theorem Desk.stopping_endingBy (d : Desk) (verdict : Option Fault) :
    (d.endingBy verdict).stopping = (d.stopping || verdict.isSome) := by
  cases verdict with
  | none => simp [Desk.endingBy, Desk.ending]
  | some fault => simp [Desk.endingBy, Desk.ending, Desk.fail]

/-- A loop that begins a task does not end the run. -/
theorem Fares.stopping_begin (fares : Fares c.record causes c.system) (orderly : c.system.Orderly)
    {task : Activity Unit} {d : Desk} (begins : c.system.Begins h name task d)
    (resting : c.system.loops.get name = .resting) :
    (System.work .silent name task { c.system with desk := d } ()).1.desk.stopping =
      c.system.desk.stopping := by
  have behave := (fares.serves (orderly.stage_of_working (.inl resting))).1.2
  have ending := (LoopsBehave.work (s := { c.system with desk := d }) behave
    (begins_behaves begins).2 (keepsTo_comesTo name c.system.desk.ending)).1
  exact congrArg Ending.stopping ending

/-- A loop that goes on ends the run only if its answer has decided that. -/
theorem Fares.stopping_busy (fares : Fares c.record causes c.system) (orderly : c.system.Orderly)
    {p : Pending Unit} (busy : c.system.loops.get name = .busy p) (answer : p.call.Answer) :
    (System.work .silent name (p.next answer) c.system ()).1.desk.stopping =
      (c.system.desk.stopping || (c.system.desk.verdict? p.call answer).isSome) := by
  have behave := (fares.serves (orderly.stage_of_working (.inr ⟨p, busy⟩))).1.2
  have ending := (behave.work ((behave name p busy).1 answer c.system.desk)
    (keepsTo_loopConduct name p.call answer c.system.desk)).1
  exact (congrArg Ending.stopping ending).trans (Desk.stopping_endingBy _ _)

/-- What comes from outside ends a run only if its owner asks for it. -/
theorem Happening.stopping_touch (h : Happening) (d : Desk) :
    (h.touch d).stopping = true ↔ d.stopping = true ∨ h = .stimulus .cancel := by
  cases h with
  | start => simp [Happening.touch]
  | stimulus stimulus => cases stimulus <;> simp [Happening.touch]

/-- While the loops are at work they go on, unless the owner asks the run to end or an outcome is
recorded. -/
theorem Fares.at_work_step (fares : Fares c.record causes c.system) (orderly : c.system.Orderly)
    (working : c.system.atWork = true) (h : Happening) :
    (c.step h).system.stage = .serving ∧
      ((c.step h).system.desk.stopping = true ↔ h = .stimulus .cancel ∨ c.cause? h ≠ none) := by
  obtain ⟨stage, going_on⟩ := System.atWork_iff.1 working
  have turn := c.system.turn h
  generalize system : c.system.meet h = s at turn
  have here : (c.step h).system = s := system
  rw [here]
  cases turn with
  | outside outer =>
    have cause : c.cause? h = none := by
      refine cause?_of_silent ?_ (by simp [Happening.answered?_of_outside outer])
      rintro rfl
      cases outer
    refine ⟨stage, ?_⟩
    dsimp only
    rw [h.stopping_touch, cause, going_on]
    simp
  | still inner closed =>
    rw [cause?_of_still system closed, going_on]
    refine ⟨stage, iff_of_false nofun ?_⟩
    rintro (rfl | came)
    · cases inner
    · exact came rfl
  | begin begins resting =>
    have cause : c.cause? h = none := by
      refine cause?_of_silent ?_ (by simp [begins.silent.2])
      rintro rfl
      cases begins
    rw [System.stage_work, cause, fares.stopping_begin orderly begins resting, going_on]
    refine ⟨stage, iff_of_false nofun ?_⟩
    rintro (rfl | came)
    · cases begins
    · exact came rfl
  | @busy name p reply is busy =>
    subst is
    have cause : c.cause? (.stimulus (.answer (.loop name) reply)) =
        (c.system.desk.verdict? p.call (reply p.call)).map some := by
      simp [Chronicle.cause?, System.openCall?_busy busy]
    rw [System.stage_work, cause, fares.stopping_busy orderly busy (reply p.call), going_on]
    refine ⟨stage, ?_⟩
    cases c.system.desk.verdict? p.call (reply p.call) <;> simp
  | quit _ stopping _ =>
    rw [going_on] at stopping
    cases stopping
  | halt _ _ stopping =>
    rw [going_on] at stopping
    cases stopping
  | enlist _ idle => cases stage.symm.trans idle
  | enlisting _ enlists => cases stage.symm.trans enlists
  | join _ joins _ => cases stage.symm.trans joins
  | retiring _ retires => cases stage.symm.trans retires

/-- The loops stop just if the owner asks for it or an outcome is recorded. -/
theorem Fares.stops_iff (fares : Fares c.record causes c.system) (orderly : c.system.Orderly)
    (working : c.system.atWork = true) (h : Happening) :
    (c.step h).system.atWork = false ↔ h = .stimulus .cancel ∨ c.cause? h ≠ none := by
  obtain ⟨stage, stopping⟩ := fares.at_work_step orderly working h
  simp [System.atWork, stage, ← stopping]

/-- The first outcome that is recorded while the loops are at work is the outcome of the run. -/
theorem Fares.outcome_of_cause (fares : Fares c.record causes c.system)
    (orderly : c.system.Orderly) (working : c.system.atWork = true) {cause : Option Fault}
    (came : c.cause? h = some cause) :
    (c.step h).system.desk.completion.outcome = some cause := by
  obtain ⟨stage, -⟩ := fares.at_work_step orderly working h
  have after := ((fares.step orderly h).serves (.inl stage)).1.1.tells.outcome
  rw [(fares.at_work working).1, came] at after
  exact after

/-! ## Loops that have nothing left to do -/

/-- The work of another loop gives a loop nothing to do that has nothing left to do. -/
theorem System.spent_work {s : System} {other : LoopName} {task : Activity Unit}
    (stage : s.stage = .serving ∨ s.stage = .joining) (differ : name ≠ other)
    (unbusy : ∀ p, s.loops.get name ≠ .busy p)
    (stopping : (System.work .silent other task s ()).1.desk.stopping = true) :
    (System.work .silent other task s ()).1.Spent name := by
  refine ⟨.inr ⟨by rwa [System.stage_work], stopping⟩, ?_⟩
  rw [System.get_work_of_ne task differ]
  exact unbusy

/-- The removal of the node gives no loop anything to do. -/
theorem System.spent_goOnRetiring {s : System} (task : Activity Unit)
    (unbusy : ∀ p, s.loops.get name ≠ .busy p) :
    (System.goOnRetiring .silent task s ()).1.Spent name := by
  refine ⟨.inl (System.removing_goOnRetiring _ _), ?_⟩
  rw [System.loops_goOnRetiring]
  exact unbusy

/-- A loop that has nothing left to do gets nothing to do any more. -/
theorem System.Spent.step (spent : c.system.Spent name) (fares : Fares c.record causes c.system)
    (orderly : c.system.Orderly) (periodic : name ≠ .renewal) (h : Happening) :
    (c.step h).system.Spent name := by
  obtain ⟨closing, unbusy⟩ := spent
  have serves {other : LoopName} (working : c.system.loops.get other = .resting ∨
      ∃ p, c.system.loops.get other = .busy p) :
      (c.system.stage = .serving ∨ c.system.stage = .joining) ∧
        c.system.desk.stopping = true := by
    have stage := orderly.stage_of_working working
    refine ⟨stage, (closing.resolve_left ?_).2⟩
    rcases stage with stage | stage <;> simp [System.Removing, stage]
  have turn := c.system.turn h
  generalize system : c.system.meet h = s at turn
  have here : (c.step h).system = s := system
  rw [here]
  cases turn with
  | outside _ =>
    refine ⟨closing.imp_right (And.imp_right fun stopping => ?_), unbusy⟩
    exact (h.stopping_touch _).2 (.inl stopping)
  | still _ _ => exact ⟨closing, unbusy⟩
  | enlist _ idle => simp [System.Closing, System.Removing, idle] at closing
  | enlisting _ stage => simp [System.Closing, System.Removing, stage] at closing
  | @begin other task d begins resting =>
    obtain ⟨stage, stopping⟩ := serves (.inl resting)
    have differ : name ≠ other := by
      rintro rfl
      cases begins with
      | renew _ => exact periodic rfl
      | beat going_on | pass going_on | look going_on _ =>
        rw [stopping] at going_on
        cases going_on
    have still := (fares.stopping_begin orderly begins resting).trans stopping
    exact System.spent_work (s := { c.system with desk := d }) stage differ unbusy still
  | @busy other p reply is busy =>
    obtain ⟨stage, stopping⟩ := serves (.inr ⟨p, busy⟩)
    have differ : name ≠ other := by
      rintro rfl
      exact unbusy p busy
    have still := fares.stopping_busy orderly busy (reply p.call)
    rw [stopping, Bool.true_or] at still
    exact System.spent_work stage differ unbusy still
  | quit _ _ _ =>
    refine ⟨closing, fun p busy => ?_⟩
    rcases System.busy_of_set busy with ⟨-, ended⟩ | before
    · cases ended
    · exact unbusy p before
  | halt _ _ stopping =>
    refine ⟨.inr ⟨.inr rfl, ?_⟩, unbusy⟩
    dsimp only
    split
    · exact stopping
    · exact stopping
  | join _ _ _ => exact System.spent_goOnRetiring _ unbusy
  | retiring _ _ => exact System.spent_goOnRetiring _ unbusy

/-- A loop that has given up has nothing left to do. -/
theorem Fares.spent_of_verdict (fares : Fares c.record causes c.system)
    (orderly : c.system.Orderly) {call : Call}
    (waits : c.system.openCall? (.loop name) = some call) (reply : Reply) {fault : Fault}
    (verdict : c.system.desk.verdict? call (reply call) = some fault) :
    (c.step (.stimulus (.answer (.loop name) reply))).system.Spent name := by
  obtain ⟨p, busy, rfl⟩ := System.busy_of_openCall? waits
  have stage := orderly.stage_of_working (.inr ⟨p, busy⟩)
  have behave := (fares.serves stage).1.2
  have system : (c.step (.stimulus (.answer (.loop name) reply))).system =
      (System.work .silent name (p.next (reply p.call)) c.system ()).1 := by
    simp [Chronicle.step, System.meet, System.react, System.take, busy]
  have advanced := behaves_advance ((behave name p busy).1 (reply p.call) c.system.desk)
  rw [system]
  have stage' := System.stage_work (p.next (reply p.call)) c.system name
  unfold System.work at stage' ⊢
  rcases going : (p.next (reply p.call)).advance .silent c.system.desk () with ⟨e, _, standing⟩
  rw [going] at advanced
  simp only [loopConduct, verdict] at advanced
  cases standing with
  | finished _ =>
    refine ⟨.inr ⟨stage, ?_⟩, fun q => ?_⟩
    · exact congrArg Ending.stopping advanced.2
    · dsimp only
      rw [System.get_set, if_pos rfl]
      intro busy
      cases busy
  | waiting call next => cases advanced.1.1

/-- Only the loop whose call it is waits for the answer to a call that may end the run. -/
theorem Fares.strand_of_decides (fares : Fares c.record causes c.system)
    (orderly : c.system.Orderly) {strand : Strand} {call : Call}
    (waits : c.system.openCall? strand = some call) (decides : call.Decides) :
    ∃ name, strand = .loop name ∧ call.Errand name := by
  cases strand with
  | loop name =>
    obtain ⟨work, busy, rfl⟩ := System.busy_of_openCall? waits
    have stage := orderly.stage_of_working (.inr ⟨work, busy⟩)
    exact ⟨name, rfl, ((fares.serves stage).1.2 name work busy).2⟩
  | life =>
    cases stage : c.system.stage with
    | enlisting work =>
      simp only [Fares, stage] at fares
      rw [System.openCall?_enlisting stage] at waits
      obtain ⟨-, enlisting⟩ := fares
      rw [Option.some.inj waits] at enlisting
      cases enlisting with
      | worked subscribes _ => cases call <;> first | exact decides.elim | exact subscribes.elim
      | _ => exact decides.elim
    | retiring work =>
      simp only [Fares, stage] at fares
      rw [System.openCall?_retiring stage] at waits
      have mem := fares.2.2.mem
      rw [Option.some.inj waits] at mem
      rcases mem_farewell.1 mem with rfl | rfl | rfl | rfl
      all_goals exact decides.elim
    | _ => simp [System.openCall?, stage] at waits

end

/-! ## Bounds -/

/-- The counts of failures of a chronicle have not reached the bounds. -/
structure Chronicle.Patient (c : Chronicle) (settings : Settings) : Prop where
  probed : failuresInARow (probes c.record) < settings.maxHeartbeatFailures
  listed : failuresInARow (listings c.record) < settings.maxClusterFailures

section

variable {c : Chronicle} {causes : List (Option Fault)} {h : Happening} {settings : Settings}

/-- What is answered at a happening is the only thing that is added to the record. -/
theorem Chronicle.record_step (c : Chronicle) (h : Happening) :
    (c.step h).record = c.record ++ (c.answered? h).toList := by
  unfold step
  dsimp only
  cases c.answered? h <;> simp

/-- What a happening adds to the outcomes of probes and listings. -/
inductive Chronicle.Counts (c : Chronicle) (h : Happening) : Prop
  /-- Neither a probe nor a listing is answered. -/
  | nothing (cause : h = .stimulus .halt ∨ c.cause? h = none)
    (probed : probes (c.step h).record = probes c.record)
    (listed : listings (c.step h).record = listings c.record)
  | probe (strand : Strand) (reply : Reply) (is : h = .stimulus (.answer strand reply))
    (content : Biz.Probe) (waits : c.system.openCall? strand = some (.probe content))
    (probed : probes (c.step h).record =
      probes c.record ++ [Except.isOk (reply (.probe content))])
    (listed : listings (c.step h).record = listings c.record)
  | listing (strand : Strand) (reply : Reply) (is : h = .stimulus (.answer strand reply))
    (waits : c.system.openCall? strand = some .listPods)
    (probed : probes (c.step h).record = probes c.record)
    (listed : listings (c.step h).record =
      listings c.record ++ [Option.any Except.isOk (reply .listPods)])

/-- What an answer adds to the outcomes. -/
theorem Chronicle.counts_answer (c : Chronicle) (strand : Strand) (reply : Reply) :
    c.Counts (.stimulus (.answer strand reply)) := by
  let h : Happening := .stimulus (.answer strand reply)
  have record := c.record_step h
  cases waits : c.system.openCall? strand with
  | none =>
    have unanswered : c.answered? h = none := by simp [h, answered?, waits]
    rw [unanswered, Option.toList_none, List.append_nil] at record
    exact .nothing (.inr (by simp [cause?, waits])) (congrArg probes record)
      (congrArg listings record)
  | some call =>
    let moment : Moment := ⟨⟨call, reply call⟩, c.asked strand⟩
    have answered : c.answered? h = some moment := by simp [h, answered?, waits, moment]
    rw [answered, Option.toList_some] at record
    have cause : c.cause? h = (c.system.desk.verdict? call (reply call)).map some := by
      simp [h, cause?, waits]
    have probed := (congrArg probes record).trans (probes_concat c.record moment)
    have listed := (congrArg listings record).trans (listings_concat c.record moment)
    cases call with
    | probe content =>
      exact .probe strand reply rfl content waits probed (listed.trans (List.append_nil _))
    | listPods => exact .listing strand reply rfl waits (probed.trans (List.append_nil _)) listed
    | _ =>
      exact .nothing (.inr cause) (probed.trans (List.append_nil _))
        (listed.trans (List.append_nil _))

/-- Whatever happens adds at most one outcome. -/
theorem Chronicle.counts (c : Chronicle) (h : Happening) : c.Counts h := by
  cases h with
  | start => exact .nothing (.inr rfl) rfl rfl
  | stimulus stimulus =>
    cases stimulus with
    | halt => exact .nothing (.inl rfl) rfl rfl
    | answer strand reply => exact c.counts_answer strand reply
    | _ => exact .nothing (.inr rfl) rfl rfl

/-- A listing that failed is a fault of the access to the cluster. -/
theorem listingFault_eq (e : Fault) : ∃ message, listingFault e = .clusterAccess message := by
  unfold listingFault
  split
  · exact ⟨_, rfl⟩
  · exact ⟨_, rfl⟩

/-- What one more outcome comes to: the count of failures lies below its bound and nothing is
decided, or it has come to its bound and the run ends with a fault. -/
inductive Tips (bound count : Nat) (blames : Fault → Prop) : Option Fault → Prop
  | below (few : count < bound) : Tips bound count blames none
  | reached {fault : Fault} (row : count = bound) (blamed : blames fault) :
    Tips bound count blames (some fault)

namespace Tips

variable {bound count : Nat} {blames : Fault → Prop} {verdict : Option Fault}

/-- No count passes its bound. -/
theorem le (tips : Tips bound count blames verdict) : count ≤ bound := by
  cases tips with
  | below few => exact few.le
  | reached row _ => exact row.le

/-- A count that has come to its bound ends the run with a fault. -/
theorem blamed (tips : Tips bound count blames verdict) (row : count = bound) :
    ∃ fault, verdict = some fault ∧ blames fault := by
  cases tips with
  | below few => exact absurd row few.ne
  | reached _ blamed => exact ⟨_, rfl, blamed⟩

/-- A run ends just if a count has come to its bound. -/
theorem decides_iff (tips : Tips bound count blames verdict) :
    verdict.map some ≠ none ↔ count = bound := by
  cases tips with
  | below few => simp [few.ne]
  | reached row _ => simp [row]

/-- One failure more brings a count that lay below its bound there at most. -/
theorem of_failure {fault : Fault} (blames : Fault → Prop) (few : count < bound)
    (blamed : count + 1 = bound → blames fault) :
    Tips bound (count + 1) blames (if bound ≤ count + 1 then some fault else none) := by
  by_cases last : bound ≤ count + 1
  · have row : count + 1 = bound := by omega
    rw [if_pos last]
    exact .reached row (blamed row)
  · rw [if_neg last]
    exact .below (Nat.lt_of_not_le last)

end Tips

/-- As long as the count lies below its bound, the outcome of a probe brings it there at most, and
it ends the run just if it does. -/
theorem tips_probe (tallied : c.affairs.Tallied settings)
    (few : failuresInARow (probes c.record) < settings.maxHeartbeatFailures)
    (content : Biz.Probe) (outcome : Except DeliveryFault Unit) :
    Tips settings.maxHeartbeatFailures (failuresInARow (probes c.record ++ [outcome.isOk]))
      (· = .heartbeatLost settings.maxHeartbeatFailures)
      (c.system.desk.verdict? (.probe content) outcome) := by
  have bounds : c.system.desk.settings = settings := tallied.settings
  have missed : c.system.desk.missedProbes = failuresInARow (probes c.record) := tallied.probes
  rw [failuresInARow_concat]
  cases outcome with
  | ok _ => exact .below (Nat.zero_lt_of_lt few)
  | error fault =>
    have counted := Tips.of_failure (· = Fault.heartbeatLost settings.maxHeartbeatFailures) few
      fun row => congrArg Fault.heartbeatLost row
    unfold Desk.verdict?
    rw [bounds, missed]
    exact counted

/-- As long as the count lies below its bound, the outcome of a listing brings it there at most, and
it ends the run just if it does. -/
theorem tips_listing (tallied : c.affairs.Tallied settings)
    (few : failuresInARow (listings c.record) < settings.maxClusterFailures)
    (answer : Call.listPods.Answer) :
    Tips settings.maxClusterFailures
      (failuresInARow (listings c.record ++ [answer.any Except.isOk]))
      (fun fault => ∃ message, fault = .clusterAccess message)
      (c.system.desk.verdict? .listPods answer) := by
  have bounds : c.system.desk.settings = settings := tallied.settings
  have unlisted : c.system.desk.ledger.failedListings = failuresInARow (listings c.record) :=
    tallied.listings
  rw [any_isOk_eq Call.listPods.what c.system.desk.settings.operationTimeout,
    failuresInARow_concat]
  unfold Desk.verdict?
  dsimp only
  cases bounded Call.listPods.what c.system.desk.settings.operationTimeout answer with
  | ok listing => exact .below (Nat.zero_lt_of_lt few)
  | error fault =>
    have counted := Tips.of_failure (fun fault => ∃ message, fault = Fault.clusterAccess message)
      few fun _ => listingFault_eq fault
    dsimp only
    rw [bounds, unlisted]
    exact counted

end

/-! ## Runs -/

/-- The counts of failures do not pass the bounds, and a loop whose count has come to its bound has
nothing left to do. -/
structure Chronicle.WithinBounds (c : Chronicle) (settings : Settings) : Prop where
  probed : failuresInARow (probes c.record) ≤ settings.maxHeartbeatFailures
  listed : failuresInARow (listings c.record) ≤ settings.maxClusterFailures
  lost : failuresInARow (probes c.record) = settings.maxHeartbeatFailures →
    c.system.Spent .heartbeat
  cut_off : failuresInARow (listings c.record) = settings.maxClusterFailures →
    c.system.Spent .reconcile

section

variable {settings : Settings} {origin : Time.Stamp} {c : Chronicle}
  {causes : List (Option Fault)} {h : Happening}

/-- While the loops are at work the counts have not come to their bounds. -/
theorem Chronicle.WithinBounds.patient (bounds : c.WithinBounds settings)
    (working : c.system.atWork = true) : c.Patient settings := by
  have open_ended := System.not_closing_of_atWork working
  exact ⟨lt_of_le_of_ne bounds.probed fun reached => open_ended (bounds.lost reached).closing,
    lt_of_le_of_ne bounds.listed fun reached => open_ended (bounds.cut_off reached).closing⟩

/-- A loop whose call is open has something left to do. -/
theorem System.Spent.not_open {s : System} {name : LoopName} {call : Call}
    (waits : s.openCall? (.loop name) = some call) : ¬ s.Spent name := by
  intro spent
  rw [spent.closed] at waits
  cases waits

/-- An answer adds one failure at most, and if that reaches the bound the loop has given up. -/
theorem Chronicle.WithinBounds.step (bounds : c.WithinBounds settings)
    (fares : Fares c.record causes c.system) (orderly : c.system.Orderly)
    (tallied : c.affairs.Tallied settings) (h : Happening) :
    (c.step h).WithinBounds settings := by
  have lost := fun reached => (bounds.lost reached).step fares orderly nofun h
  have cut_off := fun reached => (bounds.cut_off reached).step fares orderly nofun h
  cases c.counts h with
  | nothing _ probed listed =>
    rw [← probed] at lost
    rw [← listed] at cut_off
    exact ⟨probed ▸ bounds.probed, listed ▸ bounds.listed, lost, cut_off⟩
  | probe strand reply is content waits probed listed =>
    subst is
    obtain ⟨name, rfl, errand⟩ := fares.strand_of_decides orderly waits trivial
    obtain rfl : name = .heartbeat := by
      cases name with
      | heartbeat => rfl
      | _ => exact errand.elim
    have few := lt_of_le_of_ne bounds.probed fun reached => (bounds.lost reached).not_open waits
    have tips := tips_probe tallied few content (reply (.probe content))
    rw [← probed] at tips
    rw [← listed] at cut_off
    refine ⟨tips.le, listed ▸ bounds.listed, fun reached => ?_, cut_off⟩
    obtain ⟨fault, verdict, -⟩ := tips.blamed reached
    exact fares.spent_of_verdict orderly waits reply verdict
  | listing strand reply is waits probed listed =>
    subst is
    obtain ⟨name, rfl, errand⟩ := fares.strand_of_decides orderly waits trivial
    obtain rfl : name = .reconcile := by
      cases name with
      | reconcile => rfl
      | _ => exact errand.elim
    have few := lt_of_le_of_ne bounds.listed fun reached => (bounds.cut_off reached).not_open waits
    have tips := tips_listing tallied few (reply .listPods)
    rw [← listed] at tips
    rw [← probed] at lost
    refine ⟨probed ▸ bounds.probed, tips.le, lost, fun reached => ?_⟩
    obtain ⟨fault, verdict, -⟩ := tips.blamed reached
    exact fares.spent_of_verdict orderly waits reply verdict

/-- No count ever passes its bound. -/
theorem withinBounds_follow (probes : 1 ≤ settings.maxHeartbeatFailures)
    (listings : 1 ≤ settings.maxClusterFailures) (happenings : List Happening) :
    ((Chronicle.fresh settings origin).follow happenings).WithinBounds settings := by
  induction happenings using List.reverseRecOn with
  | nil =>
    refine ⟨Nat.zero_le _, Nat.zero_le _, fun reached => ?_, fun reached => ?_⟩
    · exact absurd reached (Nat.ne_of_lt probes)
    · exact absurd reached (Nat.ne_of_lt listings)
  | append_singleton early h ih =>
    rw [Chronicle.follow_append]
    obtain ⟨fares, orderly⟩ := fares_follow settings origin early
    exact ih.step fares orderly (tally_follow settings origin early) h

end

/-! ## Passes without a listing -/

/-- What a round does that comes to no listing: nothing but to subscribe. -/
structure Round.Idles (still : Prop) (r : Round) : Prop where
  silent : ∀ moment ∈ r.record, moment.command? = none ∧ moment.statusWrite? = none
  claims : ∀ key, r.after.ledger.claims.get? key = r.before.ledger.claims.get? key
  pods : ∀ key, r.after.ledger.pods.get? key = r.before.ledger.pods.get? key
  written : ∀ key, r.after.ledger.written.get? key = r.before.ledger.written.get? key
  sightings : still → ∀ identity,
    r.after.sightings.get? identity = r.before.sightings.get? identity

/-- What leaves the outlook alone leaves the ledger aside. -/
theorem Desk.aside_of_outlook {d e : Desk} (still : Prop) (outlook : e.outlook = d.outlook) :
    Desk.Aside still d e := by
  have ledger : e.ledger = d.ledger := congrArg Outlook.ledger outlook
  have sightings : e.sightings = d.sightings := congrArg Outlook.sightings outlook
  refine ⟨?_, ?_, ?_, ?_, congrArg Outlook.settings outlook, ?_⟩
  all_goals simp [ledger, sightings]

/-- A pass whose listing failed publishes no command, writes no status and leaves what it keeps. -/
theorem Round.Goes.idles {still : Prop} {r : Round} (goes : r.Goes still) (pass : r.task = .pass)
    (unlisted : r.listing? = none) : r.Idles still := by
  obtain ⟨task, before, record, after⟩ := r
  subst pass
  obtain ⟨s₀, early, s₁, answer, s₂, late, m₀, subscribed, rfl, m₁, outcome⟩ :=
    reconcile_stages goes
  obtain ⟨m, subscribes⟩ : Desk.Aside still before s₁ ∧
      ∀ moment ∈ early, moment.question.Subscribes ∧ Desk.Aside still before moment.state :=
    Course.within subscribed ensureSubscribed_subscribes
      (fun _ _ meanwhile so_far => so_far.trans meanwhile)
      (fun _ _ outlook so_far => so_far.trans (Desk.aside_of_outlook still outlook)) m₀
  have opened := m.trans m₁
  rcases outcome with ⟨none_listed, rfl, e, rfl⟩ | ⟨listing, s₃, s₄, rfl, -⟩
  · have ledger := s₂.ledger_listingFailed e
    have sightings := s₂.sightings_listingFailed e
    refine ⟨?_, ?_, ?_, ?_, ?_⟩
    · rw [List.forall_mem_append]
      refine ⟨?_, by simp [Moment.command?, Moment.statusWrite?]⟩
      rintro ⟨⟨call, answer⟩, asked⟩ mem
      cases call with
      | subscribe purpose => exact ⟨rfl, rfl⟩
      | noting => exact ⟨rfl, rfl⟩
      | _ => exact (subscribes _ mem).1.elim
    · simpa only [ledger] using opened.claims
    · simpa only [ledger] using opened.pods
    · simpa only [ledger] using opened.written
    · simpa only [sightings] using opened.sightings
  · have none_listed := List.findSome?_eq_none_iff.1 unlisted ⟨⟨.listPods, some (.ok listing)⟩, s₁⟩
    cases none_listed (by simp)

/-! ## Giving up -/

/-- Whether the loops stop at a happening, and why. -/
structure Chronicle.GivesUp (c : Chronicle) (settings : Settings) (h : Happening) : Prop where
  /-- They stop if the owner asks for it or a row of failures has come to its bound. -/
  stops : (c.step h).system.atWork = false ↔ h = .stimulus .cancel ∨
    failuresInARow (probes (c.step h).record) = settings.maxHeartbeatFailures ∨
    failuresInARow (listings (c.step h).record) = settings.maxClusterFailures
  lost : failuresInARow (probes (c.step h).record) = settings.maxHeartbeatFailures →
    (c.step h).system.desk.completion.outcome =
      some (some (.heartbeatLost settings.maxHeartbeatFailures))
  cut_off : failuresInARow (listings (c.step h).record) = settings.maxClusterFailures →
    ∃ message,
      (c.step h).system.desk.completion.outcome = some (some (.clusterAccess message))

/-- While the loops are at work they stop exactly when a count has come to its bound, or when the
owner asks for it. -/
theorem Chronicle.Patient.givesUp {c : Chronicle} {causes : List (Option Fault)}
    {settings : Settings} (patient : c.Patient settings) (tallied : c.affairs.Tallied settings)
    (fares : Fares c.record causes c.system) (orderly : c.system.Orderly)
    (working : c.system.atWork = true) (h : Happening) : c.GivesUp settings h := by
  obtain ⟨few_missed, few_unlisted⟩ := patient
  have stops := fares.stops_iff orderly working h
  have outcome {cause} (came : c.cause? h = some cause) :=
    fares.outcome_of_cause orderly working came
  have decides {strand : Strand} {call : Call} (reply : Reply)
      (waits : c.system.openCall? strand = some call) :
      c.cause? (.stimulus (.answer strand reply)) =
        (c.system.desk.verdict? call (reply call)).map some := by
    simp [Chronicle.cause?, waits]
  cases c.counts h with
  | nothing cause probed listed =>
    have none_came : c.cause? h = none := by
      rcases cause with rfl | none_came
      · obtain ⟨stage, going_on⟩ := System.atWork_iff.1 working
        simp [Chronicle.cause?, stage, going_on]
      · exact none_came
    rw [← probed] at few_missed
    rw [← listed] at few_unlisted
    refine ⟨?_, fun reached => absurd reached few_missed.ne,
      fun reached => absurd reached few_unlisted.ne⟩
    simpa [none_came, few_missed.ne, few_unlisted.ne] using stops
  | probe strand reply is content waits probed listed =>
    subst is
    have tips := tips_probe tallied few_missed content (reply (.probe content))
    have cause := decides reply waits
    rw [← probed] at tips
    rw [← listed] at few_unlisted
    refine ⟨?_, fun reached => ?_, fun reached => absurd reached few_unlisted.ne⟩
    · rw [cause, tips.decides_iff] at stops
      simpa [few_unlisted.ne] using stops
    · obtain ⟨fault, verdict, rfl⟩ := tips.blamed reached
      exact outcome (cause.trans (by rw [verdict]; rfl))
  | listing strand reply is waits probed listed =>
    subst is
    have tips := tips_listing tallied few_unlisted (reply .listPods)
    have cause := decides reply waits
    rw [← listed] at tips
    rw [← probed] at few_missed
    refine ⟨?_, fun reached => absurd reached few_missed.ne, fun reached => ?_⟩
    · rw [cause, tips.decides_iff] at stops
      simpa [few_missed.ne] using stops
    · obtain ⟨fault, verdict, message, rfl⟩ := tips.blamed reached
      exact ⟨message, outcome (cause.trans (by rw [verdict]; rfl))⟩

/-- At every moment of every run the counts on the desk are the numbers of failures in a row, which
never pass the bounds, and a loop whose count has come to its bound makes no call any more.  While
the loops are at work they stop exactly with the answer that completes a row of as many failures as
the bound says, or when the owner asks for it, and in the former case the fault is on record.  A
pass whose listing failed does nothing else. -/
theorem gives_up_at_threshold (settings : Settings) (origin : Time.Stamp)
    (happenings : List Happening) (probed : 1 ≤ settings.maxHeartbeatFailures)
    (listed : 1 ≤ settings.maxClusterFailures) :
    let c := (Chronicle.fresh settings origin).follow happenings
    (c.system.desk.missedProbes = failuresInARow (probes c.record) ∧
      c.system.desk.missedProbes ≤ settings.maxHeartbeatFailures ∧
      (c.system.desk.missedProbes = settings.maxHeartbeatFailures →
        c.system.openCall? (.loop .heartbeat) = none)) ∧
    (c.system.desk.ledger.failedListings = failuresInARow (listings c.record) ∧
      c.system.desk.ledger.failedListings ≤ settings.maxClusterFailures ∧
      (c.system.desk.ledger.failedListings = settings.maxClusterFailures →
        c.system.openCall? (.loop .reconcile) = none)) ∧
    (c.system.atWork = true → ∀ h, c.GivesUp settings h) ∧
    ∀ (still : Prop) (r : Round), r.Goes still → r.task = .pass → r.listing? = none →
      r.Idles still := by
  intro c
  have tallied : c.affairs.Tallied settings := tally_follow settings origin happenings
  have bounds : c.WithinBounds settings := withinBounds_follow probed listed happenings
  obtain ⟨fares, orderly⟩ := fares_follow settings origin happenings
  have missed : c.system.desk.missedProbes = failuresInARow (probes c.record) := tallied.probes
  have unlisted : c.system.desk.ledger.failedListings = failuresInARow (listings c.record) :=
    tallied.listings
  refine ⟨⟨missed, ?_, ?_⟩, ⟨unlisted, ?_, ?_⟩, ?_, fun _ _ goes => goes.idles⟩
  · exact missed.le.trans bounds.probed
  · exact fun reached => (bounds.lost (missed.symm.trans reached)).closed
  · exact unlisted.le.trans bounds.listed
  · exact fun reached => (bounds.cut_off (unlisted.symm.trans reached)).closed
  · exact fun working => (bounds.patient working).givesUp tallied fares orderly working

/-- A run in which the pods could not be listed four times, and are being listed once more. -/
def unlistedRun : List Happening :=
  [.start, granted .life, granted .life, granted .life, granted .life, granted .life] ++
    (List.replicate 4 [.stimulus .pass, refused (.loop .reconcile)]).flatten ++ [.stimulus .pass]

/-- With the standard bound of five the fifth listing that fails is the last one. -/
theorem gives_up_at_threshold_unlisted :
    let c := (Chronicle.fresh default default).follow unlistedRun
    let c' := c.step (refused (.loop .reconcile))
    (1 ≤ (default : Settings).maxHeartbeatFailures ∧ 1 ≤ (default : Settings).maxClusterFailures ∧
      c.system.atWork = true ∧ failuresInARow (listings c'.record) = 5) ∧
    c'.system.atWork = false ∧
      ∃ message, c'.system.desk.completion.outcome = some (some (.clusterAccess message)) := by
  intro c c'
  have working : c.system.atWork = true := by decide
  have row : failuresInARow (listings c'.record) = 5 := by decide
  obtain ⟨-, -, gives_up, -⟩ :=
    gives_up_at_threshold default default unlistedRun (by decide) (by decide)
  have given_up := gives_up working (refused (.loop .reconcile))
  exact ⟨⟨by decide, by decide, working, row⟩, given_up.stops.2 (.inr (.inr row)),
    given_up.cut_off row⟩

end VirtualNode.Controller
