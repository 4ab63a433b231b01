import VirtualNode.Proofs.Ending.Finish

/-!
# Removal

Whatever happens: a controller whose node was registered and that is about to end waits until its
loops have ended one after the other.  Then it makes the calls of the removal one after the other
and no other calls.  Nothing counts as ready when it disconnects, it is finished when it has
disconnected, and of the outcomes that were recorded the first one counts (`removed_in_order`).
-/

set_option autoImplicit false

namespace VirtualNode.Controller

/-! ## What does not come back -/

namespace System

/-- The node is being removed, or the run is over. -/
def Removing (s : System) : Prop :=
  match s.stage with
  | .retiring _ | .over => True
  | _ => False

/-- The run has been started. -/
def Started (s : System) : Prop := s.stage ≠ .idle

variable {s : System}

/-- The node is being removed just if the removal is under way or over. -/
theorem removing_iff : s.Removing ↔ (∃ work, s.stage = .retiring work) ∨ s.stage = .over := by
  unfold Removing
  cases s.stage <;> simp

/-- A run that removes its node has been started. -/
theorem Removing.started (removing : s.Removing) : s.Started := by
  intro idle
  simp [Removing, idle] at removing

/-- A removal that goes on is under way or over. -/
theorem removing_goOnRetiring (s : System) (task : Activity Unit) :
    (goOnRetiring .silent task s ()).1.Removing := by
  unfold goOnRetiring
  split <;> trivial

/-- A registration that goes on has been started. -/
theorem started_goOnEnlisting (s : System) (task : Activity Bool) :
    (goOnEnlisting .silent task s ()).1.Started := by
  obtain ⟨e, enrolls⟩ := enrolls_goOnEnlisting task s
  generalize (goOnEnlisting .silent task s ()).1 = s' at enrolls
  cases enrolls with
  | works => simp [Started]
  | _ => nofun

/-- A run that has been started stays so. -/
theorem Started.meet (started : s.Started) (h : Happening) : (s.meet h).Started := by
  have turn := s.turn h
  generalize s.meet h = s' at turn
  cases turn with
  | enlist _ _ => exact started_goOnEnlisting _ _
  | enlisting _ _ => exact started_goOnEnlisting _ _
  | begin _ _ => simpa [Started] using started
  | busy _ _ => simpa [Started] using started
  | halt _ _ _ => nofun
  | join _ _ _ => exact (removing_goOnRetiring _ _).started
  | retiring _ _ => exact (removing_goOnRetiring _ _).started
  | _ => exact started

/-- A run has been started once it was started. -/
theorem started_meet_start (s : System) : (s.meet .start).Started := by
  by_cases idle : s.stage = .idle
  · simp only [meet, start, idle]
    exact started_goOnEnlisting _ _
  · exact Started.meet idle .start

/-- A run that has been started is not started again. -/
theorem Started.start {ω : Type} (started : s.Started) (env : Surroundings ω) (w : ω) :
    s.start env w = .error .alreadyStarted ∧ s.meet .start = s := by
  cases stage : s.stage with
  | idle => exact absurd stage started
  | _ => simp [System.start, System.meet, stage]

end System

/-- A run is under way after its start. -/
theorem started_follow (c : Chronicle) (happenings : List Happening)
    (started : c.system.Started ∨ .start ∈ happenings) : (c.follow happenings).system.Started := by
  induction happenings generalizing c with
  | nil => simpa [Chronicle.follow] using started
  | cons h later ih =>
    refine ih (c.step h) ?_
    rcases started with started | mem
    · exact .inl (started.meet h)
    · rcases List.mem_cons.1 mem with rfl | mem
      · exact .inl (System.started_meet_start c.system)
      · exact .inr mem

/-! ## What happens while no loops are at work -/

/-- A run stands where it stood. -/
structure Chronicle.Stays (c c' : Chronicle) : Prop where
  stage : c'.system.stage = c.system.stage
  record : c'.record = c.record
  completion : c'.system.desk.completion = c.system.desk.completion
  settings : c'.system.desk.settings = c.system.desk.settings

/-- What comes from outside concerns neither the end of the run nor its settings. -/
theorem Happening.touch_aside (h : Happening) (d : Desk) :
    (h.touch d).completion = d.completion ∧ (h.touch d).settings = d.settings := by
  cases h with
  | start => exact ⟨rfl, rfl⟩
  | stimulus stimulus =>
    cases stimulus with
    | _ => exact ⟨rfl, rfl⟩

/-- While the run neither serves the node nor waits for loops, nothing takes it further but its
start and the answer to the call that is open. -/
theorem step_of_loopless {c : Chronicle} (orderly : c.system.Orderly)
    (serving : c.system.stage ≠ .serving) (joining : c.system.stage ≠ .joining) (h : Happening) :
    c.Stays (c.step h) ∨ (h = .start ∧ c.system.stage = .idle) ∨
      ∃ reply call, h = .stimulus (.answer .life reply) ∧ c.system.openCall? .life = some call := by
  have works {name : LoopName} (working : c.system.loops.get name = .resting ∨
      ∃ p, c.system.loops.get name = .busy p) : False :=
    (orderly.stage_of_working working).elim serving joining
  have turn := c.system.turn h
  generalize system : c.system.meet h = s at turn
  have here : (c.step h).system = s := system
  cases turn with
  | outside outer =>
    obtain ⟨completion, settings⟩ := h.touch_aside c.system.desk
    have record : (c.step h).record = c.record :=
      record_step_silent (by simp [Happening.answered?_of_outside outer])
    refine .inl ⟨?_, record, ?_, ?_⟩
    · rw [here]
    · rw [here]
      exact completion
    · rw [here]
      exact settings
  | still _ closed =>
    refine .inl ⟨?_, record_step_silent closed, ?_, ?_⟩
    · rw [here]
    · rw [here]
    · rw [here]
  | enlist is idle => exact .inr (.inl ⟨is, idle⟩)
  | enlisting is stage => exact .inr (.inr ⟨_, _, is, System.openCall?_enlisting stage⟩)
  | begin _ resting => exact (works (.inl resting)).elim
  | busy _ busy => exact (works (.inr ⟨_, busy⟩)).elim
  | quit _ _ working => exact (works working).elim
  | halt _ serves _ => exact absurd serves serving
  | join _ joins _ => exact absurd joins joining
  | retiring is stage => exact .inr (.inr ⟨_, _, is, System.openCall?_retiring stage⟩)

/-! ## What happens while the node is being removed -/

section Removal

variable {c : Chronicle} {causes : List (Option Fault)}

/-- Nothing but the answer to the open call of the removal takes a run further that is
being ended. -/
theorem step_of_removing (orderly : c.system.Orderly) (removing : c.system.Removing)
    (h : Happening) : c.Stays (c.step h) ∨
      ∃ reply work, h = .stimulus (.answer .life reply) ∧ c.system.stage = .retiring work := by
  have serving : c.system.stage ≠ .serving := by
    intro stage
    simp [System.Removing, stage] at removing
  have joining : c.system.stage ≠ .joining := by
    intro stage
    simp [System.Removing, stage] at removing
  rcases step_of_loopless orderly serving joining h with
    stays | ⟨-, idle⟩ | ⟨reply, call, rfl, waits⟩
  · exact .inl stays
  · exact absurd idle removing.started
  · rcases System.removing_iff.1 removing with ⟨work, stage⟩ | stage
    · exact .inr ⟨reply, work, rfl, stage⟩
    · simp [System.openCall?, stage] at waits

/-- A controller that removes its node goes on with that, and makes no other calls. -/
theorem removing_step (fares : Fares c.record causes c.system) (orderly : c.system.Orderly)
    (removing : c.system.Removing) (h : Happening) : (c.step h).system.Removing ∧
      ∃ more, (c.step h).record = c.record ++ more ∧ ∀ moment ∈ more, moment.question ∈ farewell := by
  rcases step_of_removing orderly removing h with stays | ⟨reply, work, rfl, stage⟩
  · refine ⟨?_, [], by simpa using stays.record, by simp⟩
    unfold System.Removing
    rw [stays.stage]
    exact removing
  · have known := fares
    simp only [Fares, stage] at known
    refine ⟨?_, _, record_step_answer reply (System.openCall?_retiring stage), ?_⟩
    · have system : (c.step (.stimulus (.answer .life reply))).system =
          (System.goOnRetiring .silent (work.next (reply work.call)) c.system ()).1 := by
        simp [Chronicle.step, System.meet, System.react, System.take, stage]
      rw [system]
      exact System.removing_goOnRetiring _ _
    · intro moment mem
      rw [List.mem_singleton.1 mem]
      exact known.2.2.mem

/-- The removal makes no other calls, whatever happens. -/
theorem removing_follow (fares : Fares c.record causes c.system) (orderly : c.system.Orderly)
    (removing : c.system.Removing) (happenings : List Happening) :
    (c.follow happenings).system.Removing ∧
      ∃ more, (c.follow happenings).record = c.record ++ more ∧
        ∀ moment ∈ more, moment.question ∈ farewell := by
  induction happenings generalizing c causes with
  | nil => exact ⟨removing, [], (List.append_nil _).symm, by simp⟩
  | cons h later ih =>
    obtain ⟨still, first, record, first_calls⟩ := removing_step fares orderly removing h
    obtain ⟨at_last, rest, record', rest_calls⟩ := ih (fares.step orderly h) (orderly.meet h) still
    refine ⟨at_last, first ++ rest, ?_, ?_⟩
    · rw [← List.append_assoc, ← record]
      exact record'
    · intro moment mem
      exact (List.mem_append.1 mem).elim (first_calls moment) (rest_calls moment)

/-- Nothing changes the outcome of a run that is over. -/
theorem over_follow (orderly : c.system.Orderly) (ended : c.system.stage = .over)
    (happenings : List Happening) :
    (c.follow happenings).system.desk.completion = c.system.desk.completion := by
  induction happenings generalizing c with
  | nil => rfl
  | cons h later ih =>
    have removing : c.system.Removing := System.removing_iff.2 (.inr ended)
    rcases step_of_removing orderly removing h with stays | ⟨_, work, -, retiring⟩
    · exact (ih (orderly.meet h) (stays.stage.trans ended)).trans stays.completion
    · rw [ended] at retiring
      cases retiring

end Removal

/-! ## Every run -/

/-- How a run goes on and ends whose node was registered, given the outcomes that were recorded. -/
structure Chronicle.Concludes (c : Chronicle) (causes : List (Option Fault)) : Prop where
  /-- The run is about to end just if its owner has cancelled it or some outcome was recorded. -/
  stopping : c.system.desk.stopping = (c.system.desk.cancelled || !causes.isEmpty)
  /-- As long as the node is not being removed, no call of the removal is made, and the run is not
  finished. -/
  before : ¬ c.system.Removing → (∀ moment ∈ c.record, moment.question ∉ farewell) ∧
    (∀ strand, ∀ call ∈ c.system.openCall? strand, call ∉ farewell) ∧ c.system.isDone = false
  /-- The run waits for its loops, and removes the node, only when some outcome was recorded. -/
  caused : c.system.stage = .joining ∨ c.system.Removing → causes ≠ []
  /-- Once the node is being removed all loops have ended, and of the calls of the removal, which are
  made in order and each once, some were answered and the next one is open.  The run is finished when
  none is left. -/
  calls : c.system.Removing → (∀ name, c.system.loops.get name = .ended) ∧
    ∃ early told left, c.record = early ++ told ∧ (∀ moment ∈ early, moment.question ∉ farewell) ∧
      told.map (·.question) ++ left = farewell ∧ c.system.openCall? .life = left.head? ∧
      (c.system.isDone = true ↔ left = [])
  /-- Nothing counts as ready when the controller disconnects and when the run is finished. -/
  offline : c.system.openCall? .life = some .disconnect ∨ c.system.isDone = true →
    c.system.desk.health.isReady = false ∧ c.system.desk.metrics.nodeReady = false
  /-- The outcome is the first one that was recorded. -/
  outcome : c.system.desk.completion.outcome = causes.head?
  /-- The fault of a run that is finished is the first outcome, unless that is none. -/
  fault : c.system.isDone = true → c.system.desk.completion.fault? = causes.head?.join

/-- A controller that does not count as registered is not ready. -/
theorem isReady_of_unregistered {h : Watch.Health} (unregistered : h.registered = false) :
    h.isReady = false := by
  simp [Watch.Health.isReady, Watch.Health.unreadyReason?, unregistered]

/-- How a run goes on whose node is being removed. -/
theorem Leaving.concludes {c : Chronicle} {causes : List (Option Fault)} {stop : Stop Unit}
    (leaving : Leaving c.record causes stop c.system.desk) (removing : c.system.Removing)
    (ended : c.system.loops.allEnded = true)
    (stops : ∀ left, stop = upcoming left → c.system.openCall? .life = left.head?) :
    c.Concludes causes := by
  have none_left : ∀ left, stop = upcoming left → (stop = .ends () ↔ left = []) := by
    rintro left rfl
    cases left <;> simp [upcoming]
  have offline : c.system.desk.Offline →
      c.system.desk.health.isReady = false ∧ c.system.desk.metrics.nodeReady = false :=
    fun absent => ⟨isReady_of_unregistered absent.1, absent.2⟩
  obtain ⟨⟨early, told, left, record, before, whole, here⟩, caused, ⟨outcome, stopping⟩, done,
    absent⟩ := leaving
  refine ⟨stopping, fun still => absurd removing still, fun _ => caused,
    fun _ => ⟨System.allEnded_iff.1 ended, early, told, left, record, before, whole,
      stops left here, done.trans (none_left left here)⟩, ?_, outcome, ?_⟩
  · rintro (last | finished)
    · refine offline (absent (.inl ?_))
      rw [stops left here] at last
      cases left with
      | nil => cases last
      | cons call rest =>
        cases last
        exact here
    · exact offline (absent (.inr (done.1 finished)))
  · intro finished
    have recorded : c.system.desk.completion.outcome = causes.head? := outcome
    have is_done : c.system.desk.completion.done = true := finished
    simp [Completion.fault?, Completion.recorded?, is_done, recorded]

/-- How a run goes on whose node is being served, or is about to be. -/
theorem Serving.concludes {c : Chronicle} {causes : List (Option Fault)}
    (serving : Serving c.record causes c.system.desk.ending) (still : ¬ c.system.Removing)
    (calls : ∀ strand, ∀ call ∈ c.system.openCall? strand, call ∉ farewell)
    (caused : c.system.stage = .joining → causes ≠ []) : c.Concludes causes := by
  have unfinished : c.system.isDone = false := serving.unfinished
  refine ⟨serving.tells.stopping, fun _ => ⟨serving.before, calls, unfinished⟩,
    fun either => either.elim caused fun removing => absurd removing still,
    fun removing => absurd removing still, ?_, serving.tells.outcome, ?_⟩
  · rintro (last | finished)
    · exact absurd (mem_farewell.2 (by simp)) (calls .life .disconnect last)
    · rw [unfinished] at finished
      cases finished
  · intro finished
    rw [unfinished] at finished
    cases finished

section Open

variable {s : System} {strand : Strand} {call : Call}

/-- Only the registration or the removal waits while loops do nothing. -/
theorem waits_life (orderly : s.Orderly) (serving : s.stage ≠ .serving)
    (joining : s.stage ≠ .joining) (waits : s.openCall? strand = some call) :
    s.openCall? .life = some call := by
  cases strand with
  | life => exact waits
  | loop name =>
    rw [System.openCall?_of_off (orderly serving joining name)] at waits
    cases waits

/-- While the node is being registered only the registration waits. -/
theorem call_eq_of_enlisting {work : Pending Bool} (orderly : s.Orderly)
    (stage : s.stage = .enlisting work) (waits : s.openCall? strand = some call) :
    call = work.call := by
  have waits := waits_life orderly (by simp [stage]) (by simp [stage]) waits
  rw [System.openCall?_enlisting stage] at waits
  exact (Option.some.inj waits).symm

/-- While the node is being removed only the removal waits. -/
theorem call_eq_of_retiring {work : Pending Unit} (orderly : s.Orderly)
    (stage : s.stage = .retiring work) (waits : s.openCall? strand = some call) :
    call = work.call := by
  have waits := waits_life orderly (by simp [stage]) (by simp [stage]) waits
  rw [System.openCall?_retiring stage] at waits
  exact (Option.some.inj waits).symm

/-- While loops are at work they wait for answers to their own calls. -/
theorem LoopsBehave.errand (behave : LoopsBehave s.loops)
    (stage : s.stage = .serving ∨ s.stage = .joining) (waits : s.openCall? strand = some call) :
    ∃ name, call.Errand name := by
  cases strand with
  | life => rcases stage with stage | stage <;> simp [System.openCall?, stage] at waits
  | loop name =>
    obtain ⟨work, busy, rfl⟩ := System.busy_of_openCall? waits
    exact ⟨name, (behave name work busy).2⟩

end Open

/-- What is known of a run whose node was registered tells how it goes on. -/
theorem Fares.concludes {c : Chronicle} {causes : List (Option Fault)}
    (fares : Fares c.record causes c.system) (orderly : c.system.Orderly)
    (registered : Registered c.record) : c.Concludes causes := by
  have asked : c.record ≠ [] := by
    rintro nothing
    obtain ⟨moment, mem, -⟩ := registered
    rw [nothing] at mem
    cases mem
  have serves (stage : c.system.stage = .serving ∨ c.system.stage = .joining) :
      c.Concludes causes := by
    obtain ⟨⟨serving, behave⟩, caused⟩ := fares.serves stage
    refine serving.concludes ?_ ?_ caused
    · rcases stage with stage | stage <;> simp [System.Removing, stage]
    · intro strand call waits
      obtain ⟨name, errand⟩ := behave.errand stage waits
      exact errand.not_mem_farewell
  cases stage : c.system.stage with
  | idle =>
    simp only [Fares, stage] at fares
    exact absurd fares.1 asked
  | enlisting work =>
    simp only [Fares, stage] at fares
    obtain ⟨-, enlisting⟩ := fares
    have only : ∀ strand, ∀ call ∈ c.system.openCall? strand, call = work.call :=
      fun strand call waits => call_eq_of_enlisting orderly stage waits
    obtain ⟨call, next⟩ := work
    cases enlisting with
    | asked node nothing => exact absurd nothing asked
    | worked subscribes serving =>
      refine serving.concludes (by simp [System.Removing, stage]) ?_ (by simp [stage])
      intro strand call waits
      rw [only strand call waits]
      exact subscribes.not_mem_farewell
    | failed refused => exact absurd registered refused
  | serving => exact serves (.inl stage)
  | joining => exact serves (.inr stage)
  | retiring work =>
    simp only [Fares, stage] at fares
    refine fares.2.2.concludes (by simp [System.Removing, stage]) fares.2.1 ?_
    intro left here
    rw [System.openCall?_retiring stage]
    cases left with
    | nil => cases here
    | cons call rest =>
      cases here
      rfl
  | _ =>
    simp only [Fares, stage] at fares
    obtain ⟨ended, leaving⟩ := fares.resolve_left (absurd registered)
    refine leaving.concludes (by simp [System.Removing, stage]) ended ?_
    intro left here
    cases left with
    | nil => simp [System.openCall?, stage]
    | cons call rest => cases here

/-- A run is over once it is finished. -/
theorem Chronicle.Concludes.over {c : Chronicle} {causes : List (Option Fault)}
    (concludes : c.Concludes causes) (finished : c.system.isDone = true) :
    c.system.stage = .over := by
  by_cases removing : c.system.Removing
  · rcases System.removing_iff.1 removing with ⟨work, stage⟩ | ended
    · obtain ⟨-, _, _, left, -, -, -, waits, none_left⟩ := concludes.calls removing
      rw [none_left.1 finished] at waits
      simp [System.openCall?, stage] at waits
    · exact ended
  · have unfinished := (concludes.before removing).2.2
    rw [finished] at unfinished
    cases unfinished

/-- What is recorded later comes after what was recorded before. -/
theorem Chronicle.causes_append (c : Chronicle) (early late : List Happening) :
    c.causes (early ++ late) = c.causes early ++ (c.follow early).causes late := by
  induction early generalizing c with
  | nil => rfl
  | cons h early ih =>
    rw [List.cons_append, Chronicle.causes, Chronicle.causes, ih (c.step h), List.append_assoc]
    rfl

/-- Whatever happens: a run whose node was registered ends with the removal of the node, its outcome
is the first one that was recorded, and what happens later changes neither.  Once it is about to end
it comes to its end, whatever it is answered.  A run that has been started is not started again. -/
theorem removed_in_order (settings : Settings) (origin : Time.Stamp)
    (early late : List Happening) :
    let c := (Chronicle.fresh settings origin).follow early
    let c' := (Chronicle.fresh settings origin).follow (early ++ late)
    (Registered c.record →
      c.Concludes ((Chronicle.fresh settings origin).causes early) ∧
      (c.system.Removing → c'.system.Removing ∧ ∃ more, c'.record = c.record ++ more ∧
        ∀ moment ∈ more, moment.question ∈ farewell) ∧
      (∀ outcome, c.system.desk.completion.outcome = some outcome →
        c'.system.desk.completion.outcome = some outcome) ∧
      (c.system.isDone = true → c'.system.desk.completion = c.system.desk.completion) ∧
      (c.system.desk.stopping = true → c.ComesTo fun ended => ended.system.isDone = true)) ∧
    (.start ∈ early → (∀ (ω : Type) (env : Surroundings ω) (w : ω),
        c.system.start env w = .error .alreadyStarted) ∧
      (c.step .start).system = c.system ∧ (c.step .start).record = c.record) := by
  intro c c'
  obtain ⟨fares, orderly⟩ := fares_follow settings origin early
  have whole : c' = c.follow late := Chronicle.follow_append _ early late
  constructor
  · intro registered
    have concludes := fares.concludes orderly registered
    refine ⟨concludes, ?_, ?_, ?_, ?_⟩
    · intro removing
      rw [whole]
      exact removing_follow fares orderly removing late
    · intro outcome recorded
      obtain ⟨fares', orderly'⟩ := fares_follow settings origin (early ++ late)
      have registered' : Registered c'.record := by
        obtain ⟨moment, mem, works⟩ := registered
        refine ⟨moment, ?_, works⟩
        rw [whole]
        exact (c.record_prefix_follow late).subset mem
      have first := concludes.outcome.symm.trans recorded
      rw [(fares'.concludes orderly' registered').outcome, Chronicle.causes_append,
        List.head?_append, first]
      rfl
    · intro finished
      rw [whole]
      exact over_follow orderly (concludes.over finished) late
    · exact (runs_follow settings origin early registered).finishes
  · intro started
    have running : c.system.Started := started_follow _ early (.inr started)
    exact ⟨fun ω env w => (running.start env w).1, (running.start .silent ()).2, rfl⟩

/-- A run in which three probes fail while a listing waits for its answer.  Then the owner cancels
it, and that is recorded as well.  The loops end one by one, and nothing that belongs to the removal
works. -/
def lostRun : List Happening :=
  [.start, granted .life, granted .life, granted .life, granted .life, granted .life,
    granted (.loop .renewal), .stimulus .pass,
    .stimulus .beat, refused (.loop .heartbeat), refused (.loop .heartbeat),
    .stimulus .beat, refused (.loop .heartbeat), refused (.loop .heartbeat),
    .stimulus .beat, refused (.loop .heartbeat), .stimulus .cancel,
    .stimulus (.quit .heartbeat), .stimulus .halt, .stimulus (.quit .renewal),
    .stimulus (.quit .reconcile), .stimulus .join,
    refused .life, refused .life, refused .life, refused .life]

/-- The fault that was recorded first is the outcome, although the owner has cancelled the run
before it ended. -/
theorem removed_in_order_lost :
    let c := (Chronicle.fresh default default).follow lostRun
    c.system.isDone = true ∧
      (Chronicle.fresh default default).causes lostRun = [some (.heartbeatLost 3), none] ∧
      c.system.desk.completion.fault? = some (.heartbeatLost 3) ∧
      (c.record.drop 11).map (·.question) = farewell ∧ c.system.desk.health.isReady = false := by
  intro c
  have registered : Registered c.record :=
    ⟨_, List.mem_cons_self, _, rfl⟩
  have finished : c.system.isDone = true := by decide
  have recorded : (Chronicle.fresh default default).causes lostRun =
      [some (.heartbeatLost 3), none] := by decide
  obtain ⟨⟨concludes, -, -⟩, -⟩ :=
    (removed_in_order default default lostRun []).imp_left (· registered)
  refine ⟨finished, recorded, ?_, by decide, (concludes.offline (.inr finished)).1⟩
  rw [concludes.fault finished, recorded]
  rfl

end VirtualNode.Controller
