import VirtualNode.Proofs.Interleaving.Chronicle
import VirtualNode.Proofs.Restraint

/-!
# Contracts between strands

The strands of a controller take turns at the desk.  A contract says what each strand does to the
affairs in one go, until it waits for an answer or ends (`own`), what it relies on while it waits
(`rely`), what holds whenever nobody is at the desk (`law`), what holds while a loop is at rest
(`rest`), and what holds when it has just come to rest (`close`).

`Contract.Abides` says that a dialogue sticks to its part whatever is answered and whatever others
do within theirs.  Main statement: if every task sticks to its part, and if what a strand does and
what comes from outside is what the others rely on, then the law holds at every moment of every
run, and so does what is said of the loops at rest (`Contract.Kept.follow`).
-/

set_option autoImplicit false

namespace VirtualNode.Controller

open Dialogue (Environment)

/-- What each strand may do, and what it may rely on. -/
structure Contract where
  /-- Holds whenever nobody is at the desk. -/
  law : Affairs → Prop
  /-- What a strand does in one go. -/
  own : Strand → Affairs → Affairs → Prop
  /-- What others may do while a strand waits for the answer to a call. -/
  rely : Strand → Call → Affairs → Affairs → Prop
  /-- Holds until the run is started. -/
  idle : Affairs → Prop
  /-- Holds while a loop is at rest. -/
  rest : LoopName → Affairs → Prop
  /-- Holds when a loop has just come to the end of a task. -/
  close : LoopName → Affairs → Prop := fun _ _ => True

/-- Which messages are provided for. -/
abbrev Heed := Affairs → Topic.Purpose → ByteArray → Prop

/-- What comes from outside, while some calls are open. -/
inductive Outside (heed : Heed) (calls : Strand → Option Call) (i : Affairs) : Affairs → Prop where
  | elapse (ms : Nat) :
    Outside heed calls i (i.withDesk { i.desk with clock := i.desk.clock + ms })
  | cancel :
    Outside heed calls i (i.withDesk { i.desk with cancelled := true, stopping := true })
  | connect : Outside heed calls i (i.connected calls)
  | message (purpose : Topic.Purpose) (topic : String) (payload : ByteArray)
      (heeded : heed i purpose payload) :
    Outside heed calls i (i.withDesk { i.desk with
      toInbox := i.desk.toInbox.receive purpose topic payload })
  /-- The run notes that it ends because its owner has asked for it. -/
  | outcome : Outside heed calls i (i.withDesk (i.desk.recordOutcome none))

/-- Whether what happens is no message but one that is provided for. -/
def Happening.Heeded (heed : Heed) (i : Affairs) : Happening → Prop
  | .stimulus (.message purpose _ payload) => heed i purpose payload
  | _ => True

/-- Every happening is heeded if all messages are provided for. -/
theorem Happening.heeded_of_all (h : Happening) (i : Affairs) :
    h.Heeded (fun _ _ _ => True) i := by
  unfold Happening.Heeded
  split
  · trivial
  · trivial

/-- What comes from outside changes the affairs in the way of the outside. -/
theorem Happening.outside {heed : Heed} {c : Chronicle} {h : Happening}
    (outer : h.isOutside = true) (heeded : h.Heeded heed c.affairs) :
    Outside heed c.system.openCall? c.affairs (c.step h).affairs := by
  cases h with
  | start => cases outer
  | stimulus stimulus =>
    cases stimulus with
    | elapse ms => exact .elapse ms
    | cancel => exact .cancel
    | connect => exact .connect
    | message purpose topic payload => exact .message purpose topic payload heeded
    | _ => cases outer

/-- All connects so far have been seen. -/
def Affairs.seen (i : Affairs) : Affairs :=
  i.withDesk { i.desk with sessionsSeen := i.desk.sessions }

namespace Contract

variable {K : Contract} {α β : Type} {strand : Strand} {i j : Affairs}

/-! ## Sticking to a contract -/

/-- What is said of the end of a dialogue: of its result, of the affairs when it last began to work
and of the affairs at its end. -/
abbrev Post (α : Type) := α → Affairs → Affairs → Prop

/-- Whether a dialogue that began to work in the affairs `i` and has come to the affairs `j` sticks
to its part, and ends with `post`. -/
def Abides (K : Contract) (strand : Strand) :
    Activity α → Affairs → Affairs → Post α → Prop
  | .done a, i, j, post => post a i j
  | .read next, i, j, post => K.Abides strand (next j.desk) i j post
  | .write d next, i, j, post => K.Abides strand next i (j.withDesk d) post
  | .ask call next, i, j, post => K.own strand i j ∧ K.law j ∧
      ∀ k, K.rely strand call j k → K.law k → ∀ answer,
        K.Abides strand (next answer) k (k.note ⟨⟨call, answer⟩, j.desk⟩) post

/-- Whether work that waits sticks to its part once the answer is there. -/
def Ready (K : Contract) (strand : Strand) (work : Pending α) (i : Affairs) (asked : Desk)
    (post : Post α) : Prop :=
  ∀ k, K.rely strand work.call i k → K.law k → ∀ answer,
    K.Abides strand (work.next answer) k (k.note ⟨⟨work.call, answer⟩, asked⟩) post

/-- What sticks to a contract and ends well also ends well by a weaker standard. -/
theorem abides_mono {d : Activity α} {post weaker : Post α}
    (abides : K.Abides strand d i j post) (implies : ∀ a i j, post a i j → weaker a i j) :
    K.Abides strand d i j weaker := by
  induction d generalizing i j with
  | done a => exact implies a i j abides
  | read next ih => exact ih j.desk abides
  | write d next ih => exact ih abides
  | ask call next ih =>
    obtain ⟨own, law, go_on⟩ := abides
    exact ⟨own, law, fun k rely law answer => ih answer (go_on k rely law answer)⟩

/-- A sequence sticks to its part if its first dialogue does, and then the second. -/
theorem abides_bind {d : Activity α} {f : α → Activity β} {post : Post β} :
    K.Abides strand (d.bind f) i j post ↔
      K.Abides strand d i j fun a i j => K.Abides strand (f a) i j post := by
  induction d generalizing i j with
  | done a => exact Iff.rfl
  | read next ih => exact ih j.desk
  | write d next ih => exact ih
  | ask call next ih =>
    simp only [Dialogue.bind_ask, Abides]
    refine and_congr_right fun _ => and_congr_right fun _ => ?_
    exact forall_congr' fun k => forall_congr' fun _ => forall_congr' fun _ =>
      forall_congr' fun answer => ih answer

/-- To look at the desk changes nothing. -/
theorem abides_desk {post : Post Desk} :
    K.Abides strand Activity.desk i j post ↔ post j.desk i j := Iff.rfl

/-- A change of the desk is over at once. -/
theorem abides_change {f : Desk → Desk} {post : Post Unit} :
    K.Abides strand (Activity.change f) i j post ↔ post () i (j.withDesk (f j.desk)) := Iff.rfl

/-- When nobody answers at once, work that sticks to its part comes to its end or to a call, and
then sticks to its part once that is answered. -/
theorem abides_advance {d : Activity α} {post : Post α} (abides : K.Abides strand d i j post) :
    match d.advance .silent j.desk () with
    | (e, _, .finished a) => post a i (j.withDesk e)
    | (e, _, .waiting call next) => K.own strand i (j.withDesk e) ∧ K.law (j.withDesk e) ∧
        K.Ready strand ⟨call, next⟩ (j.withDesk e) e post := by
  induction d generalizing j with
  | done a => exact abides
  | read next ih => exact ih j.desk abides
  | write d next ih =>
    have later := ih abides
    exact later
  | ask call next ih => exact abides

/-- A dialogue that changes the desk only within `R` and makes only calls of `Q` sticks to its part
if `P` says so much and nothing that can happen breaks `P`. -/
theorem abides_of_within {R : Desk → Desk → Prop} {Q : Call → Prop} {d : Activity α}
    {P : Affairs → Affairs → Prop} (within : d.Within R Q j.desk) (now : P i j)
    (change : ∀ i j e, R j.desk e → P i j → P i (j.withDesk e))
    (call : ∀ i j call, Q call → P i j → K.own strand i j ∧ K.law j ∧
      ∀ k, K.rely strand call j k → K.law k → ∀ answer, P k (k.note ⟨⟨call, answer⟩, j.desk⟩)) :
    K.Abides strand d i j fun _ i j => P i j := by
  induction d generalizing i j with
  | done a => exact now
  | read next ih => exact ih j.desk (within j.desk) now
  | write e next ih => exact ih within.2 (change i j e within.1 now)
  | ask question next ih =>
    obtain ⟨own, law, after⟩ := call i j question within.1 now
    refine ⟨own, law, fun k rely law answer => ?_⟩
    exact ih answer (within.2 answer _) (after k rely law answer)

/-! ## The obligations -/

/-- What holds when a loop has done its task. -/
def Rested (K : Contract) (name : LoopName) : Post Unit := fun _ i j =>
  K.own (.loop name) i j ∧ K.law j ∧ K.rest name j ∧ K.close name j

/-- What holds when the registration ends: if it worked then the loops are set off. -/
def Enlisted (K : Contract) : Post Bool
  | true, _, j => K.law j ∧ K.rest .heartbeat j ∧ K.rest .reconcile j ∧
      K.Abides (.loop .renewal) watchSessions j j (K.Rested .renewal)
  | false, _, j => K.law j

/-- What holds when the removal of the node ends. -/
def Retired (K : Contract) : Post Unit := fun _ _ j => K.law j

/-- The renewal sticks to its part if it may wait for its turn, and if all is well once it has seen
which connects there were. -/
theorem abides_watch {post : Post Unit} (own : K.own (.loop .renewal) i i) (law : K.law i)
    (looks : ∀ k, K.rely (.loop .renewal) .turn i k → K.law k →
      ∀ answer, post () k (k.note ⟨⟨.turn, answer⟩, i.desk⟩).seen) :
    K.Abides (.loop .renewal) watchSessions i i post :=
  ⟨own, law, looks⟩

/-- Everybody sticks to the contract while no messages come but those that are provided for. -/
structure KeptAmid (K : Contract) (heed : Heed) : Prop where
  rely_refl : ∀ strand call i, K.rely strand call i i
  rely_trans : ∀ strand call i j k,
    K.rely strand call i j → K.rely strand call j k → K.rely strand call i k
  /-- What a loop does is what the other loops rely on. -/
  rely_own : ∀ name other call i j, other ≠ name → K.own (.loop other) i j →
    K.rely (.loop name) call i j
  /-- What a loop does leaves the other loops at rest. -/
  rest_own : ∀ name other i j, other ≠ name → K.own (.loop other) i j → K.rest name i →
    K.rest name j
  law_outside : ∀ calls i j, Outside heed calls i j → K.law i → K.law j
  rely_outside : ∀ calls i j strand call, Outside heed calls i j → K.law i →
    calls strand = some call → K.rely strand call i j
  idle_outside : ∀ calls i j, Outside heed calls i j → K.law i → K.idle i → K.idle j
  rest_outside : ∀ calls i j name, Outside heed calls i j → K.law i → K.rest name i → K.rest name j
  enlist : ∀ i, K.law i → K.idle i → K.Abides .life enlist i i K.Enlisted
  beat : ∀ i, K.law i → K.rest .heartbeat i →
    K.Abides (.loop .heartbeat) beat i i (K.Rested .heartbeat)
  reconcile : ∀ i, K.law i → K.rest .reconcile i →
    K.Abides (.loop .reconcile) reconcile i i (K.Rested .reconcile)
  /-- The wake-up is taken before the statuses are pushed. -/
  push : ∀ i, K.law i → K.rest .reconcile i →
    K.Abides (.loop .reconcile) pushStatuses i (i.withDesk { i.desk with wake := false })
      (K.Rested .reconcile)
  renew : ∀ i, K.law i → K.rest .renewal i →
    K.Abides (.loop .renewal) renewSubscriptions i i (K.Rested .renewal)
  retire : ∀ i, K.law i → K.Abides .life retire i i K.Retired

/-- Everybody sticks to the contract, whatever messages come. -/
abbrev Kept (K : Contract) : Prop := K.KeptAmid fun _ _ _ => True

variable {heed : Heed}

/-- A loop that begins a task sticks to the contract. -/
theorem KeptAmid.begins (kept : K.KeptAmid heed) {s : System} {h : Happening} {name : LoopName}
    {task : Activity Unit} {d : Desk} (begins : s.Begins h name task d) (desk : i.desk = s.desk)
    (law : K.law i) (rest : K.rest name i) :
    K.Abides (.loop name) task i (i.withDesk d) (K.Rested name) := by
  have here : i.withDesk s.desk = i := desk ▸ rfl
  cases begins with
  | beat _ => exact here ▸ kept.beat i law rest
  | pass _ => exact here ▸ kept.reconcile i law rest
  | look _ _ => exact desk ▸ kept.push i law rest
  | renew _ => exact here ▸ kept.renew i law rest

/-! ## Moments at which everybody sticks to the contract -/

/-- What is known of a loop. -/
def LoopInOrder (K : Contract) (i : Affairs) (asked : Strand → Desk) (name : LoopName) :
    Loop → Prop
  | .idle | .ended => True
  | .resting => K.rest name i
  | .busy work => K.Ready (.loop name) work i (asked (.loop name)) (K.Rested name)

/-- What is known of a run. -/
def StageInOrder (K : Contract) (i : Affairs) (asked : Strand → Desk) : Stage → Prop
  | .idle => K.idle i
  | .enlisting work => K.Ready .life work i (asked .life) K.Enlisted
  | .serving | .joining => True
  | .retiring work => K.Ready .life work i (asked .life) K.Retired
  | .over => True

/-- What is known of a system, given the affairs but for its desk. -/
structure Fits (K : Contract) (i : Affairs) (asked : Strand → Desk) (s : System) : Prop where
  law : K.law (i.withDesk s.desk)
  stage : K.StageInOrder (i.withDesk s.desk) asked s.stage
  loops : ∀ name, K.LoopInOrder (i.withDesk s.desk) asked name (s.loops.get name)

/-- What is known of a chronicle. -/
structure InOrder (K : Contract) (c : Chronicle) : Prop where
  fits : K.Fits c.affairs c.asked c.system
  orderly : c.system.Orderly

/-- At every moment at which all is in order the law holds. -/
theorem InOrder.law {c : Chronicle} (order : K.InOrder c) : K.law c.affairs :=
  order.fits.law

/-- What holds at every moment at which a loop is at rest. -/
theorem InOrder.rest {c : Chronicle} (order : K.InOrder c) {name : LoopName}
    (resting : c.system.isResting name = true) : K.rest name c.affairs := by
  have known := order.fits.loops name
  rw [System.isResting_iff.1 resting] at known
  exact known

/-- Work that waits sticks to its part also after others have worked within theirs. -/
theorem Ready.later (kept : K.KeptAmid heed) {work : Pending α} {asked : Desk} {post : Post α}
    (ready : K.Ready strand work i asked post) (rely : K.rely strand work.call i j) :
    K.Ready strand work j asked post :=
  fun k further => ready k (kept.rely_trans _ _ _ _ _ rely further)

variable {asked asked' : Strand → Desk}

/-- What is known of a loop stays known while others work within their parts. -/
theorem LoopInOrder.later (kept : K.KeptAmid heed) {name : LoopName} {loop : Loop}
    (order : K.LoopInOrder i asked name loop) (rest : K.rest name i → K.rest name j)
    (rely : ∀ work, loop = .busy work → K.rely (.loop name) work.call i j)
    (same : ∀ work, loop = .busy work → asked' (.loop name) = asked (.loop name)) :
    K.LoopInOrder j asked' name loop := by
  cases loop with
  | busy work =>
    unfold LoopInOrder
    rw [same work rfl]
    exact Ready.later kept order (rely work rfl)
  | resting => exact rest order
  | _ => trivial

/-- Nothing is to be known of a loop that does nothing. -/
theorem loopInOrder_of_off {name : LoopName} {loop : Loop} (off : loop.Off) :
    K.LoopInOrder i asked name loop := by
  rcases off with rfl | rfl
  · trivial
  · trivial

/-! ## One strand at work -/

variable {s : System}

/-- All is in order after the removal of the node has gone on. -/
theorem fits_goOnRetiring {task : Activity Unit} (abides : K.Abides .life task i j K.Retired)
    (here : s.desk = j.desk) (off : ∀ name, (s.loops.get name).Off)
    (asking : asked .life = (System.goOnRetiring .silent task s ()).1.desk) :
    K.Fits j asked (System.goOnRetiring .silent task s ()).1 := by
  have advanced := abides_advance abides
  unfold System.goOnRetiring at asking ⊢
  rw [here] at asking ⊢
  rcases going : task.advance .silent j.desk () with ⟨e, _, standing⟩
  rw [going] at advanced asking
  cases standing with
  | finished a => exact ⟨advanced, trivial, fun name => loopInOrder_of_off (off name)⟩
  | waiting call next =>
    obtain ⟨-, law, ready⟩ := advanced
    refine ⟨law, ?_, fun name => loopInOrder_of_off (off name)⟩
    unfold StageInOrder
    rw [asking]
    exact ready

/-- All is in order after a loop has worked. -/
theorem fits_work (kept : K.KeptAmid heed) {name : LoopName} {task : Activity Unit}
    (abides : K.Abides (.loop name) task i j (K.Rested name)) (here : s.desk = j.desk)
    (stage : s.stage = .serving ∨ s.stage = .joining)
    (others : ∀ other ≠ name, K.LoopInOrder i asked other (s.loops.get other))
    (same : ∀ other ≠ name, ∀ work, s.loops.get other = .busy work →
      asked' (.loop other) = asked (.loop other))
    (asking : asked' (.loop name) = (System.work .silent name task s ()).1.desk) :
    K.Fits j asked' (System.work .silent name task s ()).1 := by
  have advanced := abides_advance abides
  unfold System.work at asking ⊢
  rw [here] at asking ⊢
  rcases going : task.advance .silent j.desk () with ⟨e, _, standing⟩
  rw [going] at advanced asking
  -- the other loops see what this one has done in one go
  have others' : K.own (.loop name) i (j.withDesk e) → ∀ other ≠ name,
      K.LoopInOrder (j.withDesk e) asked' other (s.loops.get other) := by
    intro own other differ
    exact LoopInOrder.later kept (others other differ) (kept.rest_own _ _ _ _ differ.symm own)
      (fun work _ => kept.rely_own _ _ _ _ _ differ.symm own) (same other differ)
  have stage' : K.StageInOrder (j.withDesk e) asked' s.stage := by
    rcases stage with stage | stage
    · rw [stage]
      trivial
    · rw [stage]
      trivial
  cases standing with
  | finished a =>
    obtain ⟨own, law, rest, -⟩ := advanced
    refine ⟨law, stage', fun other => ?_⟩
    dsimp only
    rw [System.get_set]
    by_cases is : other = name
    · rw [if_pos is, is]
      exact rest
    · rw [if_neg is]
      exact others' own other is
  | waiting call next =>
    obtain ⟨own, law, ready⟩ := advanced
    refine ⟨law, stage', fun other => ?_⟩
    dsimp only
    rw [System.get_set]
    by_cases is : other = name
    · subst is
      rw [if_pos rfl]
      unfold LoopInOrder
      rw [asking]
      exact ready
    · rw [if_neg is]
      exact others' own other is

/-- What holds when a loop has just come to the end of a task. -/
theorem closes_work {name : LoopName} {task : Activity Unit}
    (abides : K.Abides (.loop name) task i j (K.Rested name)) (here : s.desk = j.desk)
    (rests : (System.work .silent name task s ()).1.loops.get name = .resting) :
    K.close name (j.withDesk (System.work .silent name task s ()).1.desk) := by
  have advanced := abides_advance abides
  unfold System.work at rests ⊢
  rw [here] at rests ⊢
  rcases going : task.advance .silent j.desk () with ⟨e, _, standing⟩
  rw [going] at advanced rests
  cases standing with
  | finished a => exact advanced.2.2.2
  | waiting call next =>
    rw [System.get_set, if_pos rfl] at rests
    cases rests

/-- A periodic loop is in order when it is set off. -/
theorem loopInOrder_periodic {name : LoopName} (interval : Nat) (rest : K.rest name i) :
    K.LoopInOrder i asked name (Loops.periodic interval) := by
  unfold Loops.periodic
  split
  · trivial
  · exact rest

/-- All is in order after the registration of the node has gone on. -/
theorem fits_goOnEnlisting (kept : K.KeptAmid heed) {task : Activity Bool}
    (abides : K.Abides .life task i j K.Enlisted) (here : s.desk = j.desk)
    (off : ∀ name, (s.loops.get name).Off)
    (asking : ∀ strand, strand = .life ∨ strand = .loop .renewal →
      asked strand = (System.goOnEnlisting .silent task s ()).1.desk) :
    K.Fits j asked (System.goOnEnlisting .silent task s ()).1 := by
  have advanced := abides_advance abides
  unfold System.goOnEnlisting at asking ⊢
  rw [here] at asking ⊢
  rcases going : task.advance .silent j.desk () with ⟨e, _, standing⟩
  rw [going] at advanced asking
  cases standing with
  | finished worked =>
    cases worked with
    | true =>
      -- the renewal waits for its turn, and the others have not begun
      obtain ⟨law, heartbeat, reconcile, watch⟩ := advanced
      let begun : System := ⟨e, .serving, .atStart e.settings⟩
      have others : ∀ other ≠ .renewal,
          K.LoopInOrder (j.withDesk e) asked other (begun.loops.get other) := by
        intro other differ
        cases other with
        | heartbeat => exact loopInOrder_periodic _ heartbeat
        | reconcile => exact loopInOrder_periodic _ reconcile
        | renewal => exact absurd rfl differ
      have fits : K.Fits (j.withDesk e) asked (System.work .silent .renewal watchSessions begun ()).1 :=
        fits_work kept watch rfl (.inl rfl) others (fun _ _ _ _ => rfl) (asking _ (.inr rfl))
      exact ⟨fits.law, fits.stage, fits.loops⟩
    | false => exact ⟨advanced, trivial, fun name => loopInOrder_of_off (off name)⟩
  | waiting call next =>
    obtain ⟨-, law, ready⟩ := advanced
    refine ⟨law, ?_, fun name => loopInOrder_of_off (off name)⟩
    unfold StageInOrder
    rw [asking _ (.inl rfl)]
    exact ready

/-! ## Everything that can happen -/

/-- The affairs stay the same, or something comes from outside. -/
def Passes (heed : Heed) (calls : Strand → Option Call) (i j : Affairs) : Prop :=
  j = i ∨ Outside heed calls i j

variable {c : Chronicle} {h : Happening}

/-- All stays in order while no strand is at work, even if loops end and the run stops serving. -/
theorem InOrder.passes (kept : K.KeptAmid heed) {c' : Chronicle} (order : K.InOrder c)
    (passes : Passes heed c.system.openCall? c.affairs c'.affairs)
    (stage : c'.system.stage = c.system.stage ∨ c'.system.stage = .joining)
    (loops : ∀ name, c'.system.loops.get name = c.system.loops.get name ∨
      c'.system.loops.get name = .ended)
    (same : ∀ strand, c.system.openCall? strand ≠ none → c'.asked strand = c.asked strand)
    (orderly : c'.system.Orderly) : K.InOrder c' := by
  have law : K.law c'.affairs := by
    rcases passes with same | came
    · exact same ▸ order.law
    · exact kept.law_outside _ _ _ came order.law
  have idle : K.idle c.affairs → K.idle c'.affairs := by
    rcases passes with same | came
    · rw [same]
      exact id
    · exact kept.idle_outside _ _ _ came order.law
  have rest : ∀ name, K.rest name c.affairs → K.rest name c'.affairs := by
    intro name
    rcases passes with same | came
    · rw [same]
      exact id
    · exact kept.rest_outside _ _ _ name came order.law
  have rely : ∀ strand call, c.system.openCall? strand = some call →
      K.rely strand call c.affairs c'.affairs := by
    intro strand call waits
    rcases passes with same | came
    · rw [same]
      exact kept.rely_refl _ _ _
    · exact kept.rely_outside _ _ _ strand call came order.law waits
  refine ⟨⟨law, ?_, fun name => ?_⟩, orderly⟩
  · rcases stage with stage | stage
    · have known : K.StageInOrder c.affairs c.asked c.system.stage := order.fits.stage
      show K.StageInOrder c'.affairs c'.asked c'.system.stage
      rw [stage]
      cases was : c.system.stage with
      | idle =>
        rw [was] at known
        exact idle known
      | enlisting work =>
        rw [was] at known
        have waits := System.openCall?_enlisting was
        unfold StageInOrder
        rw [same .life (by simp [waits])]
        exact Ready.later kept known (rely _ _ waits)
      | retiring work =>
        rw [was] at known
        have waits := System.openCall?_retiring was
        unfold StageInOrder
        rw [same .life (by simp [waits])]
        exact Ready.later kept known (rely _ _ waits)
      | _ => trivial
    · rw [stage]
      trivial
  · rcases loops name with loop | loop
    · rw [loop]
      refine LoopInOrder.later kept (order.fits.loops name) (rest name) ?_ ?_
      · exact fun work busy => rely _ _ (System.openCall?_busy busy)
      · exact fun work busy => same _ (by simp [System.openCall?_busy busy])
    · rw [loop]
      trivial

/-- All is in order after a strand has worked, if what is known of the system fits. -/
theorem InOrder.of_fits {c' : Chronicle} (affairs : c'.affairs = j.withDesk c'.system.desk)
    (system : c'.system = s) (fits : K.Fits j c'.asked s) (orderly : c'.system.Orderly) :
    K.InOrder c' := by
  refine ⟨?_, orderly⟩
  subst system
  rw [affairs]
  exact ⟨fits.law, fits.stage, fits.loops⟩

/-- What is inner and answers nobody changes at most the desk. -/
theorem affairs_step_of_silent (inner : h.isOutside = false) (silent : c.answered? h = none) :
    (c.step h).affairs = c.affairs.withDesk (c.system.meet h).desk := by
  rw [Chronicle.affairs_step_of_inner inner]
  simp [Chronicle.step, silent, Chronicle.affairs, Affairs.withDesk]

/-- An answer goes on record, and its strand changes at most the desk. -/
theorem affairs_step_of_answer {strand : Strand} {call : Call} (reply : Reply)
    (waits : c.system.openCall? strand = some call) :
    (c.step (.stimulus (.answer strand reply))).affairs =
      (c.affairs.note ⟨⟨call, reply call⟩, c.asked strand⟩).withDesk
        (c.system.meet (.stimulus (.answer strand reply))).desk := by
  rw [Chronicle.affairs_step_of_inner rfl]
  simp [Chronicle.step, Chronicle.answered?_of_open reply waits, Chronicle.affairs,
    Affairs.withDesk, Affairs.note]

/-- All is in order after a loop has begun a task. -/
theorem InOrder.step_begin (kept : K.KeptAmid heed) (order : K.InOrder c) {name : LoopName}
    {task : Activity Unit} {d : Desk} (begins : c.system.Begins h name task d)
    (resting : c.system.loops.get name = .resting)
    (system : c.system.meet h = (System.work .silent name task { c.system with desk := d } ()).1) :
    K.InOrder (c.step h) := by
  obtain ⟨inner, silent⟩ := begins.silent
  have rest := order.rest (System.isResting_iff.2 resting)
  have affairs : (c.step h).affairs = (c.affairs.withDesk d).withDesk (c.system.meet h).desk :=
    affairs_step_of_silent inner (Chronicle.answered?_of_silent silent)
  refine .of_fits affairs system ?_ (order.orderly.meet h)
  refine fits_work kept (kept.begins begins rfl order.law rest) rfl
    (order.orderly.stage_of_working (.inl resting)) (fun other _ => order.fits.loops other) ?_ ?_
  · intro other _ work busy
    refine Chronicle.asked_step_of_waits ?_ (by simp [silent])
    simp [System.openCall?_busy (s := c.system) busy]
  · have closed : c.system.openCall? (.loop name) = none := by simp [System.openCall?, resting]
    exact (Chronicle.asked_step_of_free (.inr closed)).trans (congrArg System.desk system)

/-- A loop that is answered sticks to the contract as it goes on. -/
theorem InOrder.abides_busy (kept : K.KeptAmid heed) (order : K.InOrder c) {name : LoopName}
    {p : Pending Unit} (busy : c.system.loops.get name = .busy p) (reply : Reply) :
    K.Abides (.loop name) (p.next (reply p.call)) c.affairs
      (c.affairs.note ⟨⟨p.call, reply p.call⟩, c.asked (.loop name)⟩) (K.Rested name) := by
  have ready := order.fits.loops name
  rw [busy] at ready
  exact ready c.affairs (kept.rely_refl _ _ _) order.law (reply p.call)

/-- All is in order after a loop was answered. -/
theorem InOrder.step_busy (kept : K.KeptAmid heed) (order : K.InOrder c) {name : LoopName}
    {p : Pending Unit} (busy : c.system.loops.get name = .busy p) (reply : Reply)
    (system : c.system.meet (.stimulus (.answer (.loop name) reply)) =
      (System.work .silent name (p.next (reply p.call)) c.system ()).1) :
    K.InOrder (c.step (.stimulus (.answer (.loop name) reply))) := by
  refine .of_fits (affairs_step_of_answer reply (System.openCall?_busy busy)) system ?_
    (order.orderly.meet _)
  refine fits_work kept (order.abides_busy kept busy reply) rfl
    (order.orderly.stage_of_working (.inr ⟨p, busy⟩)) (fun other _ => order.fits.loops other) ?_
    ((Chronicle.asked_step_of_free (.inl rfl)).trans (congrArg System.desk system))
  intro other differ work busy
  refine Chronicle.asked_step_of_waits (by simp [System.openCall?_busy busy]) ?_
  simpa [Happening.answered?] using differ.symm

/-- What holds when a loop has come to the end of its task with an answer. -/
theorem InOrder.close_step (kept : K.KeptAmid heed) (order : K.InOrder c) {name : LoopName}
    {call : Call} (waits : c.system.openCall? (.loop name) = some call) (reply : Reply)
    (rests : (c.step (.stimulus (.answer (.loop name) reply))).system.isResting name = true) :
    K.close name (c.step (.stimulus (.answer (.loop name) reply))).affairs := by
  obtain ⟨p, busy, rfl⟩ := System.busy_of_openCall? waits
  have system : c.system.meet (.stimulus (.answer (.loop name) reply)) =
      (System.work .silent name (p.next (reply p.call)) c.system ()).1 := by
    simp [System.meet, System.react, System.take, busy]
  rw [affairs_step_of_answer reply waits, system]
  refine closes_work (order.abides_busy kept busy reply) rfl ?_
  rw [← system]
  exact System.isResting_iff.1 rests

/-- All is in order after the registration has gone on. -/
theorem InOrder.step_enlisting (kept : K.KeptAmid heed) (order : K.InOrder c) {p : Pending Bool}
    (stage : c.system.stage = .enlisting p) (reply : Reply)
    (system : c.system.meet (.stimulus (.answer .life reply)) =
      (System.goOnEnlisting .silent (p.next (reply p.call)) c.system ()).1) :
    K.InOrder (c.step (.stimulus (.answer .life reply))) := by
  have ready : K.StageInOrder c.affairs c.asked c.system.stage := order.fits.stage
  rw [stage] at ready
  have waits := System.openCall?_enlisting stage
  have off := order.orderly.off_of_open waits
  refine .of_fits (affairs_step_of_answer reply waits) system ?_ (order.orderly.meet _)
  refine fits_goOnEnlisting kept
    (ready c.affairs (kept.rely_refl _ _ _) order.law (reply p.call)) rfl off ?_
  have free : ∀ strand, strand = .life ∨ strand = .loop .renewal →
      Happening.answered? (.stimulus (.answer .life reply)) = some strand ∨
        c.system.openCall? strand = none := by
    rintro strand (rfl | rfl)
    · exact .inl rfl
    · exact .inr (System.openCall?_of_off (off _))
  exact fun strand is =>
    (Chronicle.asked_step_of_free (free strand is)).trans (congrArg System.desk system)

/-- All is in order after the removal has gone on. -/
theorem InOrder.step_retiring (kept : K.KeptAmid heed) (order : K.InOrder c) {p : Pending Unit}
    (stage : c.system.stage = .retiring p) (reply : Reply)
    (system : c.system.meet (.stimulus (.answer .life reply)) =
      (System.goOnRetiring .silent (p.next (reply p.call)) c.system ()).1) :
    K.InOrder (c.step (.stimulus (.answer .life reply))) := by
  have ready : K.StageInOrder c.affairs c.asked c.system.stage := order.fits.stage
  rw [stage] at ready
  have waits := System.openCall?_retiring stage
  refine .of_fits (affairs_step_of_answer reply waits) system ?_ (order.orderly.meet _)
  exact fits_goOnRetiring (ready c.affairs (kept.rely_refl _ _ _) order.law (reply p.call)) rfl
    (order.orderly.off_of_open waits)
    ((Chronicle.asked_step_of_free (.inl rfl)).trans (congrArg System.desk system))

/-- All is in order when the run has been started. -/
theorem InOrder.step_start (kept : K.KeptAmid heed) (order : K.InOrder c)
    (idle : c.system.stage = .idle)
    (system : c.system.meet .start =
      (System.goOnEnlisting .silent Controller.enlist c.system ()).1) :
    K.InOrder (c.step .start) := by
  have known : K.StageInOrder c.affairs c.asked c.system.stage := order.fits.stage
  rw [idle] at known
  have off := order.orderly (by simp [idle]) (by simp [idle])
  have closed : ∀ strand, c.system.openCall? strand = none := by
    intro strand
    cases strand with
    | life => simp [System.openCall?, idle]
    | loop name => exact System.openCall?_of_off (off name)
  refine .of_fits (affairs_step_of_silent rfl rfl) system ?_ (order.orderly.meet _)
  exact fits_goOnEnlisting kept (kept.enlist _ order.law known) rfl off fun strand _ =>
    (Chronicle.asked_step_of_free (.inr (closed strand))).trans (congrArg System.desk system)

/-- All is in order when the removal has begun. -/
theorem InOrder.step_join (kept : K.KeptAmid heed) (order : K.InOrder c)
    (joining : c.system.stage = .joining) (ended : c.system.loops.allEnded = true)
    (system : c.system.meet (.stimulus .join) =
      (System.goOnRetiring .silent Controller.retire c.system ()).1) :
    K.InOrder (c.step (.stimulus .join)) := by
  have closed : c.system.openCall? .life = none := by simp [System.openCall?, joining]
  refine .of_fits (affairs_step_of_silent rfl rfl) system ?_ (order.orderly.meet _)
  exact fits_goOnRetiring (kept.retire _ order.law) rfl
    (fun name => .inr (System.allEnded_iff.1 ended name))
    ((Chronicle.asked_step_of_free (.inr closed)).trans (congrArg System.desk system))

/-- All stays in order when no strand is at work. -/
theorem InOrder.step_passive (kept : K.KeptAmid heed) (order : K.InOrder c) {s : System}
    (system : c.system.meet h = s)
    (passes : Passes heed c.system.openCall? c.affairs (c.step h).affairs)
    (stage : s.stage = c.system.stage ∨ s.stage = .joining)
    (loops : ∀ name, s.loops.get name = c.system.loops.get name ∨ s.loops.get name = .ended)
    (closed : ∀ strand, h.answered? = some strand → c.system.openCall? strand = none) :
    K.InOrder (c.step h) := by
  subst system
  refine order.passes kept passes stage loops ?_ (order.orderly.meet h)
  exact fun strand waits => Chronicle.asked_step_of_waits waits fun is => waits (closed strand is)

/-- Whatever happens that is provided for, everybody sticks to the contract. -/
theorem InOrder.step (kept : K.KeptAmid heed) (order : K.InOrder c)
    (heeded : h.Heeded heed c.affairs) : K.InOrder (c.step h) := by
  have turn := c.system.turn h
  generalize system : c.system.meet h = s at turn
  cases turn with
  | outside outer =>
    refine order.step_passive kept system (.inr (Happening.outside outer heeded)) (.inl rfl)
      (fun _ => .inl rfl) ?_
    simp [Happening.answered?_of_outside outer]
  | still inner closed =>
    refine order.step_passive kept system (.inl ?_) (.inl rfl) (fun _ => .inl rfl) closed
    rw [affairs_step_of_silent inner (Chronicle.answered?_of_closed closed), system]
    rfl
  | quit is _ _ =>
    subst is
    refine order.step_passive kept system (.inl ?_) (.inl rfl) (fun other => ?_) nofun
    · rw [affairs_step_of_silent rfl rfl, system]
      rfl
    · dsimp only
      rw [System.get_set]
      split
      · exact .inr rfl
      · exact .inl rfl
  | halt is _ _ =>
    subst is
    refine order.step_passive kept system ?_ (.inr rfl) (fun _ => .inl rfl) nofun
    rw [affairs_step_of_silent rfl rfl, system]
    dsimp only
    split
    · exact .inr .outcome
    · exact .inl rfl
  | enlist is idle =>
    subst is
    exact order.step_start kept idle system
  | enlisting is stage =>
    subst is
    exact order.step_enlisting kept stage _ system
  | begin begins resting => exact order.step_begin kept begins resting system
  | busy is busy =>
    subst is
    exact order.step_busy kept busy _ system
  | join is joining ended =>
    subst is
    exact order.step_join kept joining ended system
  | retiring is stage =>
    subst is
    exact order.step_retiring kept stage _ system

/-- Everybody sticks to the contract while only such things happen as are provided for. -/
theorem InOrder.follow (kept : K.KeptAmid heed) {c : Chronicle} (order : K.InOrder c)
    {happenings : List Happening} (heeded : ∀ early h late, happenings = early ++ h :: late →
      h.Heeded heed (c.follow early).affairs) : K.InOrder (c.follow happenings) := by
  induction happenings generalizing c with
  | nil => exact order
  | cons h later ih =>
    refine ih (order.step kept (heeded [] h later rfl)) ?_
    rintro early h' late rfl
    exact heeded (h :: early) h' late rfl

/-- Everybody sticks to the contract at every moment of every run in which no messages come but
those that are provided for. -/
theorem KeptAmid.follow (kept : K.KeptAmid heed) (settings : Settings) (origin : Time.Stamp)
    (law : K.law (Chronicle.fresh settings origin).affairs)
    (idle : K.idle (Chronicle.fresh settings origin).affairs) {happenings : List Happening}
    (heeded : ∀ early h late, happenings = early ++ h :: late →
      h.Heeded heed ((Chronicle.fresh settings origin).follow early).affairs) :
    K.InOrder ((Chronicle.fresh settings origin).follow happenings) := by
  have off : ∀ name, ((Chronicle.fresh settings origin).system.loops.get name).Off := by
    intro name
    cases name with
    | _ => exact .inl rfl
  have fits : K.Fits (Chronicle.fresh settings origin).affairs (Chronicle.fresh settings origin).asked
      (Chronicle.fresh settings origin).system :=
    ⟨law, idle, fun name => loopInOrder_of_off (off name)⟩
  have order : K.InOrder (Chronicle.fresh settings origin) := ⟨fits, fun _ _ => off⟩
  exact order.follow kept heeded

/-- Everybody sticks to the contract at every moment of every run. -/
theorem Kept.follow (kept : K.Kept) (settings : Settings) (origin : Time.Stamp)
    (law : K.law (Chronicle.fresh settings origin).affairs)
    (idle : K.idle (Chronicle.fresh settings origin).affairs) (happenings : List Happening) :
    K.InOrder ((Chronicle.fresh settings origin).follow happenings) :=
  KeptAmid.follow kept settings origin law idle fun _ h _ _ => Happening.heeded_of_all h _

end Contract

end VirtualNode.Controller
