import VirtualNode.Proofs.Interleaving.Contract

/-!
# Habits of strands

What a strand does next depends on the work with which it waits.  Habits say of each strand which
work that may be (`Habits`), and how a strand may change the desk in one go, from an answer to its
next call.  If every task begins with such work and every answer leads on to such work
(`Habits.Kept`), then all work that ever waits is of that kind, and whatever happens changes the
desk first as it comes from outside (`Happening.touch`) and then only in the way of strands
(`Habits.Kept.meet`).

This is what tells from where a part of the desk comes that no strand changes: from the happenings
alone.
-/

set_option autoImplicit false

namespace VirtualNode.Controller

/-! ## Goes -/

section Goes

variable {α : Type} {R R' : Desk → Desk → Prop} {Q : Call → Prop} {W W' : Pending α → Prop}
  {task : Activity α}

/-- In one go the task changes the desk only in the way of `R`, and if it waits then with work of
`W`. -/
def GoesWithin (R : Desk → Desk → Prop) (W : Pending α → Prop) (task : Activity α) : Prop :=
  ∀ d, match task.advance .silent d () with
    | (e, _, .finished _) => R d e
    | (e, _, .waiting call next) => R d e ∧ W ⟨call, next⟩

/-- A task that waits with known work waits with work of a wider kind. -/
theorem GoesWithin.mono (goes : GoesWithin R W task) (more : ∀ work, W work → W' work) :
    GoesWithin R W' task := by
  intro d
  have here := goes d
  rcases going : task.advance .silent d () with ⟨e, _, standing⟩
  rw [going] at here
  cases standing with
  | finished a => exact here
  | waiting call next => exact ⟨here.1, more _ here.2⟩

/-- What is known of a task in two ways is known at once. -/
theorem GoesWithin.and (first : GoesWithin R W task) (second : GoesWithin R' W' task) :
    GoesWithin R (fun work => W work ∧ W' work) task := by
  intro d
  have here := first d
  have there := second d
  rcases going : task.advance .silent d () with ⟨e, _, standing⟩
  rw [going] at here there
  cases standing with
  | finished a => exact here
  | waiting call next => exact ⟨here.1, here.2, there.2⟩

/-- Work that changes the desk only within `R` once its call is answered. -/
def Waits (R : Desk → Desk → Prop) (work : Pending α) : Prop :=
  ∀ answer d, (work.next answer).Within R (fun _ => True) d

/-- A restrained dialogue is restrained up to its next call, and after it. -/
theorem advance_within (refl : ∀ d, R d d) (trans : ∀ {d e f}, R d e → R e f → R d f) {d : Desk}
    (within : task.Within R Q d) :
    match task.advance .silent d () with
    | (e, _, .finished _) => R d e
    | (e, _, .waiting call next) => R d e ∧ Waits R (⟨call, next⟩ : Pending α) := by
  induction task generalizing d with
  | done a => exact refl d
  | read next ih => exact ih d (within d)
  | write e next ih =>
    have later := ih within.2
    rw [Dialogue.advance]
    rcases going : next.advance .silent e () with ⟨f, _, standing⟩
    rw [going] at later
    cases standing with
    | finished a => exact trans within.1 later
    | waiting call next => exact ⟨trans within.1 later.1, later.2⟩
  | ask call next ih =>
    refine ⟨refl d, fun answer e => ?_⟩
    exact Dialogue.within_mono (within.2 answer e) (fun _ _ => id) fun _ _ => trivial

/-- A restrained dialogue changes the desk within its bounds in every go. -/
theorem goesWithin_of_within (refl : ∀ d, R d d) (trans : ∀ {d e f}, R d e → R e f → R d f)
    (within : ∀ d, task.Within R Q d) : GoesWithin R (Waits R) task :=
  fun d => advance_within refl trans (within d)

end Goes

/-! ## Habits -/

/-- What is known of the work with which strands wait. -/
structure Habits where
  enlisting : Pending Bool → Prop
  loop : LoopName → Pending Unit → Prop
  retiring : Pending Unit → Prop

/-- All work that waits is of the known kind. -/
structure System.Habitual (H : Habits) (s : System) : Prop where
  enlisting : ∀ {work}, s.stage = .enlisting work → H.enlisting work
  loop : ∀ {name work}, s.loops.get name = .busy work → H.loop name work
  retiring : ∀ {work}, s.stage = .retiring work → H.retiring work

namespace Habits

/-- Every task begins with work of the known kind, and goes on with such work, and changes the desk
only in the way of `R`. -/
structure Kept (H : Habits) (R : Desk → Desk → Prop) : Prop where
  refl : ∀ d, R d d
  trans : ∀ {d e f}, R d e → R e f → R d f
  enlist : GoesWithin R H.enlisting enlist
  enlisting : ∀ {work}, H.enlisting work → ∀ answer, GoesWithin R H.enlisting (work.next answer)
  beat : GoesWithin R (H.loop .heartbeat) beat
  reconcile : GoesWithin R (H.loop .reconcile) reconcile
  push : GoesWithin R (H.loop .reconcile) pushStatuses
  renew : GoesWithin R (H.loop .renewal) renewSubscriptions
  watch : GoesWithin R (H.loop .renewal) watchSessions
  loop : ∀ {name work}, H.loop name work → ∀ answer, GoesWithin R (H.loop name) (work.next answer)
  retire : GoesWithin R H.retiring retire
  retiring : ∀ {work}, H.retiring work → ∀ answer, GoesWithin R H.retiring (work.next answer)
  woken : ∀ d, R d { d with wake := false }
  outcome : ∀ d, R d (d.recordOutcome none)

/-- A system in which all work is of the known kind, and whose desk has come about in the way of
`R`. -/
structure Comes (H : Habits) (R : Desk → Desk → Prop) (d : Desk) (s : System) : Prop where
  desk : R d s.desk
  habitual : s.Habitual H

variable {H : Habits} {R : Desk → Desk → Prop} {d e : Desk} {s : System} {name : LoopName}

/-- What has come about in the way of strands has come about from an earlier desk as well. -/
theorem Comes.after (kept : H.Kept R) (first : R d e) (comes : H.Comes R e s) : H.Comes R d s :=
  ⟨kept.trans first comes.desk, comes.habitual⟩

/-! ### One strand at work -/

/-- The removal of the node keeps to the habits. -/
theorem Kept.goOnRetiring {task : Activity Unit} (goes : GoesWithin R H.retiring task)
    (habitual : s.Habitual H) :
    H.Comes R s.desk (System.goOnRetiring .silent task s ()).1 := by
  have here := goes s.desk
  unfold System.goOnRetiring
  rcases going : task.advance .silent s.desk () with ⟨e, _, standing⟩
  rw [going] at here
  cases standing with
  | finished a => exact ⟨here, nofun, habitual.loop, nofun⟩
  | waiting call next =>
    refine ⟨here.1, nofun, habitual.loop, ?_⟩
    rintro work ⟨⟩
    exact here.2

/-- A loop at work keeps to the habits. -/
theorem Kept.work {task : Activity Unit} (goes : GoesWithin R (H.loop name) task)
    (habitual : s.Habitual H) : H.Comes R s.desk (System.work .silent name task s ()).1 := by
  have here := goes s.desk
  unfold System.work
  rcases going : task.advance .silent s.desk () with ⟨e, _, standing⟩
  rw [going] at here
  cases standing with
  | finished a =>
    refine ⟨here, habitual.enlisting, ?_, habitual.retiring⟩
    intro other work busy
    rcases System.busy_of_set busy with ⟨-, resting⟩ | before
    · cases resting
    · exact habitual.loop before
  | waiting call next =>
    refine ⟨here.1, habitual.enlisting, ?_, habitual.retiring⟩
    -- this loop waits with what is left of its task, the others with what they had
    intro other work busy
    rcases System.busy_of_set busy with ⟨rfl, waits⟩ | before
    · cases waits
      exact here.2
    · exact habitual.loop before

/-- Nothing waits in loops that have just been set off. -/
theorem habitual_atStart (e : Desk) (settings : Settings) :
    System.Habitual H ⟨e, .serving, .atStart settings⟩ := by
  refine ⟨nofun, ?_, nofun⟩
  intro name work busy
  cases name with
  | renewal => cases busy
  | _ =>
    simp only [Loops.atStart, Loops.get, Loops.periodic] at busy
    split at busy
    · cases busy
    · cases busy

/-- The registration of the node keeps to the habits. -/
theorem Kept.goOnEnlisting (kept : H.Kept R) {task : Activity Bool}
    (goes : GoesWithin R H.enlisting task) (habitual : s.Habitual H) :
    H.Comes R s.desk (System.goOnEnlisting .silent task s ()).1 := by
  have here := goes s.desk
  unfold System.goOnEnlisting
  rcases going : task.advance .silent s.desk () with ⟨e, _, standing⟩
  rw [going] at here
  cases standing with
  | waiting call next =>
    refine ⟨here.1, ?_, habitual.loop, nofun⟩
    rintro work ⟨⟩
    exact here.2
  | finished registered =>
    cases registered with
    | false => exact ⟨here, nofun, habitual.loop, nofun⟩
    | true => exact (Kept.work kept.watch (habitual_atStart e _)).after kept here

/-- A task that a loop begins keeps to the habits. -/
theorem Kept.begins (kept : H.Kept R) {h : Happening} {task : Activity Unit}
    (begins : s.Begins h name task d) : GoesWithin R (H.loop name) task ∧ R s.desk d := by
  cases begins with
  | beat _ => exact ⟨kept.beat, kept.refl _⟩
  | pass _ => exact ⟨kept.reconcile, kept.refl _⟩
  | look _ _ => exact ⟨kept.push, kept.woken _⟩
  | renew _ => exact ⟨kept.renew, kept.refl _⟩

/-! ### Everything that can happen -/

/-- Whatever happens, the desk changes as it comes from outside and then in the way of strands, and
all work that waits is of the known kind. -/
theorem Kept.meet (kept : H.Kept R) (habitual : s.Habitual H) (h : Happening) :
    H.Comes R (h.touch s.desk) (s.meet h) := by
  have turn := s.turn h
  generalize s.meet h = s' at turn
  cases turn with
  | outside _ => exact ⟨kept.refl _, habitual.enlisting, habitual.loop, habitual.retiring⟩
  | still inner _ =>
    rw [Happening.touch_of_inner inner]
    exact ⟨kept.refl _, habitual⟩
  | enlist is _ =>
    subst is
    exact kept.goOnEnlisting kept.enlist habitual
  | enlisting is stage =>
    subst is
    exact kept.goOnEnlisting (kept.enlisting (habitual.enlisting stage) _) habitual
  | @begin name task d begins _ =>
    obtain ⟨goes, first⟩ := kept.begins begins
    rw [Happening.touch_of_inner begins.silent.1]
    have prepared : System.Habitual H { s with desk := d } :=
      ⟨habitual.enlisting, habitual.loop, habitual.retiring⟩
    exact (Kept.work goes prepared).after kept first
  | busy is busy =>
    subst is
    exact Kept.work (kept.loop (habitual.loop busy) _) habitual
  | quit is _ _ =>
    subst is
    refine ⟨kept.refl _, habitual.enlisting, ?_, habitual.retiring⟩
    intro other work busy
    rcases System.busy_of_set busy with ⟨-, ended⟩ | before
    · cases ended
    · exact habitual.loop before
  | halt is _ _ =>
    subst is
    refine ⟨?_, nofun, habitual.loop, nofun⟩
    dsimp only [Happening.touch]
    split
    · exact kept.outcome _
    · exact kept.refl _
  | join is _ _ =>
    subst is
    exact Kept.goOnRetiring kept.retire habitual
  | retiring is stage =>
    subst is
    exact Kept.goOnRetiring (kept.retiring (habitual.retiring stage) _) habitual

/-- All work that ever waits is of the known kind. -/
theorem Kept.follow (kept : H.Kept R) {c : Chronicle} (habitual : c.system.Habitual H)
    (happenings : List Happening) : (c.follow happenings).system.Habitual H := by
  induction happenings generalizing c with
  | nil => exact habitual
  | cons h later ih => exact ih (kept.meet habitual h).habitual

end Habits

end VirtualNode.Controller
