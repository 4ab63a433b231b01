import VirtualNode.Proofs.Ending.Stages

/-!
# Coming to an end

A run that is about to end can come to its end by itself, whatever it is answered: nothing from
outside is needed, nor that any call works.  This is so at every moment of every run whose node was
registered (`Chronicle.Runs.finishes`).

A dialogue is finite, so a strand that waits comes to the end of its work when its calls are
answered one after the other; these are inductions on the work that is left
(`rests_of_answers`, `over_of_answers`, `serves_of_answers`).  The stages of the run are then gone
through one after the other: the subscriptions at the start, the loops, the removal.
-/

set_option autoImplicit false

namespace VirtualNode.Controller

open Conduct

/-! ## Winding up -/

/-- Whether somebody looks whether the controller is about to end, or whether all loops have
ended. -/
def Happening.Looks : Happening → Prop
  | .stimulus (.quit _) | .stimulus .halt | .stimulus .join => True
  | _ => False

/-- Whatever is answered each time, a system comes to a goal by looks and by answers alone. -/
inductive System.ComesTo (goal : System → Prop) : System → Prop
  | there {s : System} (here : goal s) : ComesTo goal s
  | look {s : System} {h : Happening} (looks : h.Looks) (later : ComesTo goal (s.meet h)) :
    ComesTo goal s
  | answer {s : System} (strand : Strand)
    (later : ∀ reply, ComesTo goal (s.meet (.stimulus (.answer strand reply)))) : ComesTo goal s

/-- Whatever is answered each time, a run comes to a goal by looks and by answers alone. -/
inductive Chronicle.ComesTo (goal : Chronicle → Prop) : Chronicle → Prop
  | there {c : Chronicle} (here : goal c) : ComesTo goal c
  | look {c : Chronicle} {h : Happening} (looks : h.Looks) (later : ComesTo goal (c.step h)) :
    ComesTo goal c
  | answer {c : Chronicle} (strand : Strand)
    (later : ∀ reply, ComesTo goal (c.step (.stimulus (.answer strand reply)))) : ComesTo goal c

namespace System

variable {s : System} {name : LoopName}

/-- What comes to a goal comes to whatever that implies. -/
theorem ComesTo.mono {goal weaker : System → Prop} (comes : s.ComesTo goal)
    (implies : ∀ t, goal t → weaker t) : s.ComesTo weaker := by
  induction comes with
  | there here => exact .there (implies _ here)
  | look looks _ ih => exact .look looks ih
  | answer strand _ ih => exact .answer strand ih

/-- Once a loop was replaced, it may be replaced again. -/
theorem set_set (loops : Loops) (name : LoopName) (loop loop' : Loop) :
    (loops.set name loop).set name loop' = loops.set name loop' := by
  cases name <;> rfl

/-- A busy loop works on when it is answered. -/
theorem meet_answer_busy {p : Pending Unit} (busy : s.loops.get name = .busy p) (reply : Reply) :
    s.meet (.stimulus (.answer (.loop name) reply)) =
      (work .silent name (p.next (reply p.call)) s ()).1 := by
  simp [meet, react, take, busy]

/-! ## Work that comes to its end -/

/-- A loop that works comes to rest when its calls are answered. -/
theorem rests_of_answers (name : LoopName) (task : Activity Unit) (s : System) :
    (work .silent name task s ()).1.ComesTo fun t =>
      t.stage = s.stage ∧ t.loops = s.loops.set name .resting := by
  induction task generalizing s with
  | done a => exact .there ⟨rfl, rfl⟩
  | read next ih => exact ih s.desk s
  | write d next ih => exact ih { s with desk := d }
  | ask call next ih =>
    let waiting : System := { s with loops := s.loops.set name (.busy ⟨call, next⟩) }
    have busy : waiting.loops.get name = .busy ⟨call, next⟩ := by
      simp [waiting, get_set]
    have rests : waiting.ComesTo fun t =>
        t.stage = s.stage ∧ t.loops = s.loops.set name .resting := by
      refine .answer (.loop name) fun reply => ?_
      rw [meet_answer_busy busy]
      refine (ih (reply call) waiting).mono ?_
      rintro t ⟨stage, loops⟩
      exact ⟨stage, loops.trans (set_set _ _ _ _)⟩
    exact rests

/-- The removal comes to its end when its calls are answered. -/
theorem over_of_answers (task : Activity Unit) (s : System) :
    (goOnRetiring .silent task s ()).1.ComesTo fun t => t.stage = .over := by
  induction task generalizing s with
  | done a => exact .there rfl
  | read next ih => exact ih s.desk s
  | write d next ih => exact ih { s with desk := d }
  | ask call next ih =>
    exact .answer .life fun reply => ih (reply call) { s with stage := .retiring ⟨call, next⟩ }

/-- The subscriptions at the start of the run come to their end when their calls are answered, and
how the run ends is as open as before. -/
theorem serves_of_answers {ending : Ending} (task : Activity Bool) (s : System)
    (behaves : enlistConduct.Behaves task (enlisted ending) s.desk Ends) :
    (goOnEnlisting .silent task s ()).1.ComesTo fun t =>
      t.stage = .serving ∧ t.desk.ending = ending := by
  induction task generalizing s ending with
  | done worked =>
    obtain ⟨rfl, same⟩ := behaves
    obtain ⟨kept, -⟩ := LoopsBehave.work (s := ⟨s.desk, .serving, .atStart s.desk.settings⟩)
      (loopsBehave_atStart s.desk.settings) watchSessions_behaves (keepsTo_comesTo .renewal _)
    exact .there ⟨rfl, kept.trans same⟩
  | read next ih => exact ih s.desk s behaves
  | write d next ih => exact ih { s with desk := d } behaves
  | ask call next ih =>
    obtain ⟨⟨subscribes, same⟩, go_on⟩ := behaves
    refine .answer .life fun reply => ?_
    have conduct : enlistConduct call (reply call) s.desk = enlisted ending :=
      (enlistConduct_of_subscribes subscribes _ _).trans (congrArg enlisted same)
    exact ih (reply call) { s with stage := .enlisting ⟨call, next⟩ }
      (conduct ▸ go_on (reply call) s.desk)

end System

/-! ## Runs that come to their end -/

/-- What is known at every moment of a run whose node was registered. -/
structure Chronicle.Runs (c : Chronicle) : Prop where
  fares : ∃ causes, Fares c.record causes c.system
  orderly : c.system.Orderly
  setOff : c.system.SetOff
  registered : Registered c.record

namespace Chronicle

variable {c : Chronicle}

/-- A run may wind up in several stretches. -/
theorem ComesTo.trans {goal final : Chronicle → Prop} (comes : c.ComesTo goal)
    (later : ∀ c', goal c' → c'.ComesTo final) : c.ComesTo final := by
  induction comes with
  | there here => exact later _ here
  | look looks _ ih => exact .look looks ih
  | answer strand _ ih => exact .answer strand ih

namespace Runs

/-- What is known of a run is known whatever happens. -/
theorem step (runs : c.Runs) (h : Happening) : (c.step h).Runs := by
  obtain ⟨causes, fares⟩ := runs.fares
  refine ⟨⟨_, fares.step runs.orderly h⟩, runs.orderly.meet h, runs.setOff.meet h, ?_⟩
  obtain ⟨moment, mem, works⟩ := runs.registered
  exact ⟨moment, (c.record_prefix_step h).subset mem, works⟩

/-- Where a system comes, its run comes as well. -/
theorem comesTo (runs : c.Runs) {goal : System → Prop} (comes : c.system.ComesTo goal) :
    c.ComesTo fun c' => c'.Runs ∧ goal c'.system := by
  generalize system : c.system = s at comes
  induction comes generalizing c with
  | there here => exact .there ⟨runs, system ▸ here⟩
  | @look s h looks _ ih => exact .look looks (ih (runs.step h) (system ▸ rfl))
  | answer strand _ ih =>
    exact .answer strand fun reply => ih reply (runs.step _) (system ▸ rfl)

/-- A run that is over is finished. -/
theorem isDone_of_over (runs : c.Runs) (ended : c.system.stage = .over) :
    c.system.isDone = true := by
  obtain ⟨causes, fares⟩ := runs.fares
  simp only [Fares, ended] at fares
  exact (fares.resolve_left (absurd runs.registered)).2.done.2 rfl

/-- A run that waits for its loops is about to end. -/
theorem stopping_of_joining (runs : c.Runs) (joining : c.system.stage = .joining) :
    c.system.desk.stopping = true := by
  obtain ⟨causes, fares⟩ := runs.fares
  obtain ⟨⟨serving, -⟩, caused⟩ := fares.serves (.inr joining)
  have told : c.system.desk.stopping = (c.system.desk.cancelled || !causes.isEmpty) :=
    serving.tells.stopping
  simp [told, caused joining]

/-- A loop at rest ends when it looks, if the run waits for it. -/
theorem ends_resting (runs : c.Runs) (joining : c.system.stage = .joining) {name : LoopName}
    (rests : c.system.loops.get name = .resting) :
    c.ComesTo fun c' => c'.Runs ∧ c'.system.stage = .joining ∧
      c'.system.loops = c.system.loops.set name .ended := by
  have stopping := runs.stopping_of_joining joining
  have quit : c.system.meet (.stimulus (.quit name)) =
      { c.system with loops := c.system.loops.set name .ended } := by
    simp [System.meet, System.react, System.quit, stopping, rests]
  have ends : c.system.ComesTo fun t =>
      t.stage = .joining ∧ t.loops = c.system.loops.set name .ended := by
    refine .look (h := .stimulus (.quit name)) trivial (.there ?_)
    rw [quit]
    exact ⟨joining, rfl⟩
  exact runs.comesTo ends

/-- Every loop ends, if the run waits for it. -/
theorem ends_loop (runs : c.Runs) (joining : c.system.stage = .joining) (name : LoopName) :
    c.ComesTo fun c' => c'.Runs ∧ c'.system.stage = .joining ∧
      c'.system.loops = c.system.loops.set name .ended := by
  cases loop : c.system.loops.get name with
  | idle => exact absurd loop (runs.setOff (.inr joining) name)
  | resting => exact runs.ends_resting joining loop
  | busy p =>
    -- the loop comes to rest first, and then it looks
    have rests : c.system.ComesTo fun t =>
        t.stage = c.system.stage ∧ t.loops = c.system.loops.set name .resting := by
      refine .answer (.loop name) fun reply => ?_
      rw [System.meet_answer_busy loop]
      exact System.rests_of_answers name _ c.system
    refine (runs.comesTo rests).trans ?_
    rintro c' ⟨runs', stage, loops⟩
    have resting : c'.system.loops.get name = .resting := by
      simp [loops, System.get_set]
    have ends := runs'.ends_resting (stage.trans joining) resting
    rwa [loops, System.set_set] at ends
  | ended =>
    have same : c.system.loops.set name .ended = c.system.loops := by
      cases name with
      | _ => exact loop ▸ rfl
    exact .there ⟨runs, joining, same.symm⟩

/-- A run that waits for its loops comes to its end. -/
theorem finishes_of_joining (runs : c.Runs) (joining : c.system.stage = .joining) :
    c.ComesTo fun c' => c'.system.isDone = true := by
  refine (runs.ends_loop joining .heartbeat).trans ?_
  rintro c₁ ⟨runs₁, joining₁, loops₁⟩
  refine (runs₁.ends_loop joining₁ .reconcile).trans ?_
  rintro c₂ ⟨runs₂, joining₂, loops₂⟩
  refine (runs₂.ends_loop joining₂ .renewal).trans ?_
  rintro c₃ ⟨runs₃, joining₃, loops₃⟩
  have ended : c₃.system.loops.allEnded = true := by
    rw [loops₃, loops₂, loops₁]
    rfl
  have joins : c₃.system.meet (.stimulus .join) =
      (System.goOnRetiring .silent retire c₃.system ()).1 := by
    simp [System.meet, System.react, System.join, joining₃, ended]
  have removed : c₃.system.ComesTo fun t => t.stage = .over := by
    refine .look (h := .stimulus .join) trivial ?_
    rw [joins]
    exact System.over_of_answers retire c₃.system
  exact (runs₃.comesTo removed).trans fun c' there => .there (there.1.isDone_of_over there.2)

/-- A run that serves its node and is about to end comes to its end. -/
theorem finishes_of_serving (runs : c.Runs) (serving : c.system.stage = .serving)
    (stopping : c.system.desk.stopping = true) : c.ComesTo fun c' => c'.system.isDone = true := by
  have halts : c.system.ComesTo fun t => t.stage = .joining := by
    refine .look (h := .stimulus .halt) trivial (.there ?_)
    simp [System.meet, System.react, System.halt, serving, stopping]
  exact (runs.comesTo halts).trans fun c' there => there.1.finishes_of_joining there.2

/-- A run that waits while it subscribes at the start has been registered before. -/
theorem subscribes_of_enlisting (runs : c.Runs) {p : Pending Bool}
    (stage : c.system.stage = .enlisting p) :
    enlistConduct.Prepared p ∧ p.call.Subscribes := by
  obtain ⟨causes, fares⟩ := runs.fares
  simp only [Fares, stage] at fares
  obtain ⟨prepared, enlisting⟩ := fares
  obtain ⟨call, next⟩ := p
  refine ⟨prepared, ?_⟩
  cases enlisting with
  | asked node nothing =>
    obtain ⟨moment, mem, -⟩ := runs.registered
    rw [nothing] at mem
    cases mem
  | worked subscribes _ => exact subscribes
  | failed refused => exact absurd runs.registered refused

/-- Whatever it is answered, a run whose node was registered and that is about to end comes to its
end by looks and by answers alone. -/
theorem finishes (runs : c.Runs) (stopping : c.system.desk.stopping = true) :
    c.ComesTo fun c' => c'.system.isDone = true := by
  cases stage : c.system.stage with
  | idle =>
    obtain ⟨causes, fares⟩ := runs.fares
    simp only [Fares, stage] at fares
    obtain ⟨moment, mem, -⟩ := runs.registered
    rw [fares.1] at mem
    cases mem
  | enlisting p =>
    obtain ⟨prepared, subscribes⟩ := runs.subscribes_of_enlisting stage
    have serves : c.system.ComesTo fun t =>
        t.stage = .serving ∧ t.desk.ending = c.system.desk.ending := by
      refine .answer .life fun reply => ?_
      have answered : c.system.meet (.stimulus (.answer .life reply)) =
          (System.goOnEnlisting .silent (p.next (reply p.call)) c.system ()).1 := by
        simp [System.meet, System.react, System.take, stage]
      rw [answered]
      refine System.serves_of_answers _ c.system ?_
      have behaves := prepared (reply p.call) c.system.desk
      rwa [enlistConduct_of_subscribes subscribes] at behaves
    refine (runs.comesTo serves).trans ?_
    rintro c' ⟨runs', serving, same⟩
    exact runs'.finishes_of_serving serving ((congrArg Ending.stopping same).trans stopping)
  | serving => exact runs.finishes_of_serving stage stopping
  | joining => exact runs.finishes_of_joining stage
  | retiring p =>
    have removed : c.system.ComesTo fun t => t.stage = .over := by
      refine .answer .life fun reply => ?_
      have answered : c.system.meet (.stimulus (.answer .life reply)) =
          (System.goOnRetiring .silent (p.next (reply p.call)) c.system ()).1 := by
        simp [System.meet, System.react, System.take, stage]
      rw [answered]
      exact System.over_of_answers _ c.system
    exact (runs.comesTo removed).trans fun c' there => .there (there.1.isDone_of_over there.2)
  | _ => exact .there (runs.isDone_of_over stage)

end Runs

/-- The loops that were set off are not set back at any later moment. -/
theorem setOff_follow (set_off : c.system.SetOff) (happenings : List Happening) :
    (c.follow happenings).system.SetOff := by
  induction happenings generalizing c with
  | nil => exact set_off
  | cons h later ih => exact ih (set_off.meet h)

end Chronicle

/-- At every moment of every run whose node was registered this is known. -/
theorem runs_follow (settings : Settings) (origin : Time.Stamp) (happenings : List Happening)
    (registered : Registered ((Chronicle.fresh settings origin).follow happenings).record) :
    ((Chronicle.fresh settings origin).follow happenings).Runs := by
  obtain ⟨fares, orderly⟩ := fares_follow settings origin happenings
  have begun : (Chronicle.fresh settings origin).system.SetOff := by
    rintro (stage | stage) <;> cases stage
  exact ⟨⟨_, fares⟩, orderly, Chronicle.setOff_follow begun happenings, registered⟩

end VirtualNode.Controller
