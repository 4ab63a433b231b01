import Mathlib.Data.List.Induction
import Mathlib.Data.List.TakeWhile
import VirtualNode.Controller.Completion

/-!
# The first outcome wins

A run is told to end from several sides, in any order and more than once: outcomes are recorded, the
run is finished, and meanwhile others wait or look.  `Completion.after deeds` is what is known after
these deeds.  The outcome that counts is the one that was recorded first, if that was before the run
was finished (`winner`).

Main statement: `Completion.first_outcome_wins`, for every sequence of deeds.
-/

set_option autoImplicit false

namespace VirtualNode.Controller.Completion

/-- What can be done about the end of a run. -/
inductive Deed where
  /-- An outcome is recorded: a fault, or none. -/
  | record (fault : Option Fault)
  /-- The run is finished. -/
  | finish
  /-- Someone begins to wait for the end. -/
  | wait
  /-- Someone reads what is known. -/
  | look
  deriving DecidableEq, Repr, Inhabited

/-- What is known after one more deed. -/
def act (c : Completion) : Deed → Completion
  | .record fault => (c.record fault).1
  | .finish => c.finish
  | .wait => c.wait
  | .look => c

/-- What is known after deeds, from the beginning on. -/
def after (deeds : List Deed) : Completion := deeds.foldl act pending

/-- One more deed is done after the others. -/
@[simp]
theorem after_concat (deeds : List Deed) (deed : Deed) :
    after (deeds ++ [deed]) = (after deeds).act deed := by
  simp [after]

/-- The outcome that a deed records. -/
def Deed.recorded? : Deed → Option (Option Fault)
  | record fault => some fault
  | _ => none

/-- The deeds before the run is finished. -/
def beforeFinish (deeds : List Deed) : List Deed := deeds.takeWhile (· ≠ .finish)

/-- The first outcome that is recorded before the run is finished. -/
def firstRecord? (deeds : List Deed) : Option (Option Fault) :=
  (beforeFinish deeds).findSome? Deed.recorded?

/-- The outcome that counts: no fault if none is recorded before the run is finished. -/
def winner (deeds : List Deed) : Option Fault := (firstRecord? deeds).join

section Before

variable {deeds : List Deed}

/-- What is done after the run was finished does not count. -/
theorem beforeFinish_append_of_mem (finished : .finish ∈ deeds) (late : List Deed) :
    beforeFinish (deeds ++ late) = beforeFinish deeds := by
  obtain ⟨early, rest, rfl, unfinished⟩ := List.eq_append_cons_of_mem finished
  have before : ∀ deed ∈ early, decide (deed ≠ .finish) = true := by
    intro deed mem
    rw [decide_eq_true_eq]
    rintro rfl
    exact unfinished mem
  rw [beforeFinish, beforeFinish, List.append_assoc, List.takeWhile_append_of_pos before,
    List.takeWhile_append_of_pos before]
  rfl

/-- Deeds that do not finish all come before the end. -/
theorem beforeFinish_append_of_notMem (unfinished : .finish ∉ deeds) (late : List Deed) :
    beforeFinish (deeds ++ late) = deeds ++ beforeFinish late := by
  refine List.takeWhile_append_of_pos fun deed mem => ?_
  rw [decide_eq_true_eq]
  rintro rfl
  exact unfinished mem

/-- After the end nothing that is recorded counts. -/
theorem firstRecord?_concat_of_mem (finished : .finish ∈ deeds) (deed : Deed) :
    firstRecord? (deeds ++ [deed]) = firstRecord? deeds := by
  rw [firstRecord?, firstRecord?, beforeFinish_append_of_mem finished]

/-- Before the run is finished, a record counts just if none came before. -/
theorem firstRecord?_concat_of_notMem (unfinished : .finish ∉ deeds) (deed : Deed) :
    firstRecord? (deeds ++ [deed]) = (firstRecord? deeds).or deed.recorded? := by
  have all : beforeFinish deeds = deeds := by
    simpa [beforeFinish] using beforeFinish_append_of_notMem unfinished []
  rw [firstRecord?, firstRecord?, beforeFinish_append_of_notMem unfinished, all,
    List.findSome?_append]
  cases deed <;> rfl

/-- Before the end there is no first record just if nothing was recorded. -/
theorem firstRecord?_eq_none_iff (unfinished : .finish ∉ deeds) :
    firstRecord? deeds = none ↔ ∀ fault, .record fault ∉ deeds := by
  have all : beforeFinish deeds = deeds := by
    simpa [beforeFinish] using beforeFinish_append_of_notMem unfinished []
  rw [firstRecord?, all, List.findSome?_eq_none_iff]
  constructor
  · intro none fault mem
    simpa [Deed.recorded?] using none _ mem
  · intro never deed mem
    cases deed with
    | record fault => exact absurd mem (never fault)
    | finish | wait | look => rfl

end Before

/-! ## What one deed preserves -/

/-- What is known tells of the deeds so far. -/
structure Tells (deeds : List Deed) (c : Completion) : Prop where
  outcome : c.outcome = if .finish ∈ deeds then some (winner deeds) else firstRecord? deeds
  done : c.done = decide (.finish ∈ deeds)
  waiting : c.waiting = if .finish ∈ deeds then 0 else deeds.count .wait
  released : c.released = if .finish ∈ deeds then deeds.count .wait else 0

/-- A completion goes on telling of the deeds when one more is done. -/
theorem Tells.act {deeds : List Deed} {c : Completion} (tells : Tells deeds c) (deed : Deed) :
    Tells (deeds ++ [deed]) (c.act deed) := by
  obtain ⟨outcome, done, waiting, released⟩ := c
  obtain ⟨rfl, rfl, rfl, rfl⟩ := tells
  by_cases finished : .finish ∈ deeds
  · have same := firstRecord?_concat_of_mem finished deed
    cases deed with
    | record fault =>
      constructor <;> simp [Completion.act, Completion.record, finished, winner, same]
    | finish =>
      constructor <;> simp [Completion.act, Completion.finish, finished, winner, same]
    | wait =>
      constructor <;> simp [Completion.act, Completion.wait, finished, winner, same]
    | look =>
      constructor <;> simp [Completion.act, finished, winner, same]
  · have next := firstRecord?_concat_of_notMem finished deed
    cases deed with
    | record fault =>
      cases first : firstRecord? deeds with
      | none =>
        constructor <;>
          simp [Completion.act, Completion.record, finished, next, first, Deed.recorded?]
      | some outcome =>
        constructor <;> simp [Completion.act, Completion.record, finished, next, first]
    | finish =>
      cases first : firstRecord? deeds with
      | none =>
        constructor <;>
          simp [Completion.act, Completion.finish, finished, winner, next, first, Deed.recorded?]
      | some outcome =>
        constructor <;> simp [Completion.act, Completion.finish, finished, winner, next, first]
    | wait =>
      constructor <;> simp [Completion.act, Completion.wait, finished, next, Deed.recorded?]
    | look =>
      constructor <;> simp [Completion.act, finished, next, Deed.recorded?]

/-- After any deeds the completion tells of them. -/
theorem tells_after (deeds : List Deed) : Tells deeds (after deeds) := by
  induction deeds using List.reverseRecOn with
  | nil => exact ⟨rfl, rfl, rfl, rfl⟩
  | append_singleton deeds deed ih =>
    rw [after_concat]
    exact ih.act deed

/-! ## What can be read of the end -/

/-- What can be read after the given deeds, and after more of them. -/
structure FirstWins (deeds : List Deed) : Prop where
  /-- A record is taken just if it is the first one and the run is not finished. -/
  taken : ∀ fault, ((after deeds).record fault).2 = true ↔
    (∀ earlier, .record earlier ∉ deeds) ∧ .finish ∉ deeds
  /-- The run is done as soon as it was finished. -/
  done : (after deeds).done = true ↔ .finish ∈ deeds
  /-- A run that is done stays so. -/
  stays : (after deeds).done = true → ∀ late, (after (deeds ++ late)).done = true
  /-- No fault is shown before the run is done, and then the first one that was recorded. -/
  fault : (after deeds).fault? = if (after deeds).done then winner deeds else none
  /-- The fault that is shown of a run that is done is shown forever. -/
  forever : (after deeds).done = true →
    ∀ late, (after (deeds ++ late)).fault? = (after deeds).fault?
  /-- All who have waited are released if the run was finished, and else none. -/
  released : (after deeds).released = if .finish ∈ deeds then deeds.count .wait else 0
  /-- Who was not released is waiting. -/
  waiting : (after deeds).waiting + (after deeds).released = deeds.count .wait
  /-- Whether the outcome that counts is a fault is known at once, before the run is done too. -/
  faulty : (after deeds).recorded?.isSome = (winner deeds).isSome

/-- Whatever is done about the end of a run, in any order and however often, the first outcome that
is recorded before the run is finished is the one that counts. -/
theorem first_outcome_wins (deeds : List Deed) : FirstWins deeds := by
  have tells := tells_after deeds
  have done : ∀ deeds, (after deeds).done = true ↔ .finish ∈ deeds := by
    intro deeds
    rw [(tells_after deeds).done, decide_eq_true_eq]
  have known : ∀ deeds, (after deeds).recorded? = winner deeds := by
    intro deeds
    rw [recorded?, (tells_after deeds).outcome]
    split
    · rfl
    · rfl
  refine ⟨fun fault => ?_, done deeds, ?_, ?_, ?_, tells.released, ?_, by rw [known]⟩
  · by_cases finished : .finish ∈ deeds
    · simp [record, tells.outcome, finished]
    · rw [← firstRecord?_eq_none_iff finished]
      cases first : firstRecord? deeds with
      | none => simp [record, tells.outcome, finished, first]
      | some outcome => simp [record, tells.outcome, finished, first]
  · intro finished late
    rw [done] at finished ⊢
    exact List.mem_append_left late finished
  · rw [fault?, known]
  · intro finished late
    rw [done] at finished
    have later : .finish ∈ deeds ++ late := List.mem_append_left late finished
    have same : winner (deeds ++ late) = winner deeds := by
      rw [winner, winner, firstRecord?, firstRecord?, beforeFinish_append_of_mem finished]
    rw [fault?, fault?, if_pos ((done _).2 later), if_pos ((done _).2 finished), known, known, same]
  · rw [tells.waiting, tells.released]
    split
    · exact Nat.zero_add _
    · rfl

end VirtualNode.Controller.Completion
