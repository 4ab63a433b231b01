import VirtualNode.Proofs.Ending.Conduct
import VirtualNode.Proofs.Interleaving.Laws
import Mathlib.Data.List.DropRight

/-!
# Failures in a row

The controller counts how many probes and how many listings in a row have failed.  The counts are
kept on the desk, while the loops that keep them are interrupted at every call.  Here they are read
off the calls that were answered: whenever nobody is at the desk, each count is the number of
failures at the end of the outcomes so far (`tally_follow`).
-/

set_option autoImplicit false

namespace VirtualNode.Controller

open Contract (abides_bind abides_change abides_desk abides_mono)

/-! ## Outcomes -/

namespace Moment

/-- Whether a probe was acknowledged, if the call was one. -/
def probed? : Moment → Option Bool
  | ⟨⟨.probe _, outcome⟩, _⟩ => some outcome.isOk
  | _ => none

/-- Whether the pods were listed, if the call asked for them.  A listing that takes too long has
failed. -/
def listed? : Moment → Option Bool
  | ⟨⟨.listPods, answer⟩, _⟩ => some (answer.any Except.isOk)
  | _ => none

variable {moment : Moment}

/-- A call that may decide nothing is no probe. -/
theorem probed?_eq_none (other : ¬ moment.question.Decides) : moment.probed? = none := by
  obtain ⟨⟨call, answer⟩, asked⟩ := moment
  cases call with
  | probe content => exact absurd trivial other
  | _ => rfl

/-- A call that may decide nothing is no listing. -/
theorem listed?_eq_none (other : ¬ moment.question.Decides) : moment.listed? = none := by
  obtain ⟨⟨call, answer⟩, asked⟩ := moment
  cases call with
  | listPods => exact absurd trivial other
  | _ => rfl

end Moment

/-- A call to the cluster has worked just if its outcome is no fault. -/
theorem any_isOk_eq {α : Type} (what : String) (limit : Nat) (answer : Option (Except Fault α)) :
    answer.any Except.isOk = (bounded what limit answer).isOk := by
  cases answer with
  | none => rfl
  | some outcome => rfl

/-- The outcomes of the probes of a record. -/
def probes (record : List Moment) : List Bool := record.filterMap Moment.probed?

/-- The outcomes of the listings of a record. -/
def listings (record : List Moment) : List Bool := record.filterMap Moment.listed?

/-- One more answer adds its probe, if it is one. -/
theorem probes_concat (record : List Moment) (moment : Moment) :
    probes (record ++ [moment]) = probes record ++ moment.probed?.toList := by
  cases told : moment.probed? <;> simp [probes, told]

/-- One more answer adds its listing, if it is one. -/
theorem listings_concat (record : List Moment) (moment : Moment) :
    listings (record ++ [moment]) = listings record ++ moment.listed?.toList := by
  cases told : moment.listed? <;> simp [listings, told]

/-- The number of failures since the last success. -/
def failuresInARow (outcomes : List Bool) : Nat := (outcomes.rtakeWhile (!·)).length

/-- Without outcomes there are no failures. -/
@[simp] theorem failuresInARow_nil : failuresInARow [] = 0 := rfl

/-- One success starts the count again. -/
@[simp] theorem failuresInARow_success (outcomes : List Bool) :
    failuresInARow (outcomes ++ [true]) = 0 := by
  simp [failuresInARow]

/-- One more failure adds to those in a row. -/
@[simp] theorem failuresInARow_failure (outcomes : List Bool) :
    failuresInARow (outcomes ++ [false]) = failuresInARow outcomes + 1 := by
  simp [failuresInARow]

/-- A success ends the failures in a row, and a failure adds to them. -/
theorem failuresInARow_concat (outcomes : List Bool) (worked : Bool) :
    failuresInARow (outcomes ++ [worked]) = if worked then 0 else failuresInARow outcomes + 1 := by
  cases worked <;> simp

/-! ## The counts -/

namespace Affairs

/-- The counts of failures are those of the calls that were answered. -/
structure Tallied (settings : Settings) (i : Affairs) : Prop where
  settings : i.desk.settings = settings
  probes : i.desk.missedProbes = failuresInARow (probes i.record)
  listings : i.desk.ledger.failedListings = failuresInARow (listings i.record)

variable {settings : Settings} {i : Affairs} {d asked : Desk}

/-- The tally stays right while the counts are left alone. -/
theorem Tallied.withDesk (tallied : i.Tallied settings) (vigil : d.vigil = i.desk.vigil) :
    (i.withDesk d).Tallied settings where
  settings := (congrArg (·.pulse.settings) vigil).trans tallied.settings
  probes := (congrArg Vigil.missedProbes vigil).trans tallied.probes
  listings := (congrArg Vigil.failedListings vigil).trans tallied.listings

/-- The tally stays right when a call is answered that may decide nothing. -/
theorem Tallied.note {moment : Moment} (tallied : i.Tallied settings)
    (other : ¬ moment.question.Decides) : (i.note moment).Tallied settings where
  settings := tallied.settings
  probes := by
    rw [record_note, probes_concat, Moment.probed?_eq_none other, Option.toList_none,
      List.append_nil]
    exact tallied.probes
  listings := by
    rw [record_note, listings_concat, Moment.listed?_eq_none other, Option.toList_none,
      List.append_nil]
    exact tallied.listings

/-- The outcome of a probe was counted. -/
theorem Tallied.probed (tallied : i.Tallied settings) (asked : Desk) (content : Biz.Probe)
    (outcome : Except DeliveryFault Unit)
    (vigil : d.vigil = { i.desk.vigil with
      missedProbes := if outcome.isOk then 0 else i.desk.missedProbes + 1 }) :
    ((i.note ⟨⟨.probe content, outcome⟩, asked⟩).withDesk d).Tallied settings where
  settings := (congrArg (·.pulse.settings) vigil).trans tallied.settings
  probes := by
    rw [record_withDesk, record_note, probes_concat]
    refine (congrArg Vigil.missedProbes vigil).trans ?_
    simp [Moment.probed?, failuresInARow_concat, tallied.probes]
  listings := by
    rw [record_withDesk, record_note, listings_concat]
    refine (congrArg Vigil.failedListings vigil).trans (tallied.listings.trans ?_)
    exact congrArg failuresInARow (List.append_nil _).symm

/-- The outcome of a listing was counted. -/
theorem Tallied.listed (tallied : i.Tallied settings) (answer : Call.listPods.Answer)
    (vigil : d.vigil = { i.desk.vigil with
      failedListings := if answer.any Except.isOk then 0
        else i.desk.ledger.failedListings + 1 }) :
    ((i.note ⟨⟨.listPods, answer⟩, asked⟩).withDesk d).Tallied settings where
  settings := (congrArg (·.pulse.settings) vigil).trans tallied.settings
  probes := by
    rw [record_withDesk, record_note, probes_concat]
    refine (congrArg Vigil.missedProbes vigil).trans (tallied.probes.trans ?_)
    exact congrArg failuresInARow (List.append_nil _).symm
  listings := by
    rw [record_withDesk, record_note, listings_concat]
    refine (congrArg Vigil.failedListings vigil).trans ?_
    simp [Moment.listed?, failuresInARow_concat, tallied.listings]

end Affairs

/-- A probe that failed adds one to the missed ones in a row, and changes no other count. -/
theorem Desk.vigil_probeFailed (d : Desk) (e : DeliveryFault) :
    (d.probeFailed e).vigil = { d.vigil with missedProbes := d.missedProbes + 1 } := by
  unfold probeFailed
  dsimp only
  split
  · rfl
  · rfl

/-! ## Everybody keeps count -/

section

variable {settings : Settings} {idle : Affairs → Prop} {strand : Strand} {i j : Affairs}

/-- The contract which asks of everybody to keep the counts right. -/
abbrev tallyContract (settings : Settings) : Contract :=
  lawContract (Affairs.Tallied settings) fun _ => True

/-- Who neither probes nor lists keeps the counts right. -/
theorem abides_watchless {α : Type} {task : Activity α} (watchless : Watchless task j.desk)
    (tallied : j.Tallied settings) :
    (tallyContract settings).Abides strand task i j fun _ _ j => j.Tallied settings :=
  abides_law watchless tallied (fun same kept => kept.withDesk same) fun other kept =>
    kept.note other

/-- To show the node leaves the counts alone. -/
theorem refreshNode_watchless (probed : Bool) (d : Desk) : Watchless (refreshNode probed) d :=
  Dialogue.within_mono (refreshNode_vigilant probed) (fun _ _ => And.left) fun _ => And.right

/-- A beat keeps the tally. -/
theorem beat_tallies (tallied : i.Tallied settings) :
    (tallyContract settings).Abides (.loop .heartbeat) beat i i fun _ _ j =>
      j.Tallied settings := by
  refine ⟨trivial, tallied, fun k _ tallied outcome => ?_⟩
  simp only [Dialogue.bind_done]
  refine abides_bind.2 (abides_change.2 ?_)
  cases outcome with
  | ok _ =>
    refine abides_bind.2 (abides_change.2 ?_)
    exact abides_watchless (refreshNode_watchless true _) (tallied.probed _ _ (.ok ()) rfl)
  | error fault =>
    refine abides_bind.2 (abides_change.2 (abides_bind.2 (abides_desk.2 ?_)))
    have counted := tallied.probed i.desk (.ofNode i.desk.settings.nodeId i.desk.now)
      (.error fault) ((k.desk.noteTransport (.error fault)).vigil_probeFailed fault)
    split
    · exact counted
    · exact abides_watchless (refreshNode_watchless false _) counted

/-- A pass keeps the tally. -/
theorem reconcile_tallies (tallied : i.Tallied settings) :
    (tallyContract settings).Abides (.loop .reconcile) reconcile i i fun _ _ j =>
      j.Tallied settings := by
  refine abides_bind.2 (abides_desk.2 (abides_bind.2
    (abides_mono (abides_watchless ensureSubscribed_watchless tallied) ?_)))
  intro _ i j tallied
  refine ⟨trivial, tallied, fun k _ tallied answer => ?_⟩
  simp only [Dialogue.bind_done]
  refine abides_bind.2 (abides_desk.2 ?_)
  split
  · rename_i fault failed
    refine tallied.listed answer ?_
    rw [any_isOk_eq, failed]
    exact k.desk.vigil_listingFailed fault
  · rename_i listing listed
    refine abides_bind.2 (abides_change.2 (abides_bind.2 (abides_mono (abides_watchless
      (watchless_of_detached (followListing_detached listing)) (tallied.listed answer ?_)) ?_)))
    · rw [any_isOk_eq, listed]
      rfl
    · exact fun _ _ _ tallied => tallied.withDesk rfl

/-- Everybody keeps the contract about the tally. -/
theorem tallyContract_kept (settings : Settings) : (tallyContract settings).Kept := by
  refine lawContract_kept ?_ (fun _ => id)
    (fun is tallied => (tallied.note (fun decides => (is ▸ decides).elim)).withDesk rfl)
    (fun _ tallied _ => abides_watchless enlist_watchless tallied)
    (fun _ => beat_tallies) (fun _ => reconcile_tallies) ?_ ?_
    (fun _ tallied => abides_watchless retire_watchless tallied)
  · rintro calls i j came tallied
    cases came with
    | elapse ms => exact ⟨tallied.settings, tallied.probes, tallied.listings⟩
    | connect => exact ⟨tallied.settings, tallied.probes, tallied.listings⟩
    | cancel => exact tallied.withDesk rfl
    | outcome => exact tallied.withDesk rfl
    | message purpose topic payload => exact ⟨tallied.settings, tallied.probes, tallied.listings⟩
  · exact fun _ tallied => abides_watchless (watchless_of_detached pushStatuses_detached)
      (tallied.withDesk rfl)
  · exact fun _ tallied => abides_watchless (watchless_of_detached renewSubscriptions_detached)
      tallied

end

/-- At every moment of every run the counts are the numbers of failures in a row. -/
theorem tally_follow (settings : Settings) (origin : Time.Stamp) (happenings : List Happening) :
    ((Chronicle.fresh settings origin).follow happenings).affairs.Tallied settings :=
  ((tallyContract_kept settings).follow settings origin ⟨rfl, rfl, rfl⟩ trivial happenings).law

end VirtualNode.Controller
