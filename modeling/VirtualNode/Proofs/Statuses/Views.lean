import VirtualNode.Proofs.Frames
import VirtualNode.Proofs.Rounds

/-!
# What the status of a pod depends on

Of all that the controller has seen of a module, the status of a pod depends only on the state in
which the module was last seen and on the time since which it has been in it (`Inbox.view`,
`Desk.statusOf_congr`).  A report that is noted as unchanged leaves both alone, and a message that
changes one of them raises the wake-up (`Inbox.view_receive`).

`Moment.statusWrite?` is the write of a pod status that was tried at a moment.
-/

set_option autoImplicit false

namespace VirtualNode

namespace Controller

open Biz (Report Sightings)
open Kube (Pod PodStatus ContainerStatus)

/-! ## Views -/

/-- The state in which a module was last seen, and since when it has been in it. -/
def Inbox.view (i : Inbox) (identity : String) : Option (Biz.State × Time.Stamp) :=
  (i.sightings.get? identity).map fun seen => (seen.report.state, seen.since)

/-- The status of a pod depends on the settings and on what was seen of modules. -/
theorem statusOf_congr {d e : Desk} (settings : e.settings = d.settings)
    (view : ∀ identity, e.view identity = d.view identity) (pod : Pod) :
    e.statusOf pod = d.statusOf pod := by
  simp only [Desk.statusOf, settings]
  congr 1
  refine List.map_congr_left ?_
  intro module _
  have same := view module.identity
  simp only [Inbox.view] at same
  cases seen : d.sightings.get? module.identity with
  | none =>
    rw [seen, Option.map_none, Option.map_eq_none_iff] at same
    simp [same, ContainerStatus.ofReport, ContainerStatus.stateOf]
  | some sighting =>
    rw [seen] at same
    obtain ⟨sighting', seen', pair⟩ := Option.map_eq_some_iff.1 same
    obtain ⟨state, since⟩ := Prod.mk.inj pair
    simp [seen', ContainerStatus.ofReport, state, since]

/-- The status of a pod depends on nothing but what passes decide by. -/
theorem statusOf_outlook {d e : Desk} (outlook : e.outlook = d.outlook) (pod : Pod) :
    e.statusOf pod = d.statusOf pod := by
  have sightings : e.sightings = d.sightings := congrArg Outlook.sightings outlook
  refine statusOf_congr (congrArg Outlook.settings outlook) ?_ pod
  intro identity
  simp [Inbox.view, sightings]

/-! ## Reports -/

/-- A report that is noted as unchanged changes neither the state of a module nor its time. -/
theorem view_apply_unchanged {s : Sightings} {report : Report} {now : Time.Stamp}
    (unchanged : (s.apply report now).2 = .unchanged) (identity : String) :
    ((s.apply report now).1.get? identity).map (fun seen => (seen.report.state, seen.since)) =
      (s.get? identity).map fun seen => (seen.report.state, seen.since) := by
  rw [Sightings.get?_apply]
  by_cases here : report.identity = identity
  · have observed : (Sightings.observe (s.get? report.identity) report now).2 = .unchanged :=
      unchanged
    rw [if_pos here, ← here]
    cases known : s.get? report.identity with
    | none => simp [known, Sightings.observe] at observed
    | some seen =>
      rw [known] at observed
      by_cases same : seen.report.state = report.state
      · simp [Sightings.observe, same]
      · simp [Sightings.observe, same] at observed
  · rw [if_neg here]

namespace Inbox

/-- A report that changes nothing leaves the view as it was. -/
theorem view_takeReport {i : Inbox} {report : Report} (unchanged : (i.takeReport report).2 = false)
    (identity : String) : (i.takeReport report).1.view identity = i.view identity := by
  unfold takeReport at unchanged ⊢
  rcases applied : i.sightings.apply report i.now with ⟨sightings, change⟩
  rw [applied] at unchanged
  cases change with
  | changed previous => cases unchanged
  | unchanged =>
    have noted : (i.sightings.apply report i.now).2 = .unchanged := by rw [applied]
    have same := view_apply_unchanged noted identity
    rw [applied] at same
    exact same

/-- A report by itself wakes nobody. -/
theorem wake_takeReport (i : Inbox) (report : Report) :
    (i.takeReport report).1.wake = i.wake := by
  unfold takeReport
  split
  · rfl
  · rfl

/-- Reports that change nothing leave the view as it was. -/
theorem view_takeReports {i : Inbox} {reports : List Report}
    (unchanged : (i.takeReports reports).2 = 0) (identity : String) :
    (i.takeReports reports).1.view identity = i.view identity := by
  induction reports generalizing i with
  | nil => rfl
  | cons report reports ih =>
    simp only [takeReports] at unchanged ⊢
    have first : (i.takeReport report).2 = false := by
      cases changed : (i.takeReport report).2 with
      | false => rfl
      | true => simp [changed] at unchanged
    have rest : ((i.takeReport report).1.takeReports reports).2 = 0 := by
      simpa [first] using unchanged
    rw [ih rest, view_takeReport first]

/-- Reports by themselves wake nobody. -/
theorem wake_takeReports (i : Inbox) (reports : List Report) :
    (i.takeReports reports).1.wake = i.wake := by
  induction reports generalizing i with
  | nil => rfl
  | cons report reports ih =>
    simp only [takeReports]
    rw [ih, wake_takeReport]

/-- A message raises the wake-up or leaves every state alone, and takes no wake-up away. -/
theorem view_receive (i : Inbox) (purpose : Topic.Purpose) (topic : String) (payload : ByteArray) :
    (i.wake = true → (i.receive purpose topic payload).wake = true) ∧
      ((i.receive purpose topic payload).wake = false →
        ∀ identity, (i.receive purpose topic payload).view identity = i.view identity) := by
  cases purpose with
  | bizState =>
    simp only [receive, receiveReports]
    cases Report.decode payload with
    | error e => exact ⟨id, fun _ _ => rfl⟩
    | ok reports =>
      dsimp only
      rw [wake_takeReports]
      refine ⟨fun woken => ?_, fun asleep identity => ?_⟩
      · have still : ({ i with metrics := i.metrics.addBizMessages reports.length }).touch.wake =
            true := woken
        simp [still]
      · simp only [Bool.or_eq_false_iff, decide_eq_false_iff_not, Nat.not_lt,
          Nat.le_zero_eq] at asleep
        exact view_takeReports asleep.2 identity
  | _ => exact ⟨id, fun _ _ => rfl⟩

end Inbox

/-! ## Writes of pod statuses -/

/-- A write of the status of a pod. -/
structure StatusWrite where
  spaceName : String
  name : String
  status : PodStatus
  /-- Whether it worked. -/
  worked : Bool
  deriving DecidableEq, Repr

/-- Whether a write is addressed to a pod. -/
def StatusWrite.Addresses (write : StatusWrite) (pod : Pod) : Prop :=
  write.spaceName = pod.addressSpace ∧ write.name = pod.addressName

instance (write : StatusWrite) (pod : Pod) : Decidable (write.Addresses pod) :=
  inferInstanceAs (Decidable (_ ∧ _))

/-- The write of a pod status that was tried at a moment. -/
def Moment.statusWrite? : Moment → Option StatusWrite
  | ⟨⟨.reportPod spaceName name status, answer⟩, _⟩ =>
    some ⟨spaceName, name, status, succeeded answer⟩
  | _ => none

/-- Only calls that write a status do so. -/
theorem statusWrite?_eq_none {call : Call} (other : ¬ call.WritesStatus) (answer : call.Answer)
    (d : Desk) : Moment.statusWrite? ⟨⟨call, answer⟩, d⟩ = none := by
  cases call with
  | reportPod spaceName name status => exact absurd trivial other
  | _ => rfl

/-- Within the limit, or not at all. -/
theorem bounded_eq_ok_iff {what : String} {limit : Nat} {answer : Option (Except Fault Unit)} :
    bounded what limit answer = .ok () ↔ succeeded answer = true := by
  rcases answer with _ | (fault | _)
  · simp [bounded, succeeded]
  · simp [bounded, succeeded]
  · simp [bounded, succeeded]

end Controller

end VirtualNode
