import VirtualNode.Controller.Reconcile
import VirtualNode.Proofs.Course

/-!
# Rounds of the loop over the pods

The loop over the pods does one round after the other: a pass over all pods, or a mere push of
their statuses.  Its ledger is its own, but everything else on the desk may be changed by others
at any time, and in which order a table of the ledger is gone through is left open.

`Run first rounds` says that the rounds can follow one another from the desk `first` on, whatever
is answered to the calls and whatever others do.
-/

set_option autoImplicit false

namespace VirtualNode.Controller

open Biz (Descriptor)
open Kube (Pod)

/-! ## Moments of the controller -/

/-- A call of the controller with its answer and with what was known when it was made. -/
abbrev Moment := Dialogue.Moment Call Call.Answer Desk

/-- A command about a module that was published on behalf of a pod. -/
structure Command where
  verb : Verb
  key : String
  target : Descriptor
  /-- Whether the broker acknowledged it. -/
  delivered : Bool
  deriving DecidableEq, Repr, Inhabited

namespace Moment

/-- The command that was published at a moment. -/
def command? : Moment → Option Command
  | ⟨⟨.command verb key target, outcome⟩, _⟩ => some ⟨verb, key, target, outcome.isOk⟩
  | _ => none

/-- Whether a command about the module was published. -/
def issues (verb : Verb) (d : Descriptor) (moment : Moment) : Bool :=
  (command? moment).any fun c => c.verb = verb && c.target.same d

/-- Whether a command about the module was published and acknowledged. -/
def delivers (verb : Verb) (d : Descriptor) (moment : Moment) : Bool :=
  (command? moment).any fun c => c.verb = verb && c.target.same d && c.delivered

/-- Whether a command was published and not acknowledged. -/
def fails (moment : Moment) : Bool :=
  (command? moment).any fun c => !c.delivered

/-- A moment issues a command if it is one with that verb about the same module. -/
theorem issues_iff {verb : Verb} {d : Descriptor} {moment : Moment} :
    issues verb d moment = true ↔
      ∃ key target delivered, command? moment = some ⟨verb, key, target, delivered⟩ ∧
        target.same d = true := by
  simp only [issues, Option.any_eq_true, Bool.and_eq_true, decide_eq_true_eq]
  constructor
  · rintro ⟨⟨verb, key, target, delivered⟩, is, rfl, same⟩
    exact ⟨key, target, delivered, is, same⟩
  · rintro ⟨key, target, delivered, is, same⟩
    exact ⟨_, is, rfl, same⟩

/-- A moment delivers a command if it issues it and the command is acknowledged. -/
theorem delivers_iff {verb : Verb} {d : Descriptor} {moment : Moment} :
    delivers verb d moment = true ↔
      ∃ key target, command? moment = some ⟨verb, key, target, true⟩ ∧
        target.same d = true := by
  simp only [delivers, Option.any_eq_true, Bool.and_eq_true, decide_eq_true_eq]
  constructor
  · rintro ⟨⟨verb, key, target, delivered⟩, is, ⟨rfl, same⟩, rfl⟩
    exact ⟨key, target, is, same⟩
  · rintro ⟨key, target, is, same⟩
    exact ⟨_, is, ⟨rfl, same⟩, rfl⟩

/-- A moment fails if its command is not acknowledged. -/
theorem fails_iff {moment : Moment} :
    fails moment = true ↔
      ∃ verb key target, command? moment = some ⟨verb, key, target, false⟩ := by
  simp only [fails, Option.any_eq_true, Bool.not_eq_true']
  constructor
  · rintro ⟨⟨verb, key, target, delivered⟩, is, rfl⟩
    exact ⟨verb, key, target, is⟩
  · rintro ⟨verb, key, target, is⟩
    exact ⟨_, is, rfl⟩

end Moment

/-- Whether some command of a record was not acknowledged. -/
def Fails (record : List Moment) : Prop := ∃ moment ∈ record, moment.fails = true

instance (record : List Moment) : Decidable (Fails record) :=
  inferInstanceAs (Decidable (∃ moment ∈ record, moment.fails = true))

/-- Whether a record has a command about the module. -/
def Issues (verb : Verb) (d : Descriptor) (record : List Moment) : Prop :=
  ∃ moment ∈ record, moment.issues verb d = true

/-- Whether a command about the module was published and not acknowledged. -/
def Failed (verb : Verb) (d : Descriptor) (record : List Moment) : Prop :=
  ∃ moment ∈ record, moment.issues verb d = true ∧ moment.fails = true

instance (verb : Verb) (d : Descriptor) (record : List Moment) :
    Decidable (Failed verb d record) :=
  inferInstanceAs
    (Decidable (∃ moment ∈ record, moment.issues verb d = true ∧ moment.fails = true))

/-- Where a certain command failed, some command did. -/
theorem Failed.fails {verb : Verb} {d : Descriptor} {record : List Moment}
    (h : Failed verb d record) : Fails record := by
  obtain ⟨moment, mem, -, fails⟩ := h
  exact ⟨moment, mem, fails⟩

/-- What failed in a record failed in its earlier part or in its later one. -/
theorem failed_append {verb : Verb} {d : Descriptor} {early late : List Moment} :
    Failed verb d (early ++ late) ↔ Failed verb d early ∨ Failed verb d late := by
  simp [Failed, or_and_right, exists_or]

/-- What was issued in a record was so in its earlier part or in its later one. -/
theorem issues_append {verb : Verb} {d : Descriptor} {early late : List Moment} :
    Issues verb d (early ++ late) ↔ Issues verb d early ∨ Issues verb d late := by
  simp [Issues, or_and_right, exists_or]

/-- A command is issued about all modules that are the same. -/
theorem Moment.issues_congr {verb : Verb} {d e : Descriptor} {moment : Moment}
    (same : d.same e = true) (h : moment.issues verb d = true) :
    moment.issues verb e = true := by
  obtain ⟨key, target, delivered, command, like⟩ := issues_iff.1 h
  exact issues_iff.2 ⟨key, target, delivered, command, Descriptor.same_trans like same⟩

/-- What was issued does not depend on which of the same modules is meant. -/
theorem Issues.congr {verb : Verb} {d e : Descriptor} {record : List Moment}
    (same : d.same e = true) (h : Issues verb d record) : Issues verb e record := by
  obtain ⟨moment, mem, issued⟩ := h
  exact ⟨moment, mem, Moment.issues_congr same issued⟩

/-- What failed does not depend on which of the same modules is meant. -/
theorem Failed.congr {verb : Verb} {d e : Descriptor} {record : List Moment}
    (same : d.same e = true) (h : Failed verb d record) : Failed verb e record := by
  obtain ⟨moment, mem, issued, fails⟩ := h
  exact ⟨moment, mem, Moment.issues_congr same issued, fails⟩

/-- A command that was published and never failed was acknowledged. -/
theorem Issues.delivered {verb : Verb} {d : Descriptor} {record : List Moment}
    (issued : Issues verb d record) (worked : ¬ Failed verb d record) :
    ∃ moment ∈ record, moment.delivers verb d = true := by
  obtain ⟨moment, mem, issues⟩ := issued
  obtain ⟨key, target, acknowledged, is, same⟩ := Moment.issues_iff.1 issues
  cases acknowledged with
  | true => exact ⟨moment, mem, Moment.delivers_iff.2 ⟨key, target, is, same⟩⟩
  | false =>
    have fails := Moment.fails_iff.2 ⟨verb, key, target, is⟩
    exact absurd ⟨moment, mem, issues, fails⟩ worked

/-- If all commands were acknowledged then so was every single one. -/
theorem delivers_of_issues {verb : Verb} {d : Descriptor} {record : List Moment} {moment : Moment}
    (delivered : ¬ Fails record) (mem : moment ∈ record) (issued : moment.issues verb d = true) :
    moment.delivers verb d = true := by
  obtain ⟨key, target, acknowledged, is, same⟩ := Moment.issues_iff.1 issued
  cases acknowledged with
  | true => exact Moment.delivers_iff.2 ⟨key, target, is, same⟩
  | false => exact absurd ⟨moment, mem, Moment.fails_iff.2 ⟨verb, key, target, is⟩⟩ delivered

/-- What is delivered is issued. -/
theorem Moment.issues_of_delivers {verb : Verb} {d : Descriptor} {moment : Moment}
    (delivered : moment.delivers verb d = true) : moment.issues verb d = true := by
  obtain ⟨key, target, is, same⟩ := delivers_iff.1 delivered
  exact issues_iff.2 ⟨key, target, true, is, same⟩

/-! ## What others do meanwhile -/

/-- What others may do to the desk between two steps of a round: everything, but for the ledger and
the settings.  The tables of the ledger may get another order.  If `still` holds then nobody
reports on modules. -/
structure Desk.Aside (still : Prop) (d e : Desk) : Prop where
  claims : ∀ key, e.ledger.claims.get? key = d.ledger.claims.get? key
  pods : ∀ key, e.ledger.pods.get? key = d.ledger.pods.get? key
  written : ∀ key, e.ledger.written.get? key = d.ledger.written.get? key
  failedListings : e.ledger.failedListings = d.ledger.failedListings
  settings : e.settings = d.settings
  sightings : still → ∀ identity, e.sightings.get? identity = d.sightings.get? identity

/-- Nothing may happen meanwhile. -/
theorem Desk.Aside.refl (still : Prop) (d : Desk) : Desk.Aside still d d :=
  ⟨fun _ => rfl, fun _ => rfl, fun _ => rfl, rfl, rfl, fun _ _ => rfl⟩

/-- What may happen meanwhile may go on. -/
theorem Desk.Aside.trans {still : Prop} {d e f : Desk} (first : Desk.Aside still d e)
    (second : Desk.Aside still e f) : Desk.Aside still d f :=
  ⟨fun key => (second.claims key).trans (first.claims key),
    fun key => (second.pods key).trans (first.pods key),
    fun key => (second.written key).trans (first.written key),
    second.failedListings.trans first.failedListings, second.settings.trans first.settings,
    fun quiet identity => (second.sightings quiet identity).trans (first.sightings quiet identity)⟩

/-- What may happen while nobody reports may happen anyhow. -/
theorem Desk.Aside.anyhow {still : Prop} {d e : Desk} (meanwhile : Desk.Aside still d e) :
    Desk.Aside False d e :=
  { meanwhile with sightings := False.elim }

/-! ## Rounds -/

/-- What the loop over the pods does in one round. -/
inductive Task where
  /-- A pass over all pods. -/
  | pass
  /-- A push of the statuses only. -/
  | push
  deriving DecidableEq, Repr, Inhabited

/-- The work of a round. -/
def Task.activity : Task → Activity Unit
  | pass => reconcile
  | push => pushStatuses

/-- A round: the desk before and after it, and the calls that were made. -/
structure Round where
  task : Task
  before : Desk
  record : List Moment
  after : Desk

/-- The listing that was answered at a moment. -/
def Moment.listing? : Moment → Option (List Pod)
  | ⟨⟨.listPods, some (.ok pods)⟩, _⟩ => some pods
  | _ => none

/-- A call that is neither a command nor a listing that was answered. -/
def Moment.Idle (moment : Moment) : Prop :=
  moment.command? = none ∧ moment.listing? = none

namespace Round

/-- Whether the work of the round can go as recorded. -/
def Goes (still : Prop) (r : Round) : Prop :=
  Dialogue.Course (Desk.Aside still) r.task.activity r.before r.record () r.after

/-- The listing of a round, if there was one that succeeded. -/
def listing? (r : Round) : Option (List Pod) :=
  r.record.findSome? Moment.listing?

/-- The pods that were listed in a round. -/
def listing (r : Round) : List Pod := r.listing?.getD []

/-- The listing of a round is the one that came. -/
theorem listing_eq {r : Round} {pods : List Pod} (listed : r.listing? = some pods) :
    r.listing = pods := by
  rw [listing, listed]
  rfl

/-- A round that asks for no listing has none. -/
theorem listing?_of_idle {r : Round} (idle : ∀ moment ∈ r.record, moment.Idle) :
    r.listing? = none :=
  List.findSome?_eq_none_iff.2 fun moment mem => (idle moment mem).2

/-- The round in which the work of a task is done with prepared answers. -/
def rehearsed (task : Task) (reply : (c : Call) → c.Answer) (before : Desk) : Round :=
  let course := task.activity.rehearse reply before
  ⟨task, before, course.1, course.2.2⟩

/-- A rehearsal goes. -/
theorem goes_rehearsed (still : Prop) (task : Task) (reply : (c : Call) → c.Answer)
    (before : Desk) : (rehearsed task reply before).Goes still :=
  Dialogue.course_rehearse (Desk.Aside.refl still) reply task.activity before

end Round

/-! ## Rehearsed rounds -/

/-- The answers of a cluster that lists the given pods and does all else but write statuses, and of
a broker that acknowledges just some commands. -/
def prepared (listing : List Pod) (acknowledges : Verb → Bool) : (c : Call) → c.Answer
  | .probe _ | .subscribe _ => .ok ()
  | .command verb _ _ => if acknowledges verb then .ok () else .error .disconnected
  | .unsubscribe _ => some (.ok ())
  | .turn | .noting | .disconnect => ()
  | .listPods => some (.ok listing)
  | .reportPod _ _ _ => none
  | .register _ | .reportNode _ | .deletePod _ _ | .deleteNode => some (.ok ())

/-- A pod with a container for each of the given modules. -/
def podOf (name : String) (modules : List String) : Pod where
  spaceName := some "default"
  name := some name
  deletionTime := none
  containers := modules.map fun m => ⟨m, none, []⟩
  startTime := none

/-- The module of a container without image and version. -/
def moduleOf (name : String) : Descriptor := ⟨name, "", ""⟩

/-- A pass that is rehearsed over a listing. -/
def passOver (listing : List Pod) (acknowledges : Verb → Bool) (before : Desk) : Round :=
  .rehearsed .pass (prepared listing acknowledges) before

/-- The passes that are rehearsed over listings one after the other. -/
def passesOver (before : Desk) : List (List Pod × (Verb → Bool)) → List Round
  | [] => []
  | (listing, acknowledges) :: rest =>
    let r := passOver listing acknowledges before
    r :: passesOver r.after rest

/-- Whether no two pods have the same key. -/
def Distinct (listing : List Pod) : Prop := (listing.map Pod.key).Nodup

instance (listing : List Pod) : Decidable (Distinct listing) :=
  inferInstanceAs (Decidable (List.Nodup _))

/-- Whether rounds can follow one another from a desk on. -/
def Run (first : Desk) : List Round → Prop
  | [] => True
  | r :: rest => Desk.Aside False first r.before ∧ r.Goes False ∧ Run r.after rest

/-- The desk after some rounds. -/
def lastDesk (first : Desk) : List Round → Desk
  | [] => first
  | r :: rest => lastDesk r.after rest

/-- All calls of some rounds. -/
def history (rounds : List Round) : List Moment := rounds.flatMap Round.record

/-- The history of some rounds is followed by that of the later ones. -/
@[simp]
theorem history_append (early late : List Round) :
    history (early ++ late) = history early ++ history late :=
  List.flatMap_append

/-- The history begins with the record of the first round. -/
@[simp]
theorem history_cons (r : Round) (rest : List Round) :
    history (r :: rest) = r.record ++ history rest :=
  List.flatMap_cons

/-- Without rounds there is no history. -/
@[simp]
theorem history_nil : history [] = [] := rfl

/-- An item of two lists in a row stands in the second one or in the first one. -/
theorem append_eq_append_cons {α : Type} {as bs xs zs : List α} {x : α}
    (h : as ++ bs = xs ++ x :: zs) :
    (∃ ys, xs = as ++ ys ∧ bs = ys ++ x :: zs) ∨ ∃ ys, as = xs ++ x :: ys ∧ zs = ys ++ bs := by
  rcases List.append_eq_append_iff.1 h with ⟨ys, whole, cut⟩ | ⟨ys, whole, cut⟩
  · exact .inl ⟨ys, whole, cut⟩
  · cases ys with
    | nil => exact .inl ⟨[], by simpa using whole.symm, by simpa using cut.symm⟩
    | cons head ys =>
      rw [List.cons_append, List.cons_eq_cons] at cut
      obtain ⟨rfl, rfl⟩ := cut
      exact .inr ⟨ys, whole, rfl⟩

/-- A cut of a history is a cut of the record of one of the rounds. -/
theorem history_cut {rounds : List Round} {xs zs : List Moment} {moment : Moment}
    (h : history rounds = xs ++ moment :: zs) :
    ∃ early r late pre post, rounds = early ++ r :: late ∧ r.record = pre ++ moment :: post ∧
      xs = history early ++ pre ∧ zs = post ++ history late := by
  induction rounds generalizing xs with
  | nil => simp at h
  | cons r rest ih =>
    rw [history_cons] at h
    rcases append_eq_append_cons h with ⟨ys, rfl, cut⟩ | ⟨ys, record, rfl⟩
    · obtain ⟨early, q, late, pre, post, rfl, record, rfl, rfl⟩ := ih cut
      exact ⟨r :: early, q, late, pre, post, rfl, record, by simp, rfl⟩
    · exact ⟨[], r, rest, xs, ys, rfl, record, rfl, rfl⟩

/-- The last desk of later rounds is the last desk of all. -/
theorem lastDesk_append (first : Desk) (early late : List Round) :
    lastDesk first (early ++ late) = lastDesk (lastDesk first early) late := by
  induction early generalizing first with
  | nil => rfl
  | cons r early ih => exact ih r.after

/-- The last desk is the one after the last round. -/
@[simp]
theorem lastDesk_concat (first : Desk) (rounds : List Round) (r : Round) :
    lastDesk first (rounds ++ [r]) = r.after := by
  rw [lastDesk_append]
  rfl

/-- A run is a run up to any point and from there on. -/
theorem run_append {first : Desk} {early late : List Round} :
    Run first (early ++ late) ↔ Run first early ∧ Run (lastDesk first early) late := by
  induction early generalizing first with
  | nil => simp [Run, lastDesk]
  | cons r early ih => simp [Run, lastDesk, ih, and_assoc]

/-- The passes over some listings are a run. -/
theorem run_passesOver (first : Desk) (plan : List (List Pod × (Verb → Bool))) :
    Run first (passesOver first plan) := by
  induction plan generalizing first with
  | nil => trivial
  | cons entry rest ih =>
    exact ⟨.refl False first, Round.goes_rehearsed False _ _ _, ih _⟩

/-- Every round of a run goes. -/
theorem Run.goes {first : Desk} {rounds : List Round} (run : Run first rounds) :
    ∀ r ∈ rounds, r.Goes False := by
  induction rounds generalizing first with
  | nil => simp
  | cons r rest ih =>
    obtain ⟨-, goes, later⟩ := run
    rw [List.forall_mem_cons]
    exact ⟨goes, ih later⟩

/-- What others cannot change and every round preserves holds along a whole run. -/
theorem Run.invariant {P : Desk → Prop} {first : Desk} {rounds : List Round}
    (run : Run first rounds) (begun : P first)
    (others : ∀ s t, Desk.Aside False s t → P s → P t)
    (step : ∀ r ∈ rounds, r.Goes False → P r.before → P r.after) : P (lastDesk first rounds) := by
  induction rounds generalizing first with
  | nil => exact begun
  | cons r rest ih =>
    obtain ⟨aside, goes, later⟩ := run
    rw [List.forall_mem_cons] at step
    exact ih later (step.1 goes (others _ _ aside begun)) step.2

end VirtualNode.Controller
