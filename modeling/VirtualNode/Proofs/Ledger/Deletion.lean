import VirtualNode.Proofs.Ending.Errands
import VirtualNode.Proofs.Ledger.Passes
import VirtualNode.Proofs.Statuses.Returns

/-!
# Pods that are being deleted

A pass removes a pod that is being deleted from the cluster when the ledger shows no claims of the
pod any more.  It looks at nothing else: not at the modules of the pod, and not at what the base
reports.  So whether the modules were uninstalled before depends on whether the controller ever had
the claims.

If a pass has listed the pod while it was alive then it has claimed the modules, unless an install
has failed, and each claim ends with an uninstall, or goes over to another pod, or is surrendered.
If no pass has, which is so when the controller was started later, then the pod is removed at once
and nothing is uninstalled on its behalf.

Main statement: `deleted_after_modules`, for every run of rounds from an empty ledger on.
-/

set_option autoImplicit false

namespace VirtualNode.Controller

open Biz (Descriptor)
open Dialogue (Course)
open Dialogue.Course (bind_iff state_iff update_iff done_iff)
open Kube (Pod)

variable {still : Prop} {listing : List Pod} {start b c : Books} {f s t : Desk} {pod : Pod}
  {record calls pre post : List Moment} {moment : Moment} {key : String} {d : Descriptor}

/-! ## Calls that remove pods -/

/-- Whether a call removes a pod from the cluster. -/
def Call.Removes (call : Call) : Prop :=
  ∃ space name, call = .deletePod space name

/-- Whether the pod is removed from the cluster at a moment. -/
def Moment.Removes (pod : Pod) (moment : Moment) : Prop :=
  moment.question = .deletePod pod.addressSpace pod.addressName

instance (pod : Pod) (moment : Moment) : Decidable (moment.Removes pod) :=
  inferInstanceAs (Decidable (moment.question = _))

/-- An activity that makes no call to delete a pod removes none. -/
theorem not_removes_of_within {α : Type} {task : Activity α} {a : α} {R : Desk → Desk → Prop}
    {Q : Call → Prop} (course : Course (Desk.Aside still) task s calls a t)
    (within : task.Within R Q s) (other : ∀ space name, ¬ Q (.deletePod space name)) :
    ∀ moment ∈ calls, ¬ moment.question.Removes := by
  rintro moment mem ⟨space, name, is⟩
  have kept := course.within within (P := fun _ => True) (fun _ _ _ _ => trivial)
    (fun _ _ _ _ => trivial) trivial
  have asked := (kept.2 moment mem).1
  rw [is] at asked
  exact other space name asked

/-! ## Visits -/

/-- A list with one element has it in front of nothing and behind nothing. -/
theorem append_cons_eq_singleton {α : Type} {xs ys : List α} {x y : α} (h : xs ++ x :: ys = [y]) :
    xs = [] ∧ x = y ∧ ys = [] := by
  cases xs with
  | nil => simpa using h
  | cons head tail => simp at h

/-- A visit of the pod has come to its removal, after the calls of `calls`. -/
structure Departs (still : Prop) (listing : List Pod) (start : Books) (pod : Pod) (s : Desk)
    (calls : List Moment) (moment : Moment) : Prop where
  visited : Visited still listing start pod.key pod.desired s calls moment.state
  terminating : pod.isTerminating = true
  unclaimed : moment.state.ledger.claimsOf pod.key = []
  removes : moment.Removes pod

/-- A pod that is being deleted desires nothing. -/
theorem Pod.desired_of_terminating (terminating : pod.isTerminating = true) : pod.desired = [] := by
  simp [Pod.desired, terminating]

/-- A visit removes no pod but the one that is visited, and this one only without claims. -/
theorem visitPod_removes {a : Unit}
    (course : Course (Desk.Aside still) (visitPod listing pod) s calls a t)
    (before : Visitable listing start pod.key pod.desired s) (cut : calls = pre ++ moment :: post)
    (removes : moment.question.Removes) : Departs still listing start pod s pre moment := by
  have mem : moment ∈ calls := by simp [cut]
  rw [visitPod] at course
  cases terminating : pod.isTerminating with
  | false =>
    rw [if_neg (by simp [terminating])] at course
    have never := not_removes_of_within course (syncPod_orders listing pod) fun _ _ => id
    exact absurd removes (never moment mem)
  | true =>
    rw [if_pos terminating] at course
    rw [Pod.desired_of_terminating terminating] at before
    obtain ⟨s₁, early, gone, s₂, late, begun, released, rfl, -, last⟩ := dismissPod_stages course
    obtain ⟨visited, unclaimed⟩ := releaseAll_course released (before.keeps begun)
    have never := not_removes_of_within released (releaseAll_orders listing pod.key) fun _ _ => id
    cases gone with
    | false =>
      obtain rfl := last
      rw [List.append_nil] at mem
      exact absurd removes (never moment mem)
    | true =>
      obtain ⟨answer, rfl⟩ := last
      rcases append_eq_append_cons cut with ⟨ys, rfl, last⟩ | ⟨ys, rfl, -⟩
      · obtain ⟨rfl, rfl, -⟩ := append_cons_eq_singleton last.symm
        rw [List.append_nil]
        rw [← Pod.desired_of_terminating terminating] at visited
        have whole : Visited still listing start pod.key pod.desired s (early ++ []) s₂ :=
          visited.surround begun (.refl still s₂) (by simp)
        rw [List.append_nil] at whole
        exact ⟨whole, terminating, unclaimed.1 rfl, rfl⟩
      · exact absurd removes (never moment (by simp))

/-- A pod that is being deleted and has no claims is removed. -/
theorem visitPod_removed {a : Unit}
    (course : Course (Desk.Aside still) (visitPod listing pod) s calls a t)
    (before : Visitable listing start pod.key pod.desired s)
    (terminating : pod.isTerminating = true) (none : s.ledger.claimsOf pod.key = []) :
    ∃ moment ∈ calls, moment.Removes pod := by
  rw [visitPod, if_pos terminating] at course
  rw [Pod.desired_of_terminating terminating] at before
  obtain ⟨s₁, early, gone, s₂, late, begun, released, rfl, -, last⟩ := dismissPod_stages course
  obtain ⟨visited, unclaimed⟩ := releaseAll_course released (before.keeps begun)
  have empty : s₂.ledger.claimsOf pod.key = [] := by
    refine List.eq_nil_iff_forall_not_mem.2 fun d mem => ?_
    have old := visited.fewer pod.key d mem
    rw [begun.claimsOf, none] at old
    exact List.not_mem_nil old
  obtain rfl := unclaimed.2 empty
  obtain ⟨answer, rfl⟩ := last
  exact ⟨⟨⟨.deletePod pod.addressSpace pod.addressName, answer⟩, s₂⟩, by simp, rfl⟩

/-! ## The visits of a pass -/

/-- A pass has come to the removal of a pod of its listing, after the calls of `record`. -/
structure Deletion (still : Prop) (listing : List Pod) (f : Desk) (pod : Pod)
    (record : List Moment) (moment : Moment) : Prop where
  listed : pod ∈ listing
  terminating : pod.isTerminating = true
  removes : moment.Removes pod
  account : Account still listing f.books f.books record moment.state.books
  unclaimed : moment.state.ledger.claimsOf pod.key = []

/-- Whatever is removed in the course of the visits is a listed pod that the pass has come to. -/
theorem visitPods_removes (distinct : Distinct listing) {early rest : List Pod}
    {live live' : Table String Pod}
    (course : Course (Desk.Aside still) (visitPods listing rest live) s calls live' t)
    (split : listing = early ++ rest) (surveyed : Surveyed still listing f early record s)
    (untouched : Untouched f early s) (cut : calls = pre ++ moment :: post)
    (removes : moment.question.Removes) :
    ∃ pod, Deletion still listing f pod (record ++ pre) moment := by
  induction rest generalizing early s record calls live pre with
  | nil =>
    obtain ⟨rfl, -⟩ := done_iff.1 course
    simp at cut
  | cons pod rest ih =>
    obtain ⟨first, s', late, table, rfl, turn, course, -⟩ := visitPods_cons course
    obtain ⟨-, surveyed', untouched'⟩ := visitPod_next distinct split surveyed untouched turn
    rcases append_eq_append_cons cut with ⟨ys, rfl, later⟩ | ⟨ys, now, -⟩
    · rw [← List.append_assoc]
      exact ih course (by simp [split]) surveyed' untouched' later
    · have before := surveyed.visitable untouched distinct split
      have departs := visitPod_removes turn before now removes
      exact ⟨pod, by simp [split], departs.terminating, departs.removes,
        surveyed.account.trans departs.visited.account, departs.unclaimed⟩

/-- A listed pod that is being deleted and holds nothing is removed in the course of the visits. -/
theorem visitPods_removed (distinct : Distinct listing) {early rest : List Pod}
    {live live' : Table String Pod}
    (course : Course (Desk.Aside still) (visitPods listing rest live) s calls live' t)
    (split : listing = early ++ rest) (surveyed : Surveyed still listing f early record s)
    (untouched : Untouched f early s) (mem : pod ∈ rest)
    (terminating : pod.isTerminating = true) (none : f.ledger.claimsOf pod.key = []) :
    ∃ moment ∈ calls, moment.Removes pod := by
  induction rest generalizing early s record calls live with
  | nil => exact absurd mem List.not_mem_nil
  | cons head rest ih =>
    obtain ⟨first, s', late, table, rfl, turn, course, -⟩ := visitPods_cons course
    obtain ⟨-, surveyed', untouched'⟩ := visitPod_next distinct split surveyed untouched turn
    rcases List.mem_cons.1 mem with rfl | mem
    · have notMem : pod.key ∉ early.map Pod.key := (split ▸ distinct).key_notMem
      have unclaimed : s.ledger.claimsOf pod.key = [] := by
        rw [← none]
        simp [Ledger.claimsOf, untouched pod.key notMem]
      have before := surveyed.visitable untouched distinct split
      obtain ⟨moment, called, removes⟩ := visitPod_removed turn before terminating unclaimed
      exact ⟨moment, List.mem_append_left late called, removes⟩
    · obtain ⟨moment, called, removes⟩ := ih course (by simp [split]) surveyed' untouched' mem
      exact ⟨moment, List.mem_append_right first called, removes⟩

/-! ## Passes -/

/-- A pass over a listing removes pods only while it visits the listed ones. -/
theorem followListing_stages {a : Unit}
    (course : Course (Desk.Aside still) (followListing listing) s calls a t) :
    ∃ first live s' late, calls = first ++ late ∧
      Course (Desk.Aside still) (visitPods listing listing Table.empty) s first live s' ∧
      ∀ moment ∈ late, ¬ moment.question.Removes := by
  obtain ⟨first, live, s₁, late, rfl, visited, course⟩ := bind_iff.1 course
  refine ⟨first, live, s₁, late, rfl, visited, ?_⟩
  simp only [Activity.desk, Activity.change, Dialogue.bind_eq, bind_iff, state_iff,
    update_iff] at course
  obtain ⟨_, s₂, _, _, rfl, ⟨rfl, -, rfl⟩, second, _, s₃, _, rfl, released, _, _, s₄, third, rfl,
    ⟨rfl, -⟩, pushed⟩ := course
  have never := not_removes_of_within released (releaseVanished_orders listing _) fun _ _ => id
  have never' := not_removes_of_within pushed pushStatuses_within fun _ _ => id
  simpa [or_imp, forall_and] using And.intro never never'

/-- A round removes no pods, or it visits those of its listing. -/
theorem Round.Goes.stages {r : Round} (goes : r.Goes still) :
    (r.listing? = none ∧ ∀ moment ∈ r.record, ¬ moment.question.Removes) ∨
      ∃ early first late live s t, r.record = early ++ first ++ late ∧
        (∀ moment ∈ early, moment.command? = none) ∧
        (∀ moment ∈ early ++ late, ¬ moment.question.Removes) ∧ Desk.Keeps still r.before s ∧
        Course (Desk.Aside still) (visitPods r.listing r.listing Table.empty) s first live t := by
  obtain ⟨task, before, record, after⟩ := r
  cases task with
  | push =>
    have never := not_removes_of_within goes pushStatuses_within fun _ _ => id
    exact .inl ⟨listing?_of_idle (pushStatuses_course goes).1, never⟩
  | pass =>
    obtain ⟨s₀, early, s₁, answer, s₂, late, m₀, subscribed, rfl, m₁, outcome⟩ :=
      reconcile_stages goes
    obtain ⟨idle, keeps⟩ := ensureSubscribed_course subscribed
    have never := not_removes_of_within subscribed ensureSubscribed_subscribes fun _ _ => id
    have lists : ¬ (Call.listPods).Removes := by
      rintro ⟨_, _, ⟨⟩⟩
    rcases outcome with ⟨unlisted, rfl, -⟩ | ⟨listing, s₃, s₄, rfl, followed, -⟩
    · refine .inl ⟨?_, ?_⟩
      · exact (findSome?_listing idle (.inl rfl)).trans unlisted
      · rw [List.forall_mem_append, List.forall_mem_singleton]
        exact ⟨never, lists⟩
    · obtain ⟨first, live, t, late, rfl, visited, never'⟩ := followListing_stages followed
      let lists_them : Moment := ⟨⟨.listPods, some (.ok listing)⟩, s₁⟩
      have listed : Round.listing? ⟨.pass, before, early ++ lists_them :: (first ++ late), after⟩ =
          some listing := findSome?_listing idle (.inr rfl)
      rw [Round.listing_eq listed]
      refine .inr ⟨early ++ [lists_them], first, late, live, _, t,
        by simp [lists_them], ?_, ?_, ?_, visited⟩
      · rw [List.forall_mem_append, List.forall_mem_singleton]
        exact ⟨fun moment mem => (idle moment mem).1, rfl⟩
      · rw [List.forall_mem_append, List.forall_mem_append, List.forall_mem_singleton]
        exact ⟨⟨never, lists⟩, never'⟩
      · exact ((Desk.Keeps.of_aside m₀).trans keeps).trans ((Desk.Keeps.of_aside m₁).trans
          (.of_eq rfl rfl))

/-- Whoever is removed in a round is listed as being deleted, and has no claims at that time. -/
theorem Round.Goes.deletion {r : Round} (goes : r.Goes still) (distinct : Distinct r.listing)
    (cut : r.record = pre ++ moment :: post) (removes : moment.question.Removes) :
    ∃ pod, Deletion still r.listing r.before pod pre moment := by
  have mem : moment ∈ r.record := by simp [cut]
  rcases goes.stages with ⟨-, never⟩ | ⟨early, first, late, live, s, t, whole, idle, never, keeps,
    course⟩
  · exact absurd removes (never moment mem)
  rw [List.forall_mem_append] at never
  have surveyed := (Surveyed.begin still r.listing r.before).idle keeps idle
  have untouched : Untouched r.before [] s := Untouched.keeps (fun _ _ => rfl) keeps
  rw [whole, List.append_assoc] at cut
  rcases append_eq_append_cons cut with ⟨ys, rfl, within⟩ | ⟨ys, rfl, -⟩
  · rcases append_eq_append_cons within with ⟨zs, -, rfl⟩ | ⟨zs, rfl, -⟩
    · exact absurd removes (never.2 moment (by simp))
    · exact visitPods_removes distinct course rfl surveyed untouched rfl removes
  · exact absurd removes (never.1 moment (by simp))

/-- A pod that is listed as being deleted and has no claims is removed, whatever is reported of its
modules. -/
theorem Round.Goes.removed {r : Round} (goes : r.Goes still) (distinct : Distinct r.listing)
    (mem : pod ∈ r.listing) (terminating : pod.isTerminating = true)
    (none : r.before.ledger.claimsOf pod.key = []) : ∃ moment ∈ r.record, moment.Removes pod := by
  rcases goes.stages with ⟨unlisted, -⟩ | ⟨early, first, late, live, s, t, whole, idle, -, keeps,
    course⟩
  · simp [Round.listing, unlisted] at mem
  have surveyed := (Surveyed.begin still r.listing r.before).idle keeps idle
  have untouched : Untouched r.before [] s := Untouched.keeps (fun _ _ => rfl) keeps
  obtain ⟨moment, called, removes⟩ :=
    visitPods_removed distinct course rfl surveyed untouched mem terminating none
  exact ⟨moment, by simp [whole, called], removes⟩

/-! ## Pods without claims -/

/-- An entry without a call gives no claims to a key for which nothing is desired. -/
theorem Tacit.unclaimed (entry : Tacit still listing start b c)
    (undesired : ∀ d, ¬ WantedBy listing key d) (none : b.claims key = []) :
    c.claims key = [] := by
  cases entry with
  | news => exact none
  | yield other d left right split =>
    have differs : key ≠ other := by
      rintro rfl
      simp [split] at none
    rwa [Books.claims_withClaims_of_ne differs]
  | join other d wanted =>
    have differs : key ≠ other := by
      rintro rfl
      exact undesired d wanted
    rwa [Books.claims_withClaims_of_ne differs]

/-- Nor does an entry that goes with a call, and such a call is no command for the key. -/
theorem Noted.unclaimed (entry : Noted listing b moment c)
    (undesired : ∀ d, ¬ WantedBy listing key d) (none : b.claims key = []) :
    c.claims key = [] ∧ ∀ command, moment.command? = some command → command.key ≠ key := by
  cases entry with
  | install other d delivered is wanted =>
    have differs : key ≠ other := by
      rintro rfl
      exact undesired d wanted
    refine ⟨?_, by simpa [is] using differs.symm⟩
    cases delivered with
    | false => exact none
    | true => simpa [Books.claims_withClaims_of_ne differs] using none
  | uninstall other d left right delivered is split =>
    have differs : key ≠ other := by
      rintro rfl
      simp [split] at none
    refine ⟨?_, by simpa [is] using differs.symm⟩
    cases delivered with
    | false => exact none
    | true => simpa [Books.forget, Books.claims_withClaims_of_ne differs] using none
  | other is => exact ⟨none, by simp [is]⟩

/-- Without claims and wishes there are no commands on behalf of a pod. -/
theorem Account.unclaimed (account : Account still listing start b record c)
    (undesired : ∀ d, ¬ WantedBy listing key d) (none : b.claims key = []) :
    c.claims key = [] ∧
      ∀ moment ∈ record, ∀ command, moment.command? = some command → command.key ≠ key := by
  induction account with
  | refl => exact ⟨none, by simp⟩
  | tacit entry _ ih => exact ih (entry.unclaimed undesired none)
  | noted entry _ ih =>
    obtain ⟨none', here⟩ := entry.unclaimed undesired none
    obtain ⟨last, later⟩ := ih none'
    exact ⟨last, List.forall_mem_cons.2 ⟨here, later⟩⟩

/-- While a key is gone from all listings it gets no claims. -/
theorem Run.unclaimed {first : Desk} {rounds : List Round} (run : Run first rounds)
    (distinct : ∀ r ∈ rounds, Distinct r.listing) (gone : ∀ r ∈ rounds, Gone r.listing key)
    (none : first.ledger.claimsOf key = []) :
    (lastDesk first rounds).ledger.claimsOf key = [] := by
  refine run.invariant (P := fun s => s.ledger.claimsOf key = []) none ?_ ?_
  · intro s t aside none
    rwa [(Desk.Keeps.of_aside aside).claimsOf]
  · intro r mem goes none
    exact ((goes.account (distinct r mem)).unclaimed (gone r mem).not_wantedBy none).1

/-- A module that is held stays held through rounds that neither surrender nor uninstall it. -/
theorem Run.held {first : Desk} {rounds : List Round} (run : Run first rounds)
    (distinct : ∀ r ∈ rounds, Distinct r.listing)
    (kept : ∀ r ∈ rounds, ¬ Surrenders r.listing r.before.books d)
    (present : ∀ moment ∈ history rounds, moment.delivers .uninstall d = false)
    (held : first.books.Held d) : (lastDesk first rounds).books.Held d := by
  refine run.invariant (P := fun s => s.books.Held d) held ?_ ?_
  · intro s t aside held
    exact (Desk.Keeps.of_aside aside).held.2 held
  · intro r mem goes held
    refine (goes.account (distinct r mem)).held (kept r mem) (fun moment called => ?_) held
    exact present moment (List.mem_flatMap_of_mem mem called)

/-- What a pod wanted when it was listed is still held, unless it was uninstalled since then, its
install failed, or some round has surrendered it. -/
theorem Run.held_of_wanted {first : Desk} {early mid : List Round} {q : Round}
    (run : Run first (early ++ q :: mid)) (distinct : ∀ r ∈ q :: mid, Distinct r.listing)
    (wanted : WantedBy q.listing key d) :
    (lastDesk q.after mid).books.Held d ∨ (∃ u ∈ history mid, u.delivers .uninstall d = true) ∨
      Failed .install d q.record ∨ ∃ x ∈ mid, Surrenders x.listing x.before.books d := by
  rw [run_append] at run
  obtain ⟨-, -, went, later⟩ := run
  rw [List.forall_mem_cons] at distinct
  by_contra unexplained
  simp only [not_or, not_exists, not_and, Bool.not_eq_true] at unexplained
  obtain ⟨unheld, never, installed, kept⟩ := unexplained
  have passed := went.passed_of_wanted distinct.1 wanted.wanted
  have claimed : q.after.books.Held d :=
    ⟨key, (passed.gained key d wanted).resolve_right installed⟩
  exact unheld (later.held distinct.2 kept never claimed)

/-! ## Why a pod could be removed -/

/-- Another pod wants a module of the same identity, or holds the module. -/
def UsedElsewhere (listing : List Pod) (s : Desk) (key : String) (d : Descriptor) : Prop :=
  wantedElsewhere listing key d = true ∨ s.books.HeldElsewhere key d

instance (listing : List Pod) (s : Desk) (key : String) (d : Descriptor) :
    Decidable (UsedElsewhere listing s key d) :=
  decidable_of_iff (wantedElsewhere listing key d = true ∨ s.ledger.heldElsewhere key d = true)
    (or_congr_right Ledger.heldElsewhere_iff)

/-- What a pass surrenders is wanted by a pod that is not being deleted. -/
theorem Surrenders.wantedElsewhere (surrenders : Surrenders listing start d)
    (distinct : Distinct listing) (mem : pod ∈ listing) (terminating : pod.isTerminating = true) :
    wantedElsewhere listing pod.key d = true := by
  have other : ∀ taker ∈ listing, taker.isTerminating = false → taker.key ≠ pod.key := by
    intro taker here alive same
    rw [distinct.eq_of_key here mem same, terminating] at alive
    cases alive
  rw [wantedElsewhere_iff]
  rcases surrenders with ⟨-, ⟨taker, here, alive, e, he, same⟩, -⟩ | ⟨-, _, -, taker, here, alive, -,
    wants⟩
  · exact ⟨taker, here, alive, other taker here alive, e, he, Descriptor.identity_eq_of_same same⟩
  · exact ⟨taker, here, alive, other taker here alive, wants⟩

/-- If a pod is removed while its module was not uninstalled, the module is used elsewhere. -/
theorem Deletion.usedElsewhere (deletion : Deletion still listing f pod record moment)
    (distinct : Distinct listing) (held : f.books.Held d)
    (present : ∀ u ∈ record, u.delivers .uninstall d = false) :
    UsedElsewhere listing moment.state pod.key d := by
  by_cases surrenders : Surrenders listing f.books d
  · exact .inl (surrenders.wantedElsewhere distinct deletion.listed deletion.terminating)
  · obtain ⟨key, holds⟩ := deletion.account.held surrenders present held
    refine .inr ⟨key, ?_, holds⟩
    rintro rfl
    obtain ⟨e, mem, -⟩ := holds
    have none := deletion.unclaimed
    simp [Desk.books, none] at mem

/-- Take any run of rounds from an empty ledger on, over listings with distinct keys, and a pod that
is listed as being deleted in its last round.

If the pod is removed then it has no claims at that time.  And for every module that the pod wanted
when it was listed before, then another pod wants or holds the module, or an uninstall of it was
acknowledged since then, or its install had failed, or some round since then has surrendered it.

If the pod was never listed alive then it is removed, whatever is reported of its modules, and no
command is published on its behalf. -/
theorem deleted_after_modules {first : Desk} {rounds : List Round} {r : Round}
    (begun : first.ledger = .empty) (run : Run first (rounds ++ [r]))
    (distinct : ∀ q ∈ rounds ++ [r], Distinct q.listing)
    (named : ∀ other ∈ r.listing, other.spaceName.isSome = true) (mem : pod ∈ r.listing)
    (terminating : pod.isTerminating = true) :
    (∀ pre moment post, r.record = pre ++ moment :: post → moment.Removes pod →
      moment.state.ledger.claimsOf pod.key = [] ∧
        ∀ early q mid d, rounds = early ++ q :: mid → WantedBy q.listing pod.key d →
          UsedElsewhere r.listing moment.state pod.key d ∨
            (∃ u ∈ history mid ++ pre, u.delivers .uninstall d = true) ∨
            Failed .install d q.record ∨ ∃ x ∈ mid, Surrenders x.listing x.before.books d) ∧
      ((∀ q ∈ rounds, Gone q.listing pod.key) →
        (∃ moment ∈ r.record, moment.Removes pod) ∧
          ∀ moment ∈ r.record, ∀ command, moment.command? = some command →
            command.key ≠ pod.key) := by
  rw [run_append] at run
  obtain ⟨run, meanwhile, goes, -⟩ := run
  rw [List.forall_mem_append, List.forall_mem_singleton] at distinct
  obtain ⟨distinct, unique⟩ := distinct
  constructor
  · intro pre moment post cut removes
    obtain ⟨other, deletion⟩ := goes.deletion unique cut ⟨_, _, removes⟩
    have same : other.key = pod.key := by
      have address : Call.deletePod other.addressSpace other.addressName =
          .deletePod pod.addressSpace pod.addressName := deletion.removes.symm.trans removes
      rw [Call.deletePod.injEq] at address
      rw [key_eq_address (named other deletion.listed), key_eq_address (named pod mem), address.1,
        address.2]
    obtain rfl := unique.eq_of_key deletion.listed mem same
    refine ⟨deletion.unclaimed, ?_⟩
    rintro early q mid d rfl wanted
    rw [lastDesk_append] at meanwhile
    rcases run.held_of_wanted (fun r mem => distinct r (by simp [mem])) wanted with
      held | ⟨u, called, uninstalled⟩ | unexplained
    · have held' : r.before.books.Held d := (Desk.Keeps.of_aside meanwhile).held.2 held
      by_cases uninstalled : ∃ u ∈ pre, u.delivers .uninstall d = true
      · obtain ⟨u, called, uninstalled⟩ := uninstalled
        exact .inr (.inl ⟨u, List.mem_append_right _ called, uninstalled⟩)
      · simp only [not_exists, not_and, Bool.not_eq_true] at uninstalled
        exact .inl (deletion.usedElsewhere unique held' uninstalled)
    · exact .inr (.inl ⟨u, List.mem_append_left pre called, uninstalled⟩)
    · exact .inr (.inr unexplained)
  · intro gone
    have none : first.ledger.claimsOf pod.key = [] := by
      rw [begun]
      rfl
    have none' : r.before.ledger.claimsOf pod.key = [] := by
      rw [(Desk.Keeps.of_aside meanwhile).claimsOf]
      exact run.unclaimed distinct gone none
    have undesired : ∀ d, ¬ WantedBy r.listing pod.key d := by
      rintro d ⟨other, here, same, alive, -⟩
      rw [unique.eq_of_key here mem same, terminating] at alive
      cases alive
    exact ⟨goes.removed unique mem terminating none',
      ((goes.account unique).unclaimed undesired none').2⟩

/-- A pod that is being deleted. -/
def doomedPod (name : String) (modules : List String) : Pod :=
  { podOf name modules with deletionTime := some default }

/-- A desk at which a module was reported to be active, and nothing has happened besides. -/
def reportedDesk (name : String) : Desk :=
  let fresh := Desk.fresh default default
  { fresh with
    sightings := (fresh.sightings.apply ⟨name, "", .activated, "", ""⟩ default).1 }

/-- A pod with a module is listed, and then it is being deleted. -/
def parting : List Round :=
  passesOver (Desk.fresh default default)
    [([podOf "p" ["m"]], fun _ => true), ([doomedPod "p" ["m"]], fun _ => true)]

/-- The passes over the parting pods are a run. -/
theorem run_parting : Run (Desk.fresh default default) ([parting[0]] ++ [parting[1]]) := by
  have run : Run (Desk.fresh default default) parting := run_passesOver _ _
  exact run

/-- A pod is being deleted when it is listed first, and its module is reported to be active. -/
def latecomer : Round :=
  passOver [doomedPod "p" ["m"]] (fun _ => true) (reportedDesk "m")

/-- The pass over the latecomer is a run. -/
theorem run_latecomer : Run (reportedDesk "m") ([] ++ [latecomer]) :=
  ⟨.refl False _, Round.goes_rehearsed False _ _ _, trivial⟩

/-- A pod that was listed alive is removed after its module was uninstalled.  A pod that was not is
removed while its module is reported to be active, and no command is published. -/
theorem deleted_after_modules_claimed :
    (parting[1].record[2].Removes (doomedPod "p" ["m"]) ∧
        ∃ u ∈ parting[1].record.take 2, u.delivers .uninstall (moduleOf "m") = true) ∧
      (∃ moment ∈ latecomer.record, moment.Removes (doomedPod "p" ["m"])) ∧
        ∀ moment ∈ latecomer.record, ∀ command, Moment.command? moment = some command →
          command.key ≠ "default/p" := by
  have terminating : (doomedPod "p" ["m"]).isTerminating = true := rfl
  refine ⟨⟨by decide, ?_⟩, ?_⟩
  · have cut : parting[1].record = parting[1].record.take 2 ++ parting[1].record[2] ::
        parting[1].record.drop 3 := rfl
    have wanted : WantedBy parting[0].listing "default/p" (moduleOf "m") :=
      ⟨podOf "p" ["m"], by decide, by decide, by decide⟩
    have said := deleted_after_modules rfl run_parting (by decide) (by decide) (by decide) terminating
    obtain ⟨-, why⟩ := said.1 _ _ _ cut (by decide)
    rcases why [] parting[0] [] (moduleOf "m") rfl wanted with used | uninstalled | failed | surrendered
    · exact absurd used (by decide)
    · exact uninstalled
    · exact absurd failed.fails (by decide)
    · simp at surrendered
  · have said := deleted_after_modules rfl run_latecomer (by decide) (by decide) (by decide)
      terminating
    exact said.2 (by simp)

/-- The rounds from the last one on that lists a pod of the key which is not being deleted, or all
rounds if there is none. -/
def sinceLive (key : String) : List Round → List Round
  | [] => []
  | r :: rest =>
    if ∃ q ∈ rest, ¬ Gone q.listing key then sinceLive key rest else r :: rest

/-- So it is not true that from an empty ledger on a pod is removed only after each of its modules
that is reported has been uninstalled or is used by another pod. -/
theorem exists_left_running :
    ¬ ∀ (first : Desk) (rounds : List Round) (r : Round) (pod : Pod) (pre : List Moment)
      (moment : Moment) (post : List Moment) (d : Descriptor),
      first.ledger = .empty → Run first (rounds ++ [r]) →
      (∀ q ∈ rounds ++ [r], Distinct q.listing) → pod ∈ r.listing → pod.isTerminating = true →
      r.record = pre ++ moment :: post → moment.Removes pod → d ∈ pod.descriptors →
      moment.state.books.Reports d →
      UsedElsewhere r.listing moment.state pod.key d ∨
        ∃ u ∈ history (sinceLive pod.key rounds) ++ pre, u.delivers .uninstall d = true := by
  intro h
  have cut : latecomer.record = latecomer.record.take 5 ++ latecomer.record[5] ::
      latecomer.record.drop 6 := rfl
  have reported : latecomer.record[5].state.books.Reports (moduleOf "m") :=
    Inbox.alreadyThere_iff.1 (by decide)
  have said := h _ [] latecomer (doomedPod "p" ["m"]) _ _ _ (moduleOf "m") rfl run_latecomer
    (by decide) (by decide) (by decide) cut (by decide) (by decide) reported
  revert said
  decide

end VirtualNode.Controller
