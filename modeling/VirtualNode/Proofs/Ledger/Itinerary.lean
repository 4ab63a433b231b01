import VirtualNode.Proofs.Episodes
import VirtualNode.Proofs.Ledger.Passes

/-!
# From visit to visit

Whether a pod is alive, being deleted or gone, a visit does the same with its claims (`visitKey`);
what differs is what is desired.  A pass over a listing is a tour of visits: one for every pod of
the listing, in its order, and then one for every key that has claims but no pod which is alive.
Between the visits no command is published, and nobody touches the claims.

Main statement: `reconcile_itinerary`, for every listing that is answered.
-/

set_option autoImplicit false

namespace VirtualNode.Controller

open Biz (Descriptor)
open Dialogue (Course IsEpisode Leads Passage)
open Dialogue.Course (bind_iff state_iff update_iff request_iff done_iff)
open Kube (Pod)

variable {still : Prop} {listing : List Pod} {f s t : Desk} {record calls : List Moment} {α β : Type}

/-! ## One visit -/

/-- What a visit does with the claims of a key.  The answer are the modules that are held then. -/
def visitKey (listing : List Pod) (key : String) (desired : List Descriptor) :
    Activity (List Descriptor) := do
  let state ← Activity.desk
  let previous := state.ledger.claimsOf key
  Activity.change (·.updateLedger (·.dropClaims key))
  let held ← releaseUndesired listing key desired previous
  let held ← acquireMissing key held desired
  Activity.change (·.updateLedger (·.setClaims key held))
  return held

/-- A pod that is alive is visited with all its modules being desired. -/
theorem syncPod_eq (listing : List Pod) (pod : Pod) :
    syncPod listing pod = (visitKey listing pod.key pod.descriptors).bind fun _ => .done () := by
  simp only [syncPod, visitKey, Dialogue.bind_eq, Dialogue.pure_eq, Dialogue.bind_assoc,
    Dialogue.bind_done]
  rfl

/-- The claims of other keys are released by a visit with nothing being desired. -/
theorem releaseAll_eq (listing : List Pod) (key : String) :
    releaseAll listing key = (visitKey listing key []).bind fun held => .done held.isEmpty := by
  simp [releaseAll, visitKey, Dialogue.bind_assoc, acquireMissing]

/-- The claims of a key are the same in the books if they are so in the ledger. -/
theorem books_claims_of_get? {key : String}
    (same : t.ledger.claims.get? key = s.ledger.claims.get? key) :
    t.books.claims key = s.books.claims key := by
  simp [Desk.books, Ledger.claimsOf, same]

/-- What touches no claims of a key leaves them as they are. -/
theorem claims_of_tours {task : Activity α} {touched forgotten : List String} {Q : Call → Prop} {a : α}
    (course : Course (Desk.Aside still) task s record a t)
    (within : task.Within (Desk.Tours touched forgotten) Q s) {key : String}
    (untouched : key ∉ touched) :
    t.ledger.claims.get? key = s.ledger.claims.get? key ∧
      ∀ moment ∈ record, moment.state.ledger.claims.get? key = s.ledger.claims.get? key := by
  have kept := course.within within
    (P := fun u => u.ledger.claims.get? key = s.ledger.claims.get? key)
    (fun _ _ aside is => (aside.claims key).trans is)
    (fun _ _ tours is => (tours.claims key untouched).trans is) rfl
  exact ⟨kept.1, fun moment mem => (kept.2 moment mem).2⟩

/-- A visit: what was desired under which key, and how it went. -/
structure Visit where
  key : String
  desired : List Descriptor
  before : Desk
  record : List Moment
  /-- The modules that were held in the end. -/
  held : List Descriptor
  after : Desk

/-- The visit as a passage of the controller's work. -/
def Visit.passage (listing : List Pod) (v : Visit) :
    Passage Call Call.Answer Desk (List Descriptor) :=
  ⟨visitKey listing v.key v.desired, v.before, v.record, v.held, v.after⟩

/-- Whether the visit can go as recorded. -/
def Visit.Goes (still : Prop) (listing : List Pod) (v : Visit) : Prop :=
  (v.passage listing).Goes (Desk.Aside still)

/-- The two stages of a visit: the claims of the key are taken out and swept, and what is missing is
fetched before they are put back. -/
structure Visit.Stages (still : Prop) (listing : List Pod) (v : Visit)
    (sweep fetch : Passage Call Call.Answer Desk (List Descriptor)) : Prop where
  sweeping : sweep.task = releaseUndesired listing v.key v.desired (v.before.ledger.claimsOf v.key)
  fetching : fetch.task = acquireMissing v.key sweep.result v.desired
  first : IsEpisode (Desk.Aside still) sweep (v.passage listing)
  second : IsEpisode (Desk.Aside still) fetch (v.passage listing)
  begun : ∀ other, sweep.before.ledger.claims.get? other =
    if other = v.key then none else v.before.ledger.claims.get? other
  between : sweep.after = fetch.before
  held : fetch.result = v.held
  record : v.record = sweep.record ++ fetch.record
  ended : ∀ other, v.after.ledger.claims.get? other =
    if other = v.key then (if v.held = [] then none else some v.held)
    else v.before.ledger.claims.get? other

/-- Every course of a visit has its two stages. -/
theorem visitKey_stages {key : String} {desired result : List Descriptor}
    (course : Course (Desk.Aside still) (visitKey listing key desired) s record result t) :
    ∃ sweep fetch, Visit.Stages still listing ⟨key, desired, s, record, result, t⟩ sweep fetch := by
  obtain ⟨_, s₀, _, _, rfl, looked, course₁⟩ := bind_iff.1 course
  obtain ⟨rfl, m₀, rfl⟩ := state_iff.1 looked
  obtain ⟨_, _, _, _, rfl, changed, course₂⟩ := bind_iff.1 course₁
  obtain ⟨rfl, s₁, m₁, rfl⟩ := update_iff.1 changed
  obtain ⟨early, held, s₂, _, rfl, released, course₃⟩ := bind_iff.1 course₂
  obtain ⟨late, result, s₃, _, rfl, acquired, course₄⟩ := bind_iff.1 course₃
  obtain ⟨_, _, _, _, rfl, put, ended⟩ := bind_iff.1 course₄
  obtain ⟨rfl, s₄, m₂, rfl⟩ := update_iff.1 put
  obtain ⟨rfl, rfl, rfl⟩ := done_iff.1 ended
  -- from here on the claims of the key are out, until they are put back at the end
  have begun : ∀ other, (s₁.updateLedger (·.dropClaims key)).ledger.claims.get? other =
      if other = key then none else s.ledger.claims.get? other := by
    intro other
    simp [Desk.updateLedger, Ledger.dropClaims, Table.get?_erase, m₁.claims, m₀.claims, eq_comm]
  have kept : ∀ other, s₄.ledger.claims.get? other =
      if other = key then none else s.ledger.claims.get? other := by
    intro other
    have swept := claims_of_tours released (releaseUndesired_within listing key desired _)
      (List.not_mem_nil (a := other))
    have fetched := claims_of_tours acquired (acquireMissing_within key held desired)
      (List.not_mem_nil (a := other))
    exact (m₂.claims other).trans (fetched.1.trans (swept.1.trans (begun other)))
  have previous : s₀.ledger.claimsOf key = s.ledger.claimsOf key :=
    congrFun (Desk.Keeps.of_aside m₀).claimsOf key
  refine ⟨⟨releaseUndesired listing key desired (s₀.ledger.claimsOf key), _, early, held, s₂⟩,
    ⟨_, s₂, late, _, s₃⟩, ?_, rfl, ?_, ?_, begun, rfl, rfl, ?_, ?_⟩
  · rw [previous]
  · exact .bind_right looked (.bind_right changed (.bind_left (.self released) course₃))
  · exact .bind_right looked
      (.bind_right changed (.bind_right released (.bind_left (.self acquired) course₄)))
  · simp
  · intro other
    by_cases is : other = key
    · subst is
      by_cases nothing : result = []
      · simp [Desk.updateLedger, Ledger.get?_setClaims, kept, nothing]
      · simp [Desk.updateLedger, Ledger.get?_setClaims, nothing]
    · simp [Desk.updateLedger, Ledger.get?_setClaims, kept, is, Ne.symm is]

/-- A visit that goes has its two stages. -/
theorem Visit.Goes.stages {v : Visit} (goes : v.Goes still listing) :
    ∃ sweep fetch, v.Stages still listing sweep fetch :=
  visitKey_stages goes

/-! ## Between the visits -/

/-- A stretch without commands that leaves the claims alone all the time. -/
structure Quiet (still : Prop) (s : Desk) (record : List Moment) (t : Desk) : Prop where
  idle : ∀ moment ∈ record, moment.command? = none
  amid : ∀ moment ∈ record, Desk.Keeps still s moment.state
  keeps : Desk.Keeps still s t

namespace Quiet

variable {early late : List Moment} {u : Desk}

/-- A stretch without calls that keeps the claims is quiet. -/
theorem of_keeps (keeps : Desk.Keeps still s t) : Quiet still s [] t :=
  ⟨by simp, by simp, keeps⟩

/-- Nothing at all is quiet. -/
theorem refl (still : Prop) (s : Desk) : Quiet still s [] s := .of_keeps (.refl still s)

/-- A call that is no command is quiet. -/
theorem ask {moment : Moment} (idle : moment.command? = none) (now : moment.state = s)
    (meanwhile : Desk.Aside still s t) : Quiet still s [moment] t := by
  refine ⟨List.forall_mem_singleton.2 idle, List.forall_mem_singleton.2 ?_, .of_aside meanwhile⟩
  rw [now]
  exact .refl still s

/-- Quiet stretches in a row are quiet. -/
theorem trans (first : Quiet still s early t) (second : Quiet still t late u) :
    Quiet still s (early ++ late) u := by
  refine ⟨?_, ?_, first.keeps.trans second.keeps⟩
  · exact List.forall_mem_append.2 ⟨first.idle, second.idle⟩
  · refine List.forall_mem_append.2 ⟨first.amid, fun moment mem => ?_⟩
    exact first.keeps.trans (second.amid moment mem)

/-- An activity that keeps the claims and makes no commands is quiet. -/
theorem of_within {task : Activity α} {R : Desk → Desk → Prop} {Q : Call → Prop} {a : α}
    (course : Course (Desk.Aside still) task s record a t) (within : task.Within R Q s)
    (own : ∀ d e, R d e → Desk.Keeps still d e) (idle : ∀ moment ∈ record, moment.command? = none) :
    Quiet still s record t := by
  have kept := course.within within (P := Desk.Keeps still s)
    (fun _ _ meanwhile so_far => so_far.trans (.of_aside meanwhile))
    (fun d e change so_far => so_far.trans (own d e change)) (.refl still s)
  exact ⟨idle, fun moment mem => (kept.2 moment mem).2, kept.1⟩

end Quiet

/-- The writing of statuses is quiet. -/
theorem pushStatuses_quiet {a : Unit}
    (course : Course (Desk.Aside still) pushStatuses s record a t) : Quiet still s record t := by
  refine .of_within course pushStatuses_within ?_ fun moment mem =>
    ((pushStatuses_course course).1 moment mem).1
  exact fun _ _ pushes => .of_eq pushes.claims pushes.sightings

/-- To see to the subscriptions is quiet. -/
theorem ensureSubscribed_quiet {a : Unit}
    (course : Course (Desk.Aside still) ensureSubscribed s record a t) : Quiet still s record t := by
  refine .of_within course ensureSubscribed_subscribes ?_ fun moment mem =>
    ((ensureSubscribed_course course).1 moment mem).1
  intro d e outlook
  have ledger : e.ledger = d.ledger := congrArg Outlook.ledger outlook
  exact .of_eq (congrArg Ledger.claims ledger) (congrArg Outlook.sightings outlook)

/-- The deletion of a pod is quiet. -/
theorem deletePod_quiet {pod : Pod} {a : Unit}
    (course : Course (Desk.Aside still) (deletePod pod) s record a t) : Quiet still s record t := by
  simp only [deletePod, Activity.call, Dialogue.bind_eq, Dialogue.pure_eq, bind_iff, request_iff,
    done_iff] at course
  obtain ⟨_, answer, s', _, rfl, ⟨rfl, meanwhile⟩, rfl, -, rfl⟩ := course
  exact .ask rfl rfl meanwhile

/-! ## Visits in a row -/

/-- Visits that follow one another, while nothing touches the claims in between. -/
inductive Chain (still : Prop) (listing : List Pod) : Desk → List Visit → Desk → Prop where
  | last {s t : Desk} (keeps : Desk.Keeps still s t) : Chain still listing s [] t
  | next {s t : Desk} {v : Visit} {visits : List Visit} (keeps : Desk.Keeps still s v.before)
      (goes : v.Goes still listing) (rest : Chain still listing v.after visits t) :
      Chain still listing s (v :: visits) t

namespace Chain

variable {visits early late : List Visit} {v : Visit} {u : Desk}

/-- Visits in a row may begin earlier, while the claims are kept. -/
theorem keeps_left (keeps : Desk.Keeps still s t) (chain : Chain still listing t visits u) :
    Chain still listing s visits u := by
  cases chain with
  | last keeps' => exact .last (keeps.trans keeps')
  | next keeps' goes rest => exact .next (keeps.trans keeps') goes rest

/-- Visits in a row may be followed by others. -/
theorem append (first : Chain still listing s early t) (second : Chain still listing t late u) :
    Chain still listing s (early ++ late) u := by
  induction first with
  | last keeps => exact second.keeps_left keeps
  | next keeps goes _ ih => exact .next keeps goes (ih second)

/-- A chain may be cut at any of its visits. -/
theorem cut (chain : Chain still listing s (early ++ v :: late) t) :
    Chain still listing s early v.before ∧ v.Goes still listing ∧
      Chain still listing v.after late t := by
  induction early generalizing s with
  | nil =>
    cases chain with
    | next keeps goes rest => exact ⟨.last keeps, goes, rest⟩
  | cons w early ih =>
    cases chain with
    | next keeps goes rest =>
      obtain ⟨before, went, after⟩ := ih rest
      exact ⟨.next keeps goes before, went, after⟩

end Chain

/-! ## Tours -/

/-- A course that makes the given visits and does nothing with the claims besides. -/
inductive Tour (still : Prop) (listing : List Pod) {α : Type} :
    Activity α → Desk → List Moment → List Visit → α → Desk → Prop where
  | rest {task : Activity α} {s t : Desk} {record : List Moment} {a : α}
      (course : Course (Desk.Aside still) task s record a t) (quiet : Quiet still s record t) :
      Tour still listing task s record [] a t
  | visit {task : Activity α} {s t : Desk} {early late : List Moment} {v : Visit}
      {next : List Descriptor → Activity α} {visits : List Visit} {a : α}
      (leads : Leads (Desk.Aside still) task s early ((visitKey listing v.key v.desired).bind next)
        v.before)
      (quiet : Quiet still s early v.before) (goes : v.Goes still listing)
      (later : Tour still listing (next v.held) v.after late visits a t) :
      Tour still listing task s (early ++ v.record ++ late) (v :: visits) a t

namespace Tour

variable {task : Activity α} {a : α} {visits visits' : List Visit}

/-- A visit alone is a tour. -/
theorem single {v : Visit} (goes : v.Goes still listing) :
    Tour still listing (visitKey listing v.key v.desired) v.before v.record [v] v.held v.after := by
  have leads : Leads (Desk.Aside still) (visitKey listing v.key v.desired) v.before []
      ((visitKey listing v.key v.desired).bind .done) v.before := by
    rw [Dialogue.bind_pure]
    exact .refl _ _
  have whole := Tour.visit leads (.refl still _) goes (.rest (.done _ _) (.refl still _))
  simpa using whole

/-- A tour is a course of its activity. -/
theorem course (tour : Tour still listing task s record visits a t) :
    Course (Desk.Aside still) task s record a t := by
  induction tour with
  | rest course => exact course
  | @visit task s t early late v next visits a leads _ goes _ ih =>
    rw [List.append_assoc]
    exact leads.course (bind_iff.2 ⟨_, _, _, _, rfl, goes, ih⟩)

/-- A tour may follow on a quiet beginning. -/
theorem after_quiet {g : α → Activity β} {early late : List Moment} {s' : Desk} {b : β}
    (course : Course (Desk.Aside still) task s early a s') (quiet : Quiet still s early s')
    (tour : Tour still listing (g a) s' late visits b t) :
    Tour still listing (task.bind g) s (early ++ late) visits b t := by
  cases tour with
  | rest course' quiet' =>
    exact .rest (bind_iff.2 ⟨_, _, _, _, rfl, course, course'⟩) (quiet.trans quiet')
  | visit leads quiet' goes later =>
    have whole := Tour.visit ((course.leads g).trans leads) (quiet.trans quiet') goes later
    simpa [List.append_assoc] using whole

/-- A tour may follow on a tour. -/
theorem bind {g : α → Activity β} {late : List Moment} {s' : Desk} {b : β}
    (first : Tour still listing task s record visits a s')
    (second : Tour still listing (g a) s' late visits' b t) :
    Tour still listing (task.bind g) s (record ++ late) (visits ++ visits') b t := by
  induction first with
  | rest course quiet => exact .after_quiet course quiet second
  | visit leads quiet goes _ ih =>
    have leads' := leads.bind g
    rw [Dialogue.bind_assoc] at leads'
    have whole := Tour.visit leads' quiet goes (ih second)
    simpa [List.append_assoc] using whole

/-- A quiet end may follow on a tour. -/
theorem then_quiet {g : α → Activity β} {late : List Moment} {s' : Desk} {b : β}
    (tour : Tour still listing task s record visits a s')
    (course : Course (Desk.Aside still) (g a) s' late b t) (quiet : Quiet still s' late t) :
    Tour still listing (task.bind g) s (record ++ late) visits b t := by
  have whole := tour.bind (.rest course quiet)
  rwa [List.append_nil] at whole

/-- Every visit of a tour is an episode of it. -/
theorem isEpisode (tour : Tour still listing task s record visits a t) {v : Visit}
    (mem : v ∈ visits) :
    IsEpisode (Desk.Aside still) (v.passage listing) ⟨task, s, record, a, t⟩ := by
  induction tour with
  | rest => simp at mem
  | @visit task s t early late w next visits a leads _ goes later ih =>
    rcases List.mem_cons.1 mem with rfl | mem
    · exact ⟨early, next, late, rfl, leads, goes, later.course⟩
    · -- the visit comes later: this one and all before it are part of the way to it
      obtain ⟨before, left, after, cut, later_leads, went, last⟩ := ih mem
      dsimp only at cut later_leads last
      refine ⟨early ++ (w.record ++ before), left, after, by simp [cut], ?_, went, last⟩
      exact leads.trans ((Course.leads goes next).trans later_leads)

/-- The visits of a tour are visits in a row. -/
theorem chain (tour : Tour still listing task s record visits a t) :
    Chain still listing s visits t := by
  induction tour with
  | rest _ quiet => exact .last quiet.keeps
  | visit _ quiet goes _ ih => exact .next quiet.keeps goes ih

/-- All commands of a tour are published in its visits. -/
theorem commands (tour : Tour still listing task s record visits a t) :
    record.filterMap Moment.command? =
      visits.flatMap fun v => v.record.filterMap Moment.command? := by
  induction tour with
  | rest _ quiet =>
    simpa using quiet.idle
  | @visit _ _ _ early late v _ visits _ _ quiet _ _ ih =>
    have none_early : early.filterMap Moment.command? = [] := by simpa using quiet.idle
    simp [none_early, ih]

/-- A tour may follow on a change of the desk that keeps the claims. -/
theorem after_change {change : Desk → Desk} {g : Unit → Activity β} {s' : Desk} {b : β}
    (keeps : ∀ d, Desk.Keeps still d (change d)) (meanwhile : Desk.Aside still s s')
    (tour : Tour still listing (g ()) (change s') record visits b t) :
    Tour still listing ((Activity.change change).bind g) s record visits b t :=
  .after_quiet (update_iff.2 ⟨rfl, s', meanwhile, rfl⟩)
    (.of_keeps ((Desk.Keeps.of_aside meanwhile).trans (keeps s'))) tour

/-- A tour may follow on a look at the desk. -/
theorem after_desk {g : Desk → Activity β} {s' : Desk} {b : β} (meanwhile : Desk.Aside still s s')
    (tour : Tour still listing (g s') s' record visits b t) :
    Tour still listing (Activity.desk.bind g) s record visits b t :=
  .after_quiet (state_iff.2 ⟨rfl, meanwhile, rfl⟩) (.of_keeps (.of_aside meanwhile)) tour

end Tour

/-! ## The tour of a pass -/

/-- What a visit is about. -/
def Visit.errand (v : Visit) : String × List Descriptor := (v.key, v.desired)

/-- To release all that a pod holds is one visit that desires nothing. -/
theorem releaseAll_tour {key : String} {gone : Bool}
    (course : Course (Desk.Aside still) (releaseAll listing key) s record gone t) :
    ∃ v : Visit, v.errand = (key, []) ∧
      Tour still listing (releaseAll listing key) s record [v] gone t := by
  rw [releaseAll_eq] at course ⊢
  obtain ⟨early, held, s', late, rfl, visited, ended⟩ := bind_iff.1 course
  have goes : Visit.Goes still listing ⟨key, [], s, early, held, s'⟩ := visited
  obtain ⟨rfl, -, rfl⟩ := done_iff.1 ended
  exact ⟨_, rfl, (Tour.single goes).bind (.rest ended (.refl still t))⟩

/-- To go to a pod is one visit that desires what the pod does. -/
theorem visitPod_tour {pod : Pod} {a : Unit}
    (course : Course (Desk.Aside still) (visitPod listing pod) s record a t) :
    ∃ v : Visit, v.errand = (pod.key, pod.desired) ∧
      Tour still listing (visitPod listing pod) s record [v] a t := by
  rw [visitPod] at course ⊢
  cases terminating : pod.isTerminating with
  | true =>
    have desired : pod.desired = [] := by simp [Pod.desired, terminating]
    rw [if_pos terminating, dismissPod] at course
    rw [if_pos rfl, dismissPod, desired]
    obtain ⟨_, _, _, _, rfl, changed, course⟩ := bind_iff.1 course
    obtain ⟨rfl, s₁, m₁, rfl⟩ := update_iff.1 changed
    obtain ⟨early, gone, s₂, late, rfl, released, ended⟩ := bind_iff.1 course
    obtain ⟨v, errand, tour⟩ := releaseAll_tour released
    have quiet : Quiet still s₂ late t := by
      cases gone with
      | true => exact deletePod_quiet ended
      | false =>
        obtain ⟨rfl, -, rfl⟩ := done_iff.1 ended
        exact .refl still t
    exact ⟨v, errand, .after_change (fun d => .of_eq rfl rfl) m₁ (tour.then_quiet ended quiet)⟩
  | false =>
    have desired : pod.desired = pod.descriptors := by simp [Pod.desired, terminating]
    rw [if_neg (by simp [terminating]), syncPod_eq] at course
    rw [if_neg (by simp), syncPod_eq, desired]
    obtain ⟨early, held, s', late, rfl, visited, ended⟩ := bind_iff.1 course
    obtain ⟨rfl, rfl, rfl⟩ := done_iff.1 ended
    have goes : Visit.Goes still listing ⟨pod.key, pod.descriptors, s, early, held, t⟩ := visited
    exact ⟨_, rfl, (Tour.single goes).bind (.rest ended (.refl still t))⟩

/-- The pods that are known to be alive after a pod was visited. -/
def noted (pod : Pod) (live : Table String Pod) : Table String Pod :=
  if pod.isTerminating then live else live.insert pod.key pod

/-- To visit pods is to visit the first one, to note it if it is alive, and to visit the rest. -/
theorem visitPods_cons_eq (pod : Pod) (rest : List Pod) (live : Table String Pod) :
    visitPods listing (pod :: rest) live =
      (visitPod listing pod).bind fun _ => visitPods listing rest (noted pod live) := by
  rw [visitPods, visitPod, noted]
  cases pod.isTerminating <;> rfl

/-- The pods that are noted are those that were, and this one if it is alive. -/
theorem contains_noted {pod : Pod} {live : Table String Pod} {key : String} :
    (noted pod live).contains key = true ↔
      live.contains key = true ∨ (pod.isTerminating = false ∧ pod.key = key) := by
  rw [noted]
  cases pod.isTerminating with
  | true => simp
  | false =>
    by_cases is : pod.key = key
    · simp [Table.contains, Table.get?_insert, is]
    · simp [Table.contains, Table.get?_insert, is]

/-- To visit pods is a tour with one visit for each, and those that are alive are noted. -/
theorem visitPods_tour {rest : List Pod} {live live' : Table String Pod}
    (course : Course (Desk.Aside still) (visitPods listing rest live) s record live' t) :
    (∃ visits, visits.map Visit.errand = rest.map (fun pod => (pod.key, pod.desired)) ∧
      Tour still listing (visitPods listing rest live) s record visits live' t) ∧
    ∀ key, live'.contains key = true ↔
      live.contains key = true ∨ ∃ pod ∈ rest, pod.isTerminating = false ∧ pod.key = key := by
  induction rest generalizing s record live with
  | nil =>
    obtain ⟨rfl, rfl, rfl⟩ := done_iff.1 course
    exact ⟨⟨[], rfl, .rest course (.refl still t)⟩, by simp⟩
  | cons pod rest ih =>
    rw [visitPods_cons_eq] at course ⊢
    obtain ⟨early, _, s', late, rfl, visited, course⟩ := bind_iff.1 course
    obtain ⟨v, errand, tour⟩ := visitPod_tour visited
    obtain ⟨⟨visits, errands, later⟩, contains⟩ := ih course
    refine ⟨⟨v :: visits, by simp [errand, errands], tour.bind later⟩, fun key => ?_⟩
    rw [contains, contains_noted]
    simp [or_assoc]

/-- To release what vanished pods hold is a tour with one visit for each, which desires nothing. -/
theorem releaseVanished_tour {keys : List String} {a : Unit}
    (course : Course (Desk.Aside still) (releaseVanished listing keys) s record a t) :
    ∃ visits, visits.map Visit.errand = keys.map (fun key => (key, [])) ∧
      Tour still listing (releaseVanished listing keys) s record visits a t := by
  induction keys generalizing s record with
  | nil =>
    obtain ⟨rfl, rfl, rfl⟩ := done_iff.1 course
    exact ⟨[], rfl, .rest course (.refl still t)⟩
  | cons key rest ih =>
    rw [releaseVanished] at course ⊢
    obtain ⟨_, _, _, _, rfl, changed, course⟩ := bind_iff.1 course
    obtain ⟨rfl, s₁, m₁, rfl⟩ := update_iff.1 changed
    obtain ⟨early, gone, s₂, late, rfl, released, course⟩ := bind_iff.1 course
    obtain ⟨v, errand, tour⟩ := releaseAll_tour released
    obtain ⟨visits, errands, later⟩ := ih course
    refine ⟨v :: visits, by simp [errand, errands], ?_⟩
    exact .after_change (fun d => .of_eq rfl rfl) m₁ (tour.bind later)

/-- The visits of a pass over a listing: those of the listed pods, and those of keys which have
claims then but no pod that is alive. -/
structure Itinerary (still : Prop) (listing : List Pod) (s : Desk) (first : List Visit) (middle : Desk)
    (later : List Visit) (t : Desk) : Prop where
  listed : first.map Visit.errand = listing.map fun pod => (pod.key, pod.desired)
  chain : Chain still listing s first middle
  chain' : Chain still listing middle later t
  gone : ∀ v ∈ later, Gone listing v.key ∧ v.desired = []
  once : (later.map Visit.key).Nodup
  /-- No claims of a key without a living pod are left out. -/
  complete : ∀ key, Gone listing key → middle.ledger.claims.get? key ≠ none →
    key ∈ later.map Visit.key

/-- The itinerary of a pass may begin earlier and end later, while the claims are kept. -/
theorem Itinerary.keeps {first later : List Visit} {middle t' : Desk} {s' : Desk}
    (before : Desk.Keeps still s' s) (itinerary : Itinerary still listing s first middle later t)
    (after : Desk.Keeps still t t') : Itinerary still listing s' first middle later t' := by
  have last : Chain still listing t [] t' := .last after
  have chain' := itinerary.chain'.append last
  rw [List.append_nil] at chain'
  exact ⟨itinerary.listed, itinerary.chain.keeps_left before, chain', itinerary.gone,
    itinerary.once, itinerary.complete⟩

/-- What a pass does after its listing is a tour with the visits of its itinerary. -/
theorem followListing_tour {a : Unit}
    (course : Course (Desk.Aside still) (followListing listing) s record a t) :
    ∃ first middle later, Itinerary still listing s first middle later t ∧
      Tour still listing (followListing listing) s record (first ++ later) a t := by
  obtain ⟨early, live, s₁, _, rfl, toured, course₁⟩ := bind_iff.1 course
  obtain ⟨⟨first, errands, tour⟩, contains⟩ := visitPods_tour toured
  obtain ⟨_, s₂, _, _, rfl, looked, course₂⟩ := bind_iff.1 course₁
  obtain ⟨rfl, m₁, rfl⟩ := state_iff.1 looked
  obtain ⟨middle, _, s₃, _, rfl, released, course₃⟩ := bind_iff.1 course₂
  obtain ⟨later, errands', tour'⟩ := releaseVanished_tour released
  obtain ⟨_, _, _, late, rfl, changed, pushed⟩ := bind_iff.1 course₃
  obtain ⟨rfl, s₄, m₂, rfl⟩ := update_iff.1 changed
  have quiet : Quiet still s₃ ([] ++ late) t := by
    refine Quiet.trans (.of_keeps ((Desk.Keeps.of_aside m₂).trans ?_)) (pushStatuses_quiet pushed)
    exact .of_eq rfl rfl
  have living : ∀ key, live.contains key = false ↔ Gone listing key := by
    intro key
    rw [← Bool.not_eq_true, contains]
    simp [Table.contains, Gone]
  have keys : later.map Visit.key = s₂.ledger.claims.keys.filter fun key => !live.contains key := by
    have parts := congrArg (List.map Prod.fst) errands'
    simpa [Function.comp_def, Visit.errand] using parts
  refine ⟨first, s₂, later, ?_, ?_⟩
  · have chain := tour.chain.append (.last (.of_aside m₁))
    have chain' := tour'.chain.append (.last quiet.keeps)
    rw [List.append_nil] at chain chain'
    refine ⟨errands, chain, chain', ?_, ?_, ?_⟩
    · intro v mem
      have errand : v.errand ∈ later.map Visit.errand := List.mem_map_of_mem mem
      rw [errands'] at errand
      obtain ⟨key, released, is⟩ := List.mem_map.1 errand
      obtain ⟨rfl, nothing⟩ := Prod.mk.inj is
      exact ⟨(living _).1 (by simpa using (List.mem_filter.1 released).2), nothing.symm⟩
    · rw [keys]
      exact s₂.ledger.claims.nodup.filter _
    · intro key gone claimed
      rw [keys, List.mem_filter, Table.mem_keys_iff]
      exact ⟨claimed, by simp [(living key).2 gone]⟩
  · exact tour.bind (.after_desk m₁ (tour'.then_quiet course₃ quiet))

/-- What a pass does with the answer to its question for the pods. -/
def settle (started limit : Nat) (answer : Call.listPods.Answer) : Activity Unit :=
  match bounded Call.listPods.what limit answer with
  | .error e => Activity.change (·.listingFailed e)
  | .ok listing =>
    (Activity.change (·.listingSucceeded listing.length)).bind fun _ =>
      (followListing listing).bind fun _ =>
        Activity.change fun d => d.measure (·.observeLatency (secondsBetween started d.clock))

/-- A pass sees to the subscriptions, asks for the listing and settles what follows from the answer.
-/
theorem reconcile_eq : reconcile =
    Activity.desk.bind fun begun => ensureSubscribed.bind fun _ =>
      (Activity.call .listPods).bind fun answer => Activity.desk.bind fun asked =>
        settle begun.clock asked.settings.operationTimeout answer :=
  rfl

/-- With a listing there is a tour with the visits of the itinerary, and without one nothing happens
to the claims. -/
theorem settle_tour {started limit : Nat} {answer : Call.listPods.Answer} {a : Unit}
    (course : Course (Desk.Aside still) (settle started limit answer) s record a t) :
    (∃ listing, answer = some (.ok listing) ∧ ∃ first middle later,
      Itinerary still listing s first middle later t ∧
        Tour still listing (settle started limit answer) s record (first ++ later) a t) ∨
    ((∀ listing, answer ≠ some (.ok listing)) ∧ record = [] ∧ Desk.Keeps still s t) := by
  rcases answer with _ | (e | listing)
  · obtain ⟨rfl, s₁, m₁, rfl⟩ := update_iff.1 course
    exact .inr ⟨by simp, rfl, (Desk.Keeps.of_aside m₁).trans (Desk.keeps_listingFailed still _ _)⟩
  · obtain ⟨rfl, s₁, m₁, rfl⟩ := update_iff.1 course
    exact .inr ⟨by simp, rfl, (Desk.Keeps.of_aside m₁).trans (Desk.keeps_listingFailed still _ _)⟩
  · left
    obtain ⟨_, _, _, _, rfl, changed, course₁⟩ := bind_iff.1 course
    obtain ⟨rfl, s₁, m₁, rfl⟩ := update_iff.1 changed
    obtain ⟨middle, _, s₂, _, rfl, followed, ended⟩ := bind_iff.1 course₁
    obtain ⟨rfl, s₃, m₂, rfl⟩ := update_iff.1 ended
    obtain ⟨first, desk, later, itinerary, tour⟩ := followListing_tour followed
    have before : Desk.Keeps still s (s₁.listingSucceeded listing.length) :=
      (Desk.Keeps.of_aside m₁).trans (.of_eq rfl rfl)
    have after : Desk.Keeps still s₂
        (s₃.measure (·.observeLatency (secondsBetween started s₃.clock))) :=
      (Desk.Keeps.of_aside m₂).trans (.of_eq rfl rfl)
    refine ⟨listing, rfl, first, desk, later, itinerary.keeps before after, ?_⟩
    exact .after_change (fun d => .of_eq rfl rfl) m₁ (tour.then_quiet ended (.of_keeps after))

/-- A pass over a listing that is answered makes its visits; without one it leaves the claims
alone all the time. -/
theorem reconcile_itinerary {a : Unit}
    (course : Course (Desk.Aside still) reconcile f record a t) :
    (∃ listing, record.findSome? Moment.listing? = some listing ∧ ∃ first middle later,
      Itinerary still listing f first middle later t ∧
        Tour still listing reconcile f record (first ++ later) a t) ∨
    (record.findSome? Moment.listing? = none ∧ Quiet still f record t) := by
  rw [reconcile_eq] at course ⊢
  obtain ⟨_, s₀, _, _, rfl, looked, course₁⟩ := bind_iff.1 course
  obtain ⟨rfl, m₀, rfl⟩ := state_iff.1 looked
  obtain ⟨early, _, s₁, _, rfl, subscribed, course₂⟩ := bind_iff.1 course₁
  obtain ⟨_, answer, s₂, _, rfl, asked, course₃⟩ := bind_iff.1 course₂
  obtain ⟨rfl, m₁⟩ := request_iff.1 asked
  obtain ⟨_, s₃, _, late, rfl, looked', course₄⟩ := bind_iff.1 course₃
  obtain ⟨rfl, m₂, rfl⟩ := state_iff.1 looked'
  obtain ⟨idle, -⟩ := ensureSubscribed_course subscribed
  have quiet := ensureSubscribed_quiet subscribed
  have asking : Quiet still s₁ ([⟨⟨.listPods, answer⟩, s₁⟩] ++ []) s₃ :=
    Quiet.trans (.ask rfl rfl m₁) (.of_keeps (.of_aside m₂))
  have opened : Quiet still f ([] ++ (early ++ [⟨⟨.listPods, answer⟩, s₁⟩])) s₃ :=
    Quiet.trans (.of_keeps (.of_aside m₀)) (quiet.trans asking)
  rcases settle_tour course₄ with ⟨listing, rfl, first, desk, later, itinerary, tour⟩ |
    ⟨unanswered, rfl, closed⟩
  · refine .inl ⟨listing, findSome?_listing idle (.inr rfl), first, desk, later,
      itinerary.keeps opened.keeps (.refl still t), ?_⟩
    rw [List.nil_append]
    refine .after_desk m₀ (.after_quiet subscribed quiet ?_)
    exact .after_quiet asked (.ask rfl rfl m₁) (.after_desk m₂ tour)
  · have whole := opened.trans (.of_keeps closed)
    refine .inr ⟨?_, by simpa using whole⟩
    have none_listed : Moment.listing? ⟨⟨.listPods, answer⟩, s₁⟩ = none := by
      rcases answer with _ | (e | listing)
      · rfl
      · rfl
      · exact absurd rfl (unanswered listing)
    exact (findSome?_listing idle (.inl rfl)).trans none_listed

end VirtualNode.Controller
