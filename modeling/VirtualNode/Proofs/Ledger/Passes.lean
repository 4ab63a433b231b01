import VirtualNode.Proofs.Frames
import VirtualNode.Proofs.Ledger.Survey

/-!
# Passes

A pass subscribes if need be, lists the pods, visits the listed ones, lets go of those that are
gone, and writes statuses.  `Passed` says what a pass over a listing with distinct keys brings
about, whatever is answered and whatever others do.  A round in which no listing was answered
touches no claims.

Main statements: `followListing_course` and `reconcile_course`, and for the rounds of the loop
`Round.Goes.passed_or_idle`, from which the account of a round follows (`Round.Goes.account`).
-/

set_option autoImplicit false

namespace VirtualNode.Controller

open Biz (Descriptor)
open Kube (Pod)
open Dialogue (Course)
open Dialogue.Course (bind_iff state_iff update_iff request_iff done_iff)

variable {still : Prop} {listing : List Pod} {start : Books} {f s t : Desk}
  {record calls : List Moment}

/-! ## Listed pods -/

/-- What is done with a pod of a listing. -/
def visitPod (listing : List Pod) (pod : Pod) : Activity Unit :=
  if pod.isTerminating then dismissPod listing pod else syncPod listing pod

/-- To go to a pod brings about a visit for what the pod desires. -/
theorem visitPod_course {pod : Pod} {a : Unit}
    (course : Course (Desk.Aside still) (visitPod listing pod) s calls a t)
    (wanted : ∀ d ∈ pod.desired, WantedBy listing pod.key d)
    (before : Visitable listing start pod.key pod.desired s) :
    Visited still listing start pod.key pod.desired s calls t := by
  rw [visitPod] at course
  cases terminating : pod.isTerminating with
  | true =>
    have desired : pod.desired = [] := by simp [Pod.desired, terminating]
    rw [desired] at before ⊢
    rw [if_pos terminating] at course
    exact dismissPod_course course before
  | false =>
    have desired : pod.desired = pod.descriptors := by simp [Pod.desired, terminating]
    rw [desired] at before wanted ⊢
    rw [if_neg (by simp [terminating])] at course
    exact syncPod_course course wanted before

/-- The first of the pods to come is visited, and is noted if it is not being deleted. -/
theorem visitPods_cons {pod : Pod} {rest : List Pod} {live live' : Table String Pod}
    (course : Course (Desk.Aside still) (visitPods listing (pod :: rest) live) s calls live' t) :
    ∃ first s' late table, calls = first ++ late ∧
      Course (Desk.Aside still) (visitPod listing pod) s first () s' ∧
      Course (Desk.Aside still) (visitPods listing rest table) s' late live' t ∧
      ∀ key, table.contains key = true ↔
        live.contains key = true ∨ (pod.isTerminating = false ∧ pod.key = key) := by
  rw [visitPods] at course
  rw [visitPod]
  cases terminating : pod.isTerminating with
  | true =>
    rw [if_pos terminating] at course
    obtain ⟨first, a, s', late, rfl, dismissed, rest⟩ := bind_iff.1 course
    exact ⟨first, s', late, live, rfl, dismissed, rest, by simp⟩
  | false =>
    rw [if_neg (by simp [terminating])] at course
    obtain ⟨first, a, s', late, rfl, synced, rest⟩ := bind_iff.1 course
    refine ⟨first, s', late, live.insert pod.key pod, rfl, synced, rest, fun key => ?_⟩
    by_cases is : pod.key = key
    · simp [Table.contains, Table.get?_insert, is]
    · simp [Table.contains, Table.get?_insert, is]

/-- What the visit of the next pod of the listing brings about. -/
theorem visitPod_next (distinct : Distinct listing) {early rest : List Pod} {pod : Pod} {a : Unit}
    (split : listing = early ++ pod :: rest) (surveyed : Surveyed still listing f early record s)
    (untouched : Untouched f early s)
    (course : Course (Desk.Aside still) (visitPod listing pod) s calls a t) :
    Visited still listing f.books pod.key pod.desired s calls t ∧
      Surveyed still listing f (early ++ [pod]) (record ++ calls) t ∧
      Untouched f (early ++ [pod]) t := by
  have here : pod ∈ listing := by simp [split]
  have notMem : pod.key ∉ early.map Pod.key := (split ▸ distinct).key_notMem
  have wanted : ∀ d ∈ pod.desired, WantedBy listing pod.key d := fun d mem =>
    (distinct.wantedBy_iff here).2 (Pod.wants_iff.2 ⟨d, mem, Descriptor.same_self d⟩)
  have visited := visitPod_course course wanted (surveyed.visitable untouched distinct split)
  exact ⟨visited, surveyed.visit untouched notMem visited, untouched.visit visited⟩

/-- What holds after the pods of a listing have been visited, those of `rest` with the calls of
`calls`. -/
structure Toured (still : Prop) (listing : List Pod) (f : Desk) (early rest : List Pod)
    (record : List Moment) (live : Table String Pod) (calls : List Moment)
    (live' : Table String Pod) (t : Desk) : Prop where
  surveyed : Surveyed still listing f listing (record ++ calls) t
  live : ∀ key, live'.contains key = true ↔
    live.contains key = true ∨ ∃ pod ∈ rest, pod.isTerminating = false ∧ pod.key = key
  installs : still → ∀ d, (∀ pod ∈ early, ¬ pod.Wants d) → (∃ pod ∈ rest, pod.Wants d) →
    HoldersFirst listing f.books d → ¬ f.books.Reports d → Issues .install d calls

/-- The visits of the pods to come take the survey from the pods before to the whole listing. -/
theorem visitPods_course (distinct : Distinct listing) {early rest : List Pod}
    {live live' : Table String Pod}
    (course : Course (Desk.Aside still) (visitPods listing rest live) s calls live' t)
    (split : listing = early ++ rest) (surveyed : Surveyed still listing f early record s)
    (untouched : Untouched f early s) :
    Toured still listing f early rest record live calls live' t := by
  induction rest generalizing early s record calls live with
  | nil =>
    obtain ⟨rfl, rfl, rfl⟩ := done_iff.1 course
    rw [List.append_nil] at split
    subst split
    exact ⟨by simpa using surveyed, by simp, by simp⟩
  | cons pod rest ih =>
    obtain ⟨first, s', late, table, rfl, turn, course, noted⟩ := visitPods_cons course
    obtain ⟨visited, surveyed', untouched'⟩ := visitPod_next distinct split surveyed untouched turn
    have later := ih course (by simp [split]) surveyed' untouched'
    refine ⟨?_, fun key => ?_, ?_⟩
    · rw [← List.append_assoc]
      exact later.surveyed
    · rw [later.live, noted]
      simp [or_assoc]
    · intro quiet d none_before some_wants holders unreported
      rw [issues_append]
      -- the install falls into the visit of the first pod that wants the module
      by_cases wants : pod.Wants d
      · exact .inl (surveyed.installs untouched split visited quiet none_before wants holders
          unreported)
      · refine .inr (later.installs quiet d ?_ ?_ holders unreported)
        · intro other mem
          rcases List.mem_append.1 mem with mem | mem
          · exact none_before other mem
          · rw [List.mem_singleton.1 mem]
            exact wants
        · obtain ⟨other, mem, other_wants⟩ := some_wants
          rcases List.mem_cons.1 mem with rfl | mem
          · exact absurd other_wants wants
          · exact ⟨other, mem, other_wants⟩

/-! ## Pods that are gone -/

/-- Whether no pod of the listing that is not being deleted has the key. -/
def Gone (listing : List Pod) (key : String) : Prop :=
  ∀ pod ∈ listing, pod.isTerminating = false → pod.key ≠ key

/-- For a key that is gone from the listing nothing is wanted. -/
theorem Gone.not_wantedBy {key : String} (gone : Gone listing key) (d : Descriptor) :
    ¬ WantedBy listing key d := by
  rintro ⟨pod, mem, is, alive, -⟩
  exact gone pod mem alive is

/-- Claims that are left under a key that is gone were there before. -/
theorem Surveyed.old {key : String} (surveyed : Surveyed still listing f listing record s)
    (gone : Gone listing key) {d : Descriptor} (mem : d ∈ s.ledger.claimsOf key) :
    d ∈ f.ledger.claimsOf key := by
  by_cases listed : key ∈ listing.map Pod.key
  · obtain ⟨pod, here, rfl⟩ := List.mem_map.1 listed
    rcases surveyed.kept pod here d mem with wants | ⟨old, -⟩
    · exact absurd rfl (gone pod here wants.1)
    · exact old
  · exact surveyed.fewer key listed d mem

/-- When all listed pods have been visited, whoever wants a module that is left under a key that
is gone holds it. -/
theorem Surveyed.visitable_of_gone {key : String}
    (surveyed : Surveyed still listing f listing record s) (gone : Gone listing key) :
    Visitable listing f.books key [] s := by
  refine ⟨fun d _ => gone.not_wantedBy d, fun d mem _ elsewhere alone => ?_⟩
  have holds : f.books.Holds key d := ⟨d, surveyed.old gone mem, Descriptor.same_self d⟩
  refine .inr ⟨?_, key, holds, wantedElsewhere_iff.1 elsewhere⟩
  rintro ⟨pod, here, wants⟩
  have other : pod.key ≠ key := gone pod here wants.1
  rcases surveyed.gained pod here d wants with now | ⟨unheld, -⟩
  · exact alone ⟨pod.key, other, now⟩
  · by_cases listed : key ∈ listing.map Pod.key
    · obtain ⟨owner, owned, rfl⟩ := List.mem_map.1 listed
      rcases surveyed.kept owner owned d mem with wants' | ⟨-, unwanted, -⟩
      · exact gone owner owned wants'.1 rfl
      · exact unwanted ⟨pod, here, wants⟩
    · exact unheld key listed holds

/-- The visit of a key that is gone fits the survey of the whole listing. -/
theorem Surveyed.visit_of_gone {key : String}
    (surveyed : Surveyed still listing f listing record s) (gone : Gone listing key)
    (visited : Visited still listing f.books key [] s calls t) :
    Surveyed still listing f listing (record ++ calls) t := by
  have fewer : ∀ other, ∀ d ∈ t.ledger.claimsOf other, d ∈ s.ledger.claimsOf other :=
    visited.fewer
  refine ⟨surveyed.account.trans visited.account, ?_, ?_, ?_, ?_⟩
  · exact fun other unlisted d mem => surveyed.fewer other unlisted d (fewer other d mem)
  · intro pod here d mem
    refine (surveyed.kept pod here d (fewer _ d mem)).imp_right ?_
    rintro ⟨old, unwanted, failed⟩
    exact ⟨old, unwanted, failed_append.2 (.inl failed)⟩
  · intro pod here d wants
    rcases surveyed.gained pod here d wants with ⟨e, mem, same⟩ | ⟨unheld, failed⟩
    · have frame := visited.frame pod.key (gone pod here wants.1)
      exact .inl ⟨e, by simpa [Desk.books, Ledger.claimsOf, frame] using mem, same⟩
    · exact .inr ⟨unheld, failed_append.2 (.inl failed)⟩
  · intro occupied other
    by_cases is : other = key
    · rw [is]
      exact visited.occupied
    · rw [visited.frame other is]
      exact surveyed.occupied occupied other

/-- What vanished keys hold is taken out of the claims, unless it is unwanted and its uninstall
failed. -/
theorem releaseVanished_course {keys : List String} {a : Unit}
    (course : Course (Desk.Aside still) (releaseVanished listing keys) s calls a t)
    (gone : ∀ key ∈ keys, Gone listing key)
    (surveyed : Surveyed still listing f listing record s) :
    Surveyed still listing f listing (record ++ calls) t ∧
      (∀ key, ∀ d ∈ t.ledger.claimsOf key, d ∈ s.ledger.claimsOf key) ∧
      ∀ key ∈ keys, ∀ d ∈ t.ledger.claimsOf key,
        ¬ Wanted listing d ∧ Failed .uninstall d calls := by
  induction keys generalizing s record calls with
  | nil =>
    obtain ⟨rfl, -, rfl⟩ := done_iff.1 course
    exact ⟨by simpa using surveyed, fun _ _ => id, by simp⟩
  | cons key rest ih =>
    rw [List.forall_mem_cons] at gone
    simp only [releaseVanished, Activity.change, Dialogue.bind_eq, bind_iff, update_iff] at course
    obtain ⟨_, _, _, _, rfl, ⟨rfl, s₁, m₁, rfl⟩, first, empty, s₂, late, rfl, released, course⟩ :=
      course
    rw [List.nil_append]
    have keeps : Desk.Keeps still s (s₁.updateLedger (·.forgetStatus key)) :=
      (Desk.Keeps.of_aside m₁).trans (.of_eq rfl rfl)
    have begun := surveyed.keeps keeps
    have visited := (releaseAll_course released (begun.visitable_of_gone gone.1)).1
    obtain ⟨surveyed', fewer, cleared⟩ := ih course gone.2 (begun.visit_of_gone gone.1 visited)
    have fewer' := visited.fewer
    rw [keeps.claimsOf] at fewer'
    refine ⟨by rwa [← List.append_assoc], fun other d mem => fewer' other d (fewer other d mem), ?_⟩
    rw [List.forall_mem_cons]
    constructor
    · intro d mem
      rcases visited.kept d (fewer key d mem) with ⟨e, none, -⟩ | ⟨-, unwanted, failed⟩
      · exact absurd none List.not_mem_nil
      · exact ⟨unwanted, failed_append.2 (.inl failed)⟩
    · intro other mem d held
      obtain ⟨unwanted, failed⟩ := cleared other mem d held
      exact ⟨unwanted, failed_append.2 (.inr failed)⟩

/-! ## What a pass does besides -/

/-- What is restrained to such calls, and to such changes as leave the books alone, is idle in all
its courses. -/
theorem idle_course {α : Type} {task : Activity α} {R : Desk → Desk → Prop} {Q : Call → Prop} {a : α}
    (course : Course (Desk.Aside still) task s calls a t) (within : task.Within R Q s)
    (keeps : ∀ d e, R d e → Desk.Keeps still d e)
    (idle : ∀ call, Q call → ∀ answer d, Moment.Idle ⟨⟨call, answer⟩, d⟩) :
    (∀ moment ∈ calls, moment.Idle) ∧ Desk.Keeps still s t := by
  have kept := course.within within (P := Desk.Keeps still s)
    (fun _ _ meanwhile so_far => so_far.trans (.of_aside meanwhile))
    (fun d e change so_far => so_far.trans (keeps d e change)) (.refl still s)
  refine ⟨?_, kept.1⟩
  rintro ⟨⟨call, answer⟩, d⟩ mem
  exact idle call (kept.2 _ mem).1 answer d

/-- The writing of statuses keeps all claims and publishes no commands. -/
theorem pushStatuses_course {a : Unit}
    (course : Course (Desk.Aside still) pushStatuses s calls a t) :
    (∀ moment ∈ calls, moment.Idle) ∧ Desk.Keeps still s t := by
  apply idle_course course pushStatuses_within
  · exact fun _ _ pushes => .of_eq pushes.claims pushes.sightings
  · intro call writes answer d
    cases call with
    | reportPod space name status => exact ⟨rfl, rfl⟩
    | _ => exact writes.elim

/-- To see to the subscriptions keeps all claims and publishes no commands. -/
theorem ensureSubscribed_course {a : Unit}
    (course : Course (Desk.Aside still) ensureSubscribed s calls a t) :
    (∀ moment ∈ calls, moment.Idle) ∧ Desk.Keeps still s t := by
  apply idle_course course ensureSubscribed_subscribes
  · intro d e outlook
    have ledger : e.ledger = d.ledger := congrArg Outlook.ledger outlook
    exact .of_eq (congrArg Ledger.claims ledger) (congrArg Outlook.sightings outlook)
  · intro call subscribes answer d
    cases call with
    | subscribe purpose => exact ⟨rfl, rfl⟩
    | noting => exact ⟨rfl, rfl⟩
    | _ => exact subscribes.elim

/-! ## The pass -/

/-- What a pass over a listing brings about. -/
structure Passed (still : Prop) (listing : List Pod) (f : Desk) (record : List Moment)
    (t : Desk) : Prop where
  account : Account still listing f.books f.books record t.books
  /-- Of what is not wanted, only what could not be uninstalled is still held. -/
  kept : ∀ key, ∀ d ∈ t.ledger.claimsOf key, WantedBy listing key d ∨
    (¬ Wanted listing d ∧ Failed .uninstall d record)
  /-- What is wanted is held, unless it could not be installed. -/
  gained : ∀ key d, WantedBy listing key d → t.books.Holds key d ∨ Failed .install d record
  occupied : (∀ key, f.ledger.claims.get? key ≠ some []) →
    ∀ key, t.ledger.claims.get? key ≠ some []
  installs : still → ∀ d, Wanted listing d → HoldersFirst listing f.books d →
    ¬ f.books.Reports d → Issues .install d record

/-- A pass that has a listing surveys it all, and releases what has vanished. -/
theorem followListing_course {a : Unit}
    (course : Course (Desk.Aside still) (followListing listing) s calls a t)
    (distinct : Distinct listing) (surveyed : Surveyed still listing f [] record s)
    (untouched : Untouched f [] s) : Passed still listing f (record ++ calls) t := by
  simp only [followListing, Activity.desk, Activity.change, Dialogue.bind_eq, bind_iff, state_iff,
    update_iff] at course
  obtain ⟨first, live, s₁, _, rfl, toured, _, s₂, _, _, rfl, ⟨rfl, m₁, rfl⟩, second, _, s₃, _, rfl,
    released, _, _, s₄, third, rfl, ⟨rfl, s₅, m₂, rfl⟩, pushed⟩ := course
  have tour := visitPods_course distinct toured rfl surveyed untouched
  have living : ∀ key, live.contains key = false ↔ Gone listing key := by
    intro key
    rw [← Bool.not_eq_true, tour.live]
    simp [Table.contains, Gone]
  have begun := tour.surveyed.keeps (.of_aside m₁)
  obtain ⟨surveyed', fewer, cleared⟩ := releaseVanished_course released
    (fun key mem => (living key).1 (by simpa using (List.mem_filter.1 mem).2)) begun
  obtain ⟨idle, keeps⟩ := pushStatuses_course pushed
  have quiet : Desk.Keeps still s₃ t := by
    refine (Desk.Keeps.of_aside m₂).trans (.trans ?_ keeps)
    exact .of_eq rfl rfl
  have final := surveyed'.idle quiet fun moment mem => (idle moment mem).1
  have whole : record ++ (first ++ ([] ++ (second ++ ([] ++ third)))) =
      record ++ first ++ second ++ third := by simp
  rw [whole]
  refine ⟨final.account, ?_, ?_, final.occupied, ?_⟩
  · intro key d mem
    by_cases gone : Gone listing key
    · rw [quiet.claimsOf] at mem
      have present : key ∈ s₂.ledger.claims.keys := by
        rw [Table.mem_keys_iff]
        intro absent
        simpa [Ledger.claimsOf, absent] using fewer key d mem
      have released : key ∈ s₂.ledger.claims.keys.filter fun key => !live.contains key :=
        List.mem_filter.2 ⟨present, by simp [(living key).2 gone]⟩
      obtain ⟨unwanted, failed⟩ := cleared key released d mem
      exact .inr ⟨unwanted, failed_append.2 (.inl (failed_append.2 (.inr failed)))⟩
    · simp only [Gone, not_forall, not_not] at gone
      obtain ⟨pod, here, alive, rfl⟩ := gone
      rcases final.kept pod here d mem with wants | ⟨-, unwanted, failed⟩
      · exact .inl ⟨pod, here, rfl, wants⟩
      · exact .inr ⟨unwanted, failed⟩
  · rintro key d ⟨pod, here, rfl, wants⟩
    exact (final.gained pod here d wants).imp_right And.right
  · intro still d wanted holders unreported
    have issued := tour.installs still d (by simp) wanted holders unreported
    exact issues_append.2 (.inl (issues_append.2 (.inl (issues_append.2 (.inr issued)))))

/-- What a pass has brought about lasts while the claims are kept. -/
theorem Passed.keeps (passed : Passed still listing f record s) (keeps : Desk.Keeps still s t) :
    Passed still listing f record t := by
  have books : ∀ key d, t.books.Holds key d ↔ s.books.Holds key d := by
    simp [Books.Holds, Desk.books, keeps.claimsOf]
  refine ⟨?_, ?_, ?_, ?_, passed.installs⟩
  · have whole := passed.account.trans keeps.account_books
    rwa [List.append_nil] at whole
  · rw [keeps.claimsOf]
    exact passed.kept
  · intro key d wanted
    rw [books]
    exact passed.gained key d wanted
  · intro occupied key
    rw [keeps.claims]
    exact passed.occupied occupied key

/-- A listing that failed keeps all claims. -/
theorem Desk.keeps_listingFailed (still : Prop) (d : Desk) (e : Fault) :
    Desk.Keeps still d (d.listingFailed e) := by
  unfold Desk.listingFailed
  dsimp only
  split
  · exact .of_eq rfl rfl
  · exact .of_eq rfl rfl

/-- A listing that failed or came too late is no listing. -/
theorem listing?_of_error {what : String} {limit : Nat} {answer : Call.listPods.Answer} {e : Fault}
    (failed : bounded what limit answer = .error e) (d : Desk) :
    Moment.listing? ⟨⟨.listPods, answer⟩, d⟩ = none := by
  rcases answer with _ | (_ | listing)
  · rfl
  · rfl
  · cases failed

/-- What comes in time is what was answered. -/
theorem answer_of_ok {what : String} {limit : Nat} {answer : Call.listPods.Answer}
    (listed : bounded what limit answer = .ok listing) : answer = some (.ok listing) := by
  rcases answer with _ | outcome
  · cases listed
  · exact congrArg some listed

/-- A pass subscribes if need be and asks for the pods; then it takes note of a failure, or follows
the listing that was answered. -/
theorem reconcile_stages {a : Unit}
    (course : Course (Desk.Aside still) reconcile f record a t) :
    ∃ s₀ early s₁ answer s₂ late, Desk.Aside still f s₀ ∧
      Course (Desk.Aside still) ensureSubscribed s₀ early () s₁ ∧
      record = early ++ (⟨⟨.listPods, answer⟩, s₁⟩ : Moment) :: late ∧ Desk.Aside still s₁ s₂ ∧
      ((Moment.listing? ⟨⟨.listPods, answer⟩, s₁⟩ = none ∧ late = [] ∧
          ∃ e, t = s₂.listingFailed e) ∨
        ∃ listing s₃ s₄, answer = some (.ok listing) ∧
          Course (Desk.Aside still) (followListing listing)
            (s₂.listingSucceeded listing.length) late () s₃ ∧
          Desk.Aside still s₃ s₄ ∧ ∃ g, t = s₄.measure g) := by
  simp only [reconcile, Activity.desk, Activity.call, Dialogue.bind_eq, bind_iff, state_iff,
    request_iff] at course
  obtain ⟨_, s₀, _, _, rfl, ⟨rfl, m₀, rfl⟩, early, _, s₁, _, rfl, subscribed, _, answer, s₂, _, rfl,
    ⟨rfl, m₁⟩, _, s₃, _, late, rfl, ⟨rfl, m₂, rfl⟩, course⟩ := course
  split at course
  · -- the pods could not be listed
    rename_i e failed
    simp only [Activity.change, update_iff] at course
    obtain ⟨rfl, s₄, m₃, rfl⟩ := course
    exact ⟨s₀, early, s₁, answer, s₄, [], m₀, subscribed, rfl,
      (m₁.trans m₂).trans m₃, .inl ⟨listing?_of_error failed s₁, rfl, e, rfl⟩⟩
  · -- the pods of a listing are visited
    rename_i listing listed
    simp only [Activity.change, bind_iff, update_iff] at course
    obtain ⟨_, _, _, _, rfl, ⟨rfl, s₅, m₃, rfl⟩, middle, _, s₆, _, rfl, followed, rfl, s₇, m₄,
      rfl⟩ := course
    refine ⟨s₀, early, s₁, answer, s₅, middle, m₀, subscribed, by simp,
      (m₁.trans m₂).trans m₃,
      .inr ⟨listing, s₆, s₇, answer_of_ok listed, followed, m₄, _, rfl⟩⟩

/-- The first listing of a record that begins with moments without one. -/
theorem findSome?_listing {early late : List Moment} {moment : Moment}
    (idle : ∀ moment ∈ early, moment.Idle) (none_after : late = [] ∨ moment.listing?.isSome = true) :
    (early ++ moment :: late).findSome? Moment.listing? = moment.listing? := by
  have none_before : early.findSome? Moment.listing? = none :=
    List.findSome?_eq_none_iff.2 fun moment mem => (idle moment mem).2
  rw [List.findSome?_append, none_before, Option.none_or, List.findSome?_cons]
  rcases none_after with rfl | listed
  · cases moment.listing? <;> rfl
  · obtain ⟨listing, is⟩ := Option.isSome_iff_exists.1 listed
    rw [is]

/-- A pass follows the listing that was answered, or leaves the claims alone. -/
theorem reconcile_course {a : Unit}
    (course : Course (Desk.Aside still) reconcile f record a t) :
    (∃ listing, record.findSome? Moment.listing? = some listing ∧
      (Distinct listing → Passed still listing f record t)) ∨
    ((∀ moment ∈ record, moment.Idle) ∧ Desk.Keeps still f t) := by
  obtain ⟨s₀, early, s₁, answer, s₂, late, m₀, subscribed, rfl, m₁, outcome⟩ :=
    reconcile_stages course
  obtain ⟨idle, keeps⟩ := ensureSubscribed_course subscribed
  have opened : Desk.Keeps still f s₂ :=
    ((Desk.Keeps.of_aside m₀).trans keeps).trans (.of_aside m₁)
  rcases outcome with ⟨unlisted, rfl, e, rfl⟩ | ⟨listing, s₃, s₄, rfl, followed, m₂, g, rfl⟩
  · refine .inr ⟨?_, opened.trans (Desk.keeps_listingFailed still s₂ e)⟩
    rw [List.forall_mem_append]
    exact ⟨idle, by simpa [Moment.Idle, Moment.command?] using unlisted⟩
  · have begun : Desk.Keeps still f (s₂.listingSucceeded listing.length) :=
      opened.trans (.of_eq rfl rfl)
    refine .inl ⟨listing, findSome?_listing idle (.inr rfl), fun distinct => ?_⟩
    have commands : ∀ moment ∈ early ++ [(⟨⟨.listPods, some (.ok listing)⟩, s₁⟩ : Moment)],
        Moment.command? moment = none := by
      rw [List.forall_mem_append]
      exact ⟨fun moment mem => (idle moment mem).1, by simp [Moment.command?]⟩
    have surveyed := (Surveyed.begin still listing f).idle begun commands
    have untouched : Untouched f [] f := fun _ _ => rfl
    have passed := followListing_course followed distinct surveyed (untouched.keeps begun)
    refine Passed.keeps (s := s₄) ?_ (.of_eq rfl rfl)
    simpa using passed.keeps (.of_aside m₂)

/-! ## Rounds -/

namespace Round.Goes

variable {r : Round}

/-- A round follows the listing that was answered, or leaves the claims alone. -/
theorem passed_or_idle (goes : r.Goes still) (distinct : Distinct r.listing) :
    Passed still r.listing r.before r.record r.after ∨
      ((∀ moment ∈ r.record, moment.Idle) ∧ Desk.Keeps still r.before r.after) := by
  obtain ⟨task, before, record, after⟩ := r
  cases task with
  | pass =>
    refine (reconcile_course goes).imp_left ?_
    rintro ⟨listing, listed, passed⟩
    rw [listing_eq listed] at distinct ⊢
    exact passed distinct
  | push => exact .inr (pushStatuses_course goes)

/-- A round whose listing came has passed over it. -/
theorem passed (goes : r.Goes still) (listed : r.listing?.isSome = true)
    (distinct : Distinct r.listing) : Passed still r.listing r.before r.record r.after := by
  refine (goes.passed_or_idle distinct).resolve_right ?_
  rintro ⟨idle, -⟩
  simp [listing?_of_idle idle] at listed

/-- A round that lists a pod is a pass. -/
theorem passed_of_mem (goes : r.Goes still) (distinct : Distinct r.listing) {pod : Pod}
    (mem : pod ∈ r.listing) : Passed still r.listing r.before r.record r.after := by
  refine (goes.passed_or_idle distinct).resolve_right ?_
  rintro ⟨idle, -⟩
  simp [listing, listing?_of_idle idle] at mem

/-- A round in whose listing something is wanted is a pass. -/
theorem passed_of_wanted (goes : r.Goes still) (distinct : Distinct r.listing) {d : Descriptor}
    (wanted : Wanted r.listing d) : Passed still r.listing r.before r.record r.after := by
  obtain ⟨pod, mem, -⟩ := wanted
  exact goes.passed_of_mem distinct mem

/-- Whatever a round does with the claims is accounted for. -/
theorem account (goes : r.Goes still) (distinct : Distinct r.listing) :
    Account still r.listing r.before.books r.before.books r.record r.after.books := by
  rcases goes.passed_or_idle distinct with passed | ⟨idle, keeps⟩
  · exact passed.account
  · have whole : Account still r.listing r.before.books r.before.books (r.record ++ []) _ :=
      (Account.others fun moment mem => (idle moment mem).1).trans keeps.account_books
    rwa [List.append_nil] at whole

/-- A round leaves no empty entry where there was none. -/
theorem occupied (goes : r.Goes still) (distinct : Distinct r.listing)
    (begun : ∀ key, r.before.ledger.claims.get? key ≠ some []) :
    ∀ key, r.after.ledger.claims.get? key ≠ some [] := by
  rcases goes.passed_or_idle distinct with passed | ⟨-, keeps⟩
  · exact passed.occupied begun
  · intro key
    rw [keeps.claims]
    exact begun key

end Round.Goes

end VirtualNode.Controller
