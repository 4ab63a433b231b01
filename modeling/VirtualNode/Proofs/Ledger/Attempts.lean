import Mathlib.Data.List.Pairwise
import VirtualNode.Proofs.Ledger.Served

/-!
# How often a pass tries

On behalf of a pod that is alive, or of a key that is not listed, a pass publishes at most one
command about a module.  A pod that is listed as being deleted has two turns: its own visit, and, as
it is not alive, another one with the keys that are gone, if claims are left.  So an uninstall that
failed in the first turn is published a second time in the same pass.

Main statements: `attempts_of_pass`, for every pass that follows a run from an empty ledger on, and
`exists_second_attempt`.
-/

set_option autoImplicit false

namespace VirtualNode.Controller

open Biz (Descriptor)
open Kube (Pod)

variable {still : Prop} {listing : List Pod} {s t u : Desk} {record : List Moment} {key : String}
  {d : Descriptor}

/-! ## Along a chain -/

/-- No pod holds a module twice, and no pod has an empty entry. -/
structure Desk.Neat (s : Desk) : Prop where
  tidy : s.books.Tidy
  occupied : ∀ key, s.ledger.claims.get? key ≠ some []

/-- A module is held under a key at most once. -/
theorem Books.Tidy.unique {b : Books} (tidy : b.Tidy) {d e : Descriptor} (mem : d ∈ b.claims key)
    (mem' : e ∈ b.claims key) (same : d.same e = true) : d = e := by
  have : Std.Symm fun d e : Descriptor => d.same e = false :=
    ⟨fun d e h => (Descriptor.same_comm e d).trans h⟩
  by_contra ne
  simp [(tidy key).forall mem mem' ne] at same

/-- A desk stays neat while its claims are kept. -/
theorem Desk.Neat.keeps (neat : s.Neat) (keeps : Desk.Keeps still s t) : t.Neat := by
  refine ⟨?_, ?_⟩
  · simpa [Books.Tidy, Desk.books, keeps.claimsOf] using neat.tidy
  · simpa [keeps.claims] using neat.occupied

/-- An empty ledger is neat. -/
theorem Desk.Neat.of_empty (h : s.ledger = .empty) : s.Neat := by
  have nothing : ∀ key, s.ledger.claims.get? key = none := by
    intro key
    rw [h]
    rfl
  refine ⟨?_, ?_⟩
  · intro key
    simp [Desk.books, Ledger.claimsOf, nothing]
  · simp [nothing]

/-- A visit leaves a neat desk neat. -/
theorem Visit.Goes.neat {v : Visit} (goes : v.Goes still listing) (neat : v.before.Neat) :
    v.after.Neat :=
  ⟨goes.tidy neat.tidy, goes.occupied neat.occupied⟩

namespace Chain

variable {visits early late : List Visit} {v : Visit}

/-- Visits in a row leave a neat desk neat. -/
theorem neat (chain : Chain still listing s visits t) (neat : s.Neat) : t.Neat := by
  induction chain with
  | last keeps => exact neat.keeps keeps
  | next keeps goes _ ih => exact ih (goes.neat (neat.keeps keeps))

/-- Visits of other keys leave the claims of a key. -/
theorem frame (chain : Chain still listing s visits t) (others : ∀ v ∈ visits, v.key ≠ key) :
    t.ledger.claims.get? key = s.ledger.claims.get? key := by
  induction chain with
  | last keeps => exact keeps.claims key
  | next keeps goes _ ih =>
    rw [List.forall_mem_cons] at others
    obtain ⟨swept, fetched, kept, served⟩ := goes.served
    exact (ih others.2).trans ((served.frame key others.1.symm).trans (keeps.claims key))

/-- If nothing else desires a module then nothing else takes it up. -/
theorem heldElsewhere (chain : Chain still listing s visits t)
    (undesired : ∀ v ∈ visits, v.key ≠ key → ∀ e ∈ v.desired, e.same d = false)
    (held : t.books.HeldElsewhere key d) : s.books.HeldElsewhere key d := by
  induction chain with
  | last keeps => exact keeps.heldElsewhere.1 held
  | @next s t v visits keeps goes _ ih =>
    rw [List.forall_mem_cons] at undesired
    obtain ⟨other, ne, e, mem, same⟩ := ih undesired.2 held
    refine keeps.heldElsewhere.1 ⟨other, ne, e, ?_, same⟩
    obtain ⟨swept, fetched, kept, served⟩ := goes.served
    by_cases is : other = v.key
    · subst is
      rw [served.held] at mem
      rcases served.fetch.added mem with mem | wish
      · exact served.sweep.sublist.subset mem
      · simp [undesired.1 ne e wish] at same
    · rwa [books_claims_of_get? (served.frame other is)] at mem

end Chain

/-! ## Rounds -/

/-- A round with a listing is a tour of visits. -/
theorem Round.Goes.itinerary {r : Round} (goes : r.Goes still) (listed : r.listing? = some listing) :
    ∃ first middle later, Itinerary still listing r.before first middle later r.after ∧
      Tour still listing r.task.activity r.before r.record (first ++ later) () r.after := by
  obtain ⟨task, before, record, after⟩ := r
  cases task with
  | pass =>
    rcases reconcile_itinerary goes with ⟨listing', listed', visits⟩ | ⟨unlisted, -⟩
    · obtain rfl : listing' = listing := Option.some.inj (listed'.symm.trans listed)
      exact visits
    · exact absurd (unlisted.symm.trans listed) (by simp)
  | push =>
    have unlisted := Round.listing?_of_idle (r := ⟨.push, before, record, after⟩)
      (pushStatuses_course goes).1
    exact absurd (unlisted.symm.trans listed) (by simp)

/-- A pass leaves a neat desk neat. -/
theorem Round.Goes.neat {r : Round} (goes : r.Goes still) (neat : r.before.Neat) :
    r.after.Neat := by
  obtain ⟨task, before, record, after⟩ := r
  cases task with
  | pass =>
    rcases reconcile_itinerary goes with ⟨_, -, _, _, _, itinerary, -⟩ | ⟨-, quiet⟩
    · exact itinerary.chain'.neat (itinerary.chain.neat neat)
    · exact neat.keeps quiet.keeps
  | push => exact neat.keeps (pushStatuses_quiet goes).keeps

/-- The claims are neat after every run from an empty ledger on, whatever is listed. -/
theorem Run.neat {first : Desk} {rounds : List Round} (run : Run first rounds)
    (begun : first.ledger = .empty) : (lastDesk first rounds).Neat :=
  run.invariant (.of_empty begun) (fun _ _ aside neat => neat.keeps (.of_aside aside))
    fun _ _ goes neat => goes.neat neat

/-! ## The visit of a key -/

/-- Every visit in a row goes by itself. -/
theorem Chain.goes {visits : List Visit} (chain : Chain still listing s visits t) :
    ∀ v ∈ visits, v.Goes still listing := by
  induction chain with
  | last => simp
  | next _ goes _ ih => exact List.forall_mem_cons.2 ⟨goes, ih⟩

/-- What a tour publishes is what its visits publish. -/
theorem Tour.tries {α : Type} {task : Activity α} {visits : List Visit} {a : α}
    (tour : Tour still listing task s record visits a t) (key : String) (d : Descriptor) :
    tries key d record = visits.flatMap fun v => tries key d v.record := by
  rw [Controller.tries, tour.commands, List.filter_flatMap]
  rfl

/-- Visits of other keys publish nothing on behalf of a key. -/
theorem tries_nil {visits : List Visit} (goes : ∀ v ∈ visits, v.Goes still listing)
    (others : ∀ v ∈ visits, v.key ≠ key) : visits.flatMap (fun v => tries key d v.record) = [] := by
  rw [List.flatMap_eq_nil_iff]
  intro v mem
  exact (goes v mem).tries_other (others v mem).symm

/-- The only visit of a key in a chain. -/
structure Sole (still : Prop) (listing : List Pod) (key : String) (s : Desk)
    (visits early : List Visit) (v : Visit) (late : List Visit) (t : Desk) : Prop where
  split : visits = early ++ v :: late
  mine : v.key = key
  before : Chain still listing s early v.before
  goes : v.Goes still listing
  after : Chain still listing v.after late t
  claimed : v.before.ledger.claims.get? key = s.ledger.claims.get? key
  left : t.ledger.claims.get? key = v.after.ledger.claims.get? key
  tried : ∀ d, (visits.flatMap fun w => tries key d w.record) = tries key d v.record

/-- A key that is visited once has a sole visit. -/
theorem Chain.sole {visits : List Visit} (chain : Chain still listing s visits t)
    (once : (visits.map Visit.key).Nodup) (mem : key ∈ visits.map Visit.key) :
    ∃ early v late, Sole still listing key s visits early v late t := by
  obtain ⟨v, visited, rfl⟩ := List.mem_map.1 mem
  obtain ⟨early, late, rfl⟩ := List.append_of_mem visited
  rw [List.map_append, List.map_cons, List.nodup_append, List.nodup_cons] at once
  obtain ⟨-, ⟨fresh, -⟩, apart⟩ := once
  -- the keys differ, so that neither the visits before nor those after it are about the key
  have others : ∀ w ∈ early, w.key ≠ v.key := fun w mem same =>
    apart _ (List.mem_map_of_mem mem) _ List.mem_cons_self same
  have others' : ∀ w ∈ late, w.key ≠ v.key := fun w mem same =>
    fresh (same ▸ List.mem_map_of_mem mem)
  obtain ⟨before, goes, after⟩ := chain.cut
  refine ⟨early, v, late, rfl, rfl, before, goes, after, before.frame others, after.frame others',
    fun d => ?_⟩
  rw [List.flatMap_append, List.flatMap_cons, tries_nil before.goes others,
    tries_nil after.goes others']
  simp

/-- What the only visit of a key does with a module that it does not desire. -/
theorem Sole.handling {visits early late : List Visit} {v : Visit}
    (sole : Sole still listing key s visits early v late t) (neat : s.Neat)
    (undesired : ∀ e ∈ v.desired, e.same d = false) :
    (¬ s.books.Holds key d ∧ ¬ t.books.Holds key d ∧ tries key d v.record = []) ∨
      ∃ e ∈ s.books.claims key, e.same d = true ∧
        Fate (UsedElsewhere listing v.before key) key d e (t.books.claims key)
          (tries key d v.record) := by
  obtain ⟨-, rfl, before, goes, -, claimed, left, -⟩ := sole
  have claims := books_claims_of_get? claimed
  have claims' := books_claims_of_get? left
  have holds : ∀ e, v.before.books.Holds v.key e ↔ s.books.Holds v.key e := by
    simp [Books.Holds, claims]
  have holds' : ∀ e, t.books.Holds v.key e ↔ v.after.books.Holds v.key e := by
    simp [Books.Holds, claims']
  obtain ⟨swept, fetched, kept, served⟩ := goes.served
  have handled := goes.handling (before.neat neat).tidy undesired
  generalize tries v.key d v.record = tried at handled ⊢
  cases handled with
  | absent unheld unheld' =>
    exact .inl ⟨fun h => unheld ((holds d).2 h), fun h => unheld' ((holds' d).1 h), rfl⟩
  | claimed e mem same fate =>
    refine .inr ⟨e, claims ▸ mem, same, ?_⟩
    rw [claims', served.held]
    exact fate

/-- With only one visit of its key, at most one command about a module is published for it. -/
theorem Sole.once {visits early late : List Visit} {v : Visit}
    (sole : Sole still listing key s visits early v late t) (neat : s.Neat)
    (distinct : v.desired.Pairwise fun d e => d.same e = false) (d : Descriptor) :
    (tries key d v.record).length ≤ 1 := by
  rw [← sole.mine]
  exact sole.goes.once (sole.before.neat neat).tidy distinct d

/-- After the only visit of its key a module is still claimed if its uninstall failed. -/
theorem Sole.kept_of_failed {visits early late : List Visit} {v : Visit}
    (sole : Sole still listing key s visits early v late t) (neat : s.Neat) {e : Descriptor}
    (failed : ⟨.uninstall, key, e, false⟩ ∈ tries key d v.record) : e ∈ t.books.claims key := by
  obtain ⟨-, rfl, before, goes, -, -, left, -⟩ := sole
  rw [books_claims_of_get? left]
  exact goes.kept_of_failed (before.neat neat).tidy failed

/-! ## The turns of a key -/

section Turns

variable {first later early late : List Visit} {v : Visit} {middle : Desk} {pod : Pod}

/-- The first visits are those of the listed pods, in the order of the listing. -/
theorem Itinerary.keys (itinerary : Itinerary still listing s first middle later t) :
    first.map Visit.key = listing.map Pod.key := by
  have parts := congrArg (List.map Prod.fst) itinerary.listed
  simpa [Function.comp_def, Visit.errand] using parts

/-- What a visit of a listed pod desires. -/
theorem Itinerary.desired (itinerary : Itinerary still listing s first middle later t)
    (mem : v ∈ first) : ∃ pod ∈ listing, v.key = pod.key ∧ v.desired = pod.desired := by
  have errand : v.errand ∈ first.map Visit.errand := List.mem_map_of_mem mem
  rw [itinerary.listed] at errand
  obtain ⟨pod, here, is⟩ := List.mem_map.1 errand
  obtain ⟨mine, desired⟩ := Prod.mk.inj is
  exact ⟨pod, here, mine.symm, desired.symm⟩

/-- The visit of a listed pod goes by what that pod desires. -/
theorem Itinerary.desired_of_key (itinerary : Itinerary still listing s first middle later t)
    (distinct : Distinct listing) (here : pod ∈ listing) (mem : v ∈ first) (is : v.key = pod.key) :
    v.desired = pod.desired := by
  obtain ⟨other, here', mine, desired⟩ := itinerary.desired mem
  rw [desired, distinct.eq_of_key here' here (mine.symm.trans is)]

/-- A listed pod has a visit of its own. -/
theorem Itinerary.sole (itinerary : Itinerary still listing s first middle later t)
    (distinct : Distinct listing) (here : pod ∈ listing) :
    ∃ early v late, Sole still listing pod.key s first early v late middle ∧
      v.desired = pod.desired := by
  have once : (first.map Visit.key).Nodup := by
    rw [itinerary.keys]
    exact distinct
  have mem : pod.key ∈ first.map Visit.key := by
    rw [itinerary.keys]
    exact List.mem_map_of_mem here
  obtain ⟨early, v, late, sole⟩ := itinerary.chain.sole once mem
  refine ⟨early, v, late, sole, itinerary.desired_of_key distinct here ?_ sole.mine⟩
  simp [sole.split]

/-- What is not used elsewhere when a pod is visited is not used elsewhere in a later turn of its
key. -/
theorem Itinerary.still_unused (itinerary : Itinerary still listing s first middle later t)
    {early' late' : List Visit} {w : Visit}
    (turn : Sole still listing key s first early v late middle)
    (turn' : Sole still listing key middle later early' w late' t)
    (unused : ¬ UsedElsewhere listing v.before key d) : ¬ UsedElsewhere listing w.before key d := by
  have nobody : ∀ u ∈ first, u.key ≠ key → ∀ e ∈ u.desired, e.same d = false := by
    intro u mem ne e wish
    refine Bool.eq_false_iff.2 fun same => unused (.inl (wantedElsewhere_iff.2 ?_))
    obtain ⟨pod, here, mine, desired⟩ := itinerary.desired mem
    rw [desired] at wish
    obtain ⟨alive, -⟩ := Pod.wants_iff.2 ⟨e, wish, same⟩
    refine ⟨pod, here, alive, mine ▸ ne, e, ?_, Descriptor.identity_eq_of_same same⟩
    simpa [Pod.desired, alive] using wish
  rintro (wanted | held)
  · exact unused (.inl wanted)
  · have chain := turn.after.append turn'.before
    have undesired : ∀ u ∈ late ++ early', u.key ≠ key → ∀ e ∈ u.desired, e.same d = false := by
      intro u mem ne
      rcases List.mem_append.1 mem with mem | mem
      · exact nobody u (by simp [turn.split, mem]) ne
      · simp [(itinerary.gone u (by simp [turn'.split, mem])).2]
    have before := chain.heldElsewhere undesired held
    obtain ⟨swept, fetched, kept, served⟩ := turn.goes.served
    refine unused (.inr ((heldElsewhere_of_frame fun other ne => ?_).1 before))
    exact served.frame other (turn.mine ▸ ne)

/-- A key without a living pod has a turn after the listed pods, if it has claims then. -/
theorem Itinerary.second_turn (itinerary : Itinerary still listing s first middle later t)
    (neat : middle.Neat) (gone : Gone listing key) (d : Descriptor) :
    (¬ middle.books.Holds key d ∧ later.flatMap (fun v => tries key d v.record) = []) ∨
      ∃ e ∈ middle.books.claims key, e.same d = true ∧
        ∃ early w late, Sole still listing key middle later early w late t ∧
          Fate (UsedElsewhere listing w.before key) key d e (t.books.claims key)
            (later.flatMap fun v => tries key d v.record) := by
  by_cases mem : key ∈ later.map Visit.key
  · obtain ⟨early, w, late, turn⟩ := itinerary.chain'.sole itinerary.once mem
    have nothing : ∀ e ∈ w.desired, e.same d = false := by
      simp [(itinerary.gone w (by simp [turn.split])).2]
    rw [turn.tried]
    rcases turn.handling neat nothing with ⟨unheld, -, untried⟩ | ⟨e, claimed, same, fate⟩
    · exact .inl ⟨unheld, untried⟩
    · exact .inr ⟨e, claimed, same, early, w, late, turn, fate⟩
  · left
    have unclaimed : middle.ledger.claims.get? key = none := by
      by_contra claimed
      exact mem (itinerary.complete key gone claimed)
    refine ⟨?_, tries_nil itinerary.chain'.goes fun v visited is => ?_⟩
    · rintro ⟨e, claimed, -⟩
      simp [Desk.books, Ledger.claimsOf, unclaimed] at claimed
    · exact mem (is ▸ List.mem_map_of_mem visited)

/-- What is published about a module on behalf of a pod that is being deleted. -/
inductive Dying (key : String) (d : Descriptor) (t : Desk) : List Command → Prop where
  | untried : Dying key d t []
  | delivered (e : Descriptor) : Dying key d t [⟨.uninstall, key, e, true⟩]
  | again (e : Descriptor) (delivered : Bool) (kept : delivered = false → e ∈ t.books.claims key) :
      Dying key d t [⟨.uninstall, key, e, false⟩, ⟨.uninstall, key, e, delivered⟩]

/-- For a pod that is being deleted a pass publishes at most an uninstall, and once more if that
failed. -/
theorem Itinerary.dying {α : Type} {task : Activity α} {a : α}
    (itinerary : Itinerary still listing s first middle later t)
    (tour : Tour still listing task s record (first ++ later) a t) (distinct : Distinct listing)
    (neat : s.Neat) (here : pod ∈ listing) (terminating : pod.isTerminating = true)
    (d : Descriptor) : Dying pod.key d t (tries pod.key d record) := by
  obtain ⟨early, v, late, turn, desired⟩ := itinerary.sole distinct here
  have nothing : ∀ e ∈ v.desired, e.same d = false := by
    simp [desired, Pod.desired, terminating]
  have middle_neat := itinerary.chain.neat neat
  have gone : Gone listing pod.key := by
    intro other here' alive same
    rw [distinct.eq_of_key here' here same, terminating] at alive
    cases alive
  rw [tour.tries, List.flatMap_append, turn.tried]
  have second := itinerary.second_turn middle_neat gone d
  have handled := turn.handling neat nothing
  generalize tries pod.key d v.record = tried at handled ⊢
  generalize later.flatMap (fun v => tries pod.key d v.record) = tried' at second ⊢
  have none_later : ¬ middle.books.Holds pod.key d → tried' = [] := by
    rintro unheld
    rcases second with ⟨-, untried⟩ | ⟨e, claimed, same, -⟩
    · exact untried
    · exact absurd ⟨e, claimed, same⟩ unheld
  rcases handled with ⟨-, unheld, rfl⟩ | ⟨e, -, same, fate⟩
  · rw [none_later unheld]
    exact .untried
  · have unheld_of_gone : (∀ x ∈ middle.books.claims pod.key, x.same d = false) →
        ¬ middle.books.Holds pod.key d := by
      rintro gone ⟨x, claimed, like⟩
      simp [gone x claimed] at like
    cases fate with
    | yielded _ gone =>
      rw [none_later (unheld_of_gone gone)]
      exact .untried
    | uninstalled _ gone =>
      rw [none_later (unheld_of_gone gone)]
      exact .delivered e
    | failed unused kept =>
      rcases second with ⟨unheld, -⟩ | ⟨x, claimed, like, early', w, late', turn', fate'⟩
      · exact absurd ⟨e, kept, same⟩ unheld
      · -- the claim that was left is the only one on the module
        obtain rfl : x = e := middle_neat.tidy.unique claimed kept
          (Descriptor.same_trans like (Descriptor.same_symm same))
        cases fate' with
        | yielded used => exact absurd used (itinerary.still_unused turn turn' unused)
        | uninstalled => exact .again x true (by simp)
        | failed _ kept' => exact .again x false fun _ => kept'

/-- On behalf of a pod that is alive, or of a key that is not listed, a pass publishes at most one
command about a module, and the claim stays if that was an uninstall that failed. -/
theorem Itinerary.living {α : Type} {task : Activity α} {a : α}
    (itinerary : Itinerary still listing s first middle later t)
    (tour : Tour still listing task s record (first ++ later) a t) (distinct : Distinct listing)
    (neat : s.Neat) (alive : ∀ pod ∈ listing, pod.key = key → pod.isTerminating = false)
    (d : Descriptor) :
    ((∀ pod ∈ listing, pod.descriptors.Pairwise fun d e => d.same e = false) →
      (tries key d record).length ≤ 1) ∧
      ∀ e, ⟨.uninstall, key, e, false⟩ ∈ tries key d record → e ∈ t.books.claims key := by
  rw [tour.tries, List.flatMap_append]
  by_cases listed : key ∈ listing.map Pod.key
  · obtain ⟨pod, here, rfl⟩ := List.mem_map.1 listed
    have living := alive pod here rfl
    obtain ⟨early, v, late, turn, desired⟩ := itinerary.sole distinct here
    have others : ∀ w ∈ later, w.key ≠ pod.key := fun w mem same =>
      (itinerary.gone w mem).1 pod here living same.symm
    rw [tries_nil itinerary.chain'.goes others, List.append_nil, turn.tried]
    refine ⟨fun named => turn.once neat ?_ d, fun e failed => ?_⟩
    · rw [desired, Pod.desired, living]
      exact named pod here
    · rw [books_claims_of_get? (itinerary.chain'.frame others)]
      exact turn.kept_of_failed neat failed
  · have others : ∀ v ∈ first, v.key ≠ key := fun v mem same => by
      refine listed ?_
      rw [← itinerary.keys, ← same]
      exact List.mem_map_of_mem mem
    rw [tries_nil itinerary.chain.goes others, List.nil_append]
    by_cases mem : key ∈ later.map Visit.key
    · obtain ⟨early, w, late, turn⟩ := itinerary.chain'.sole itinerary.once mem
      have nothing : w.desired = [] := (itinerary.gone w (by simp [turn.split])).2
      rw [turn.tried]
      have middle_neat := itinerary.chain.neat neat
      exact ⟨fun _ => turn.once middle_neat (by simp [nothing]) d,
        fun e failed => turn.kept_of_failed middle_neat failed⟩
    · have others' : ∀ v ∈ later, v.key ≠ key := fun v visited same =>
        mem (same ▸ List.mem_map_of_mem visited)
      rw [tries_nil itinerary.chain'.goes others']
      simp

end Turns

/-! ## A pass -/

/-- Whether no two containers of a pod have the same name. -/
def DistinctNames (listing : List Pod) : Prop :=
  ∀ pod ∈ listing, (pod.containers.map Kube.Container.name).Nodup

instance (listing : List Pod) : Decidable (DistinctNames listing) :=
  inferInstanceAs (Decidable (∀ pod ∈ listing, List.Nodup _))

/-- Containers with distinct names are distinct modules. -/
theorem DistinctNames.pairwise (named : DistinctNames listing) {pod : Pod} (here : pod ∈ listing) :
    pod.descriptors.Pairwise fun d e => d.same e = false := by
  have names : pod.containers.Pairwise fun c c' => c.name ≠ c'.name :=
    List.pairwise_map.1 (named pod here)
  refine List.pairwise_map.2 (names.imp fun differs => ?_)
  exact Bool.eq_false_iff.2 fun same => differs (Descriptor.same_iff.1 same).1

/-- What a pass publishes about a module on behalf of a key: at most one command, unless a pod of
the key is being deleted, and then at most one uninstall, or two of which the first one failed. -/
structure Attempts (listing : List Pod) (key : String) (d : Descriptor) (tried : List Command) :
    Prop where
  living : (∀ pod ∈ listing, pod.key = key → pod.isTerminating = false) → tried.length ≤ 1
  dying : (∃ pod ∈ listing, pod.key = key ∧ pod.isTerminating = true) →
    tried = [] ∨ (∃ e, tried = [⟨.uninstall, key, e, true⟩]) ∨
      ∃ e delivered, tried = [⟨.uninstall, key, e, false⟩, ⟨.uninstall, key, e, delivered⟩]

/-- Take any run of rounds from an empty ledger on, and a round whose listing has distinct keys and
in each pod distinct names of containers.  For every key and every module, the round publishes at
most one command, unless the pod of the key is listed as being deleted: then an uninstall that
failed is published once more, and nothing else is published twice. -/
theorem attempts_of_pass {first : Desk} {rounds : List Round} {r : Round}
    (begun : first.ledger = .empty) (run : Run first (rounds ++ [r]))
    (listed : r.listing? = some listing) (distinct : Distinct listing)
    (named : DistinctNames listing) (key : String) (d : Descriptor) :
    Attempts listing key d (tries key d r.record) := by
  obtain ⟨run, meanwhile, goes, -⟩ := run_append.1 run
  have neat : r.before.Neat := (run.neat begun).keeps (.of_aside meanwhile)
  obtain ⟨early, middle, late, itinerary, tour⟩ := goes.itinerary listed
  refine ⟨fun alive => ?_, ?_⟩
  · exact (itinerary.living tour distinct neat alive d).1 fun pod here => named.pairwise here
  · rintro ⟨pod, here, rfl, terminating⟩
    have dying := itinerary.dying tour distinct neat here terminating d
    generalize tries pod.key d r.record = tried at dying ⊢
    cases dying with
    | untried => exact .inl rfl
    | delivered e => exact .inr (.inl ⟨e, rfl⟩)
    | again e delivered => exact .inr (.inr ⟨e, delivered, rfl⟩)

/-- A pod with a module is listed, and then it is being deleted while uninstalls fail. -/
def stubborn : List Round :=
  passesOver (Desk.fresh default default)
    [([podOf "p" ["m"]], fun _ => true), ([doomedPod "p" ["m"]], fun verb => verb = .install)]

/-- The passes over the stubborn pod are a run. -/
theorem run_stubborn : Run (Desk.fresh default default) ([stubborn[0]] ++ [stubborn[1]]) := by
  have run : Run (Desk.fresh default default) stubborn := run_passesOver _ _
  exact run

/-- The second pass publishes the uninstall twice. -/
theorem tries_stubborn : tries "default/p" (moduleOf "m") stubborn[1].record =
    [⟨.uninstall, "default/p", moduleOf "m", false⟩,
      ⟨.uninstall, "default/p", moduleOf "m", false⟩] := by
  decide

/-- What both passes publish is as the statement for all passes says. -/
theorem attempts_of_pass_stubborn :
    Attempts [podOf "p" ["m"]] "default/p" (moduleOf "m")
        (tries "default/p" (moduleOf "m") stubborn[0].record) ∧
      Attempts [doomedPod "p" ["m"]] "default/p" (moduleOf "m")
        (tries "default/p" (moduleOf "m") stubborn[1].record) := by
  have run : Run (Desk.fresh default default) ([] ++ [stubborn[0]]) := (run_append.1 run_stubborn).1
  exact ⟨attempts_of_pass rfl run rfl (by decide) (by decide) _ _,
    attempts_of_pass rfl run_stubborn rfl (by decide) (by decide) _ _⟩

/-- So it is not true that a pass publishes at most one command for each key and module. -/
theorem exists_second_attempt :
    ¬ ∀ (first : Desk) (rounds : List Round) (r : Round) (listing : List Pod) (key : String)
      (d : Descriptor), first.ledger = .empty → Run first (rounds ++ [r]) →
      r.listing? = some listing → Distinct listing → DistinctNames listing →
      (tries key d r.record).length ≤ 1 := by
  intro once
  have said := once _ [stubborn[0]] stubborn[1] [doomedPod "p" ["m"]] "default/p" (moduleOf "m") rfl
    run_stubborn rfl (by decide) (by decide)
  rw [tries_stubborn] at said
  exact absurd said (by decide)

end VirtualNode.Controller
