import Mathlib.Data.List.Nodup
import VirtualNode.Proofs.Ledger.Visits

/-!
# The survey of a listing

A pass goes through its listing pod by pod, and then through the pods that have claims but are not
listed.  `Surveyed` says what holds when the pods of a first part of the listing have been visited:
a pod that wants a module holds it if a pod that has not been visited yet held it when the pass
began.  That is why a claim that is given up without a command, while nobody else holds the module,
is a surrender (`Surveyed.visitable`).

Main statements: `Surveyed.visit`, the step from one pod to the next, and `Surveyed.installs`, which
says when the first pod that wants a module gets it installed.
-/

set_option autoImplicit false

namespace VirtualNode.Kube

/-- The modules that a pod still wants. -/
def Pod.desired (pod : Pod) : List Biz.Descriptor :=
  if pod.isTerminating then [] else pod.descriptors

/-- A pod wants the modules that it desires. -/
theorem Pod.wants_iff {pod : Pod} {d : Biz.Descriptor} :
    pod.Wants d ↔ ∃ e ∈ pod.desired, e.same d = true := by
  unfold Pod.Wants Pod.desired
  cases pod.isTerminating <;> simp

/-- A pod does not want a module just if it finds it nowhere among those it desires. -/
theorem Pod.not_wants_iff {pod : Pod} {d : Biz.Descriptor} :
    ¬ pod.Wants d ↔ pod.desired.any (·.same d) = false := by
  rw [Pod.wants_iff, ← List.any_eq_true, Bool.not_eq_true]

end VirtualNode.Kube

namespace VirtualNode.Controller

open Biz (Descriptor)
open Kube (Pod)
open Dialogue (Course)
open Dialogue.Course (bind_iff state_iff update_iff request_iff done_iff)

variable {still : Prop} {listing : List Pod} {f s t : Desk} {record : List Moment}

/-! ## Distinct keys -/

/-- Pods of a listing with the same key are the same pod. -/
theorem Distinct.eq_of_key (distinct : Distinct listing) {pod other : Pod} (mem : pod ∈ listing)
    (mem' : other ∈ listing) (h : pod.key = other.key) : pod = other :=
  List.inj_on_of_nodup_map distinct mem mem' h

/-- With distinct keys the pod of a key wants what is wanted under the key. -/
theorem Distinct.wantedBy_iff (distinct : Distinct listing) {pod : Pod} (mem : pod ∈ listing)
    {d : Descriptor} : WantedBy listing pod.key d ↔ pod.Wants d := by
  constructor
  · rintro ⟨other, mem', is, wants⟩
    rwa [← distinct.eq_of_key mem' mem is]
  · intro wants
    exact ⟨pod, mem, rfl, wants⟩

/-- The key of a pod is not among those of the pods before it. -/
theorem Distinct.key_notMem {early late : List Pod} {pod : Pod}
    (distinct : Distinct (early ++ pod :: late)) : pod.key ∉ early.map Pod.key := by
  unfold Distinct at distinct
  rw [List.map_append, List.map_cons, List.nodup_append] at distinct
  intro mem
  exact distinct.2.2 _ mem _ List.mem_cons_self rfl

/-- A key that is not among those up to a pod is not among those before it, nor the pod's. -/
theorem key_notMem_concat {early : List Pod} {pod : Pod} {key : String} :
    key ∉ (early ++ [pod]).map Pod.key ↔ key ∉ early.map Pod.key ∧ key ≠ pod.key := by
  simp only [List.map_append, List.map_cons, List.map_nil, List.mem_append, List.mem_singleton,
    not_or]

/-! ## Visits among other steps -/

/-- A key stays fit for a visit while the claims are kept. -/
theorem Visitable.keeps {start : Books} {key : String} {desired : List Descriptor}
    (before : Visitable listing start key desired s) (keeps : Desk.Keeps still s t) :
    Visitable listing start key desired t := by
  refine ⟨before.undesired, fun d mem unwished wanted alone => ?_⟩
  rw [keeps.claimsOf] at mem
  exact before.surrender d mem unwished wanted fun h => alone (keeps.heldElsewhere.2 h)

/-- Steps that do not matter, and calls that are no commands, may surround a visit. -/
theorem Visited.surround {start : Books} {key : String} {desired : List Descriptor} {s' t' : Desk}
    {calls : List Moment} (visited : Visited still listing start key desired s' record t')
    (before : Desk.Keeps still s s') (after : Desk.Keeps still t' t)
    (others : ∀ moment ∈ calls, moment.command? = none) :
    Visited still listing start key desired s (record ++ calls) t := by
  refine ⟨?_, ?_, ?_, ?_, ?_, ?_⟩
  · have work := visited.account.trans (Account.others others)
    have whole := before.account_books.trans (work.trans after.account_books)
    simpa using whole
  · intro other ne
    rw [after.claims, visited.frame other ne, before.claims]
  · rw [after.claims]
    exact visited.occupied
  · intro d mem
    rw [after.claimsOf] at mem
    refine (visited.kept d mem).imp_right ?_
    rintro ⟨old, unwanted, failed⟩
    rw [before.claimsOf] at old
    exact ⟨old, unwanted, failed_append.2 (.inl failed)⟩
  · intro d mem
    rcases visited.gained d mem with holds | ⟨alone, failed⟩
    · refine .inl ?_
      simpa [Books.Holds, Desk.books, after.claimsOf] using holds
    · exact .inr ⟨fun h => alone (before.heldElsewhere.2 h), failed_append.2 (.inl failed)⟩
  · intro quiet d mem unheld unreported
    refine issues_append.2 (.inl (visited.installs quiet d mem ?_ ?_))
    · exact fun h => unheld (before.held.1 h)
    · exact fun h => unreported ((before.reports quiet).1 h)

/-- A pod that is being deleted is removed after its claims have been released, if none is left. -/
theorem dismissPod_stages {pod : Pod} {a : Unit}
    (course : Course (Desk.Aside still) (dismissPod listing pod) s record a t) :
    ∃ s₁ early gone s₂ late, Desk.Keeps still s s₁ ∧
      Course (Desk.Aside still) (releaseAll listing pod.key) s₁ early gone s₂ ∧
      record = early ++ late ∧ Desk.Keeps still s₂ t ∧
      if gone = true then
        ∃ answer, late = [⟨⟨.deletePod pod.addressSpace pod.addressName, answer⟩, s₂⟩]
      else late = [] := by
  simp only [dismissPod, Activity.change, Dialogue.bind_eq, bind_iff, update_iff] at course
  obtain ⟨_, _, _, _, rfl, ⟨rfl, s₁, m₁, rfl⟩, early, gone, s₂, late, rfl, released, course⟩ :=
    course
  have keeps : Desk.Keeps still s (s₁.updateLedger (·.forgetStatus pod.key)) :=
    (Desk.Keeps.of_aside m₁).trans (.of_eq rfl rfl)
  refine ⟨_, early, gone, s₂, late, keeps, released, rfl, ?_⟩
  cases gone with
  | true =>
    simp only [if_true, deletePod, Activity.call, Dialogue.bind_eq, bind_iff, request_iff,
      Dialogue.pure_eq, done_iff] at course
    obtain ⟨_, answer, s₃, _, rfl, ⟨rfl, m₂⟩, rfl, -, rfl⟩ := course
    exact ⟨.of_aside m₂, answer, rfl⟩
  | false =>
    obtain ⟨rfl, rfl, rfl⟩ := done_iff.1 course
    exact ⟨.refl still t, rfl⟩

/-- To go to a pod that is being deleted brings about a visit that desires nothing. -/
theorem dismissPod_course {pod : Pod} {start : Books} {a : Unit}
    (course : Course (Desk.Aside still) (dismissPod listing pod) s record a t)
    (before : Visitable listing start pod.key [] s) :
    Visited still listing start pod.key [] s record t := by
  obtain ⟨s₁, early, gone, s₂, late, begun, released, rfl, ended, last⟩ := dismissPod_stages course
  have visited : Visited still listing start pod.key [] _ _ _ :=
    (releaseAll_course released (before.keeps begun)).1
  refine visited.surround begun ended ?_
  cases gone with
  | true =>
    obtain ⟨answer, rfl⟩ := last
    exact List.forall_mem_singleton.2 rfl
  | false =>
    obtain rfl := last
    simp

/-! ## What holds in the middle of a pass -/

/-- What holds after the pods of the first part `early` of a listing have been visited, and perhaps
pods that are not listed, in a pass that began at the desk `f`. -/
structure Surveyed (still : Prop) (listing : List Pod) (f : Desk) (early : List Pod)
    (record : List Moment) (s : Desk) : Prop where
  account : Account still listing f.books f.books record s.books
  /-- Other pods have no new claims. -/
  fewer : ∀ key, key ∉ early.map Pod.key → ∀ d ∈ s.ledger.claimsOf key, d ∈ f.ledger.claimsOf key
  /-- Pods that were visited have kept what they want, and what could not be uninstalled. -/
  kept : ∀ pod ∈ early, ∀ d ∈ s.ledger.claimsOf pod.key, pod.Wants d ∨
    (d ∈ f.ledger.claimsOf pod.key ∧ ¬ Wanted listing d ∧ Failed .uninstall d record)
  /-- Pods that were visited hold what they want, and only an install that was needed can have
  failed. -/
  gained : ∀ pod ∈ early, ∀ d, pod.Wants d → s.books.Holds pod.key d ∨
    ((∀ key, key ∉ early.map Pod.key → ¬ f.books.Holds key d) ∧ Failed .install d record)
  occupied : (∀ key, f.ledger.claims.get? key ≠ some []) → ∀ key, s.ledger.claims.get? key ≠ some []

/-- The claims of pods that have not been visited are as they were. -/
def Untouched (f : Desk) (early : List Pod) (s : Desk) : Prop :=
  ∀ key, key ∉ early.map Pod.key → s.ledger.claims.get? key = f.ledger.claims.get? key

/-- Before the first visit nothing is surveyed. -/
theorem Surveyed.begin (still : Prop) (listing : List Pod) (f : Desk) :
    Surveyed still listing f [] [] f :=
  ⟨.refl _, fun _ _ _ => id, by simp, by simp, id⟩

/-- Steps that do not matter, and calls that are no commands, change nothing. -/
theorem Surveyed.idle {early : List Pod} {calls : List Moment}
    (surveyed : Surveyed still listing f early record s) (keeps : Desk.Keeps still s t)
    (others : ∀ moment ∈ calls, moment.command? = none) :
    Surveyed still listing f early (record ++ calls) t := by
  refine ⟨?_, ?_, ?_, ?_, ?_⟩
  · have rest : Account still listing f.books s.books calls t.books := by
      simpa using (Account.others others).trans keeps.account_books
    exact surveyed.account.trans rest
  · simpa [keeps.claimsOf] using surveyed.fewer
  · intro pod mem d held
    rw [keeps.claimsOf] at held
    refine (surveyed.kept pod mem d held).imp_right ?_
    rintro ⟨old, unwanted, failed⟩
    exact ⟨old, unwanted, failed_append.2 (.inl failed)⟩
  · intro pod mem d wants
    rcases surveyed.gained pod mem d wants with holds | ⟨unheld, failed⟩
    · refine .inl ?_
      simpa [Books.Holds, Desk.books, keeps.claimsOf] using holds
    · exact .inr ⟨unheld, failed_append.2 (.inl failed)⟩
  · simpa [keeps.claims] using surveyed.occupied

/-- The survey lasts while the claims are kept. -/
theorem Surveyed.keeps {early : List Pod} (surveyed : Surveyed still listing f early record s)
    (keeps : Desk.Keeps still s t) : Surveyed still listing f early record t := by
  have same : Surveyed still listing f early (record ++ []) t := surveyed.idle keeps (by simp)
  rwa [List.append_nil] at same

/-- What is untouched stays so while the claims are kept. -/
theorem Untouched.keeps {early : List Pod} (untouched : Untouched f early s)
    (keeps : Desk.Keeps still s t) : Untouched f early t :=
  fun key notMem => (keeps.claims key).trans (untouched key notMem)

/-- A pod that is still to be visited holds what it held before the pass. -/
theorem Untouched.holds_iff {early : List Pod} (untouched : Untouched f early s) {key : String}
    (notMem : key ∉ early.map Pod.key) {d : Descriptor} :
    s.books.Holds key d ↔ f.books.Holds key d := by
  simp [Books.Holds, Desk.books, Ledger.claimsOf, untouched key notMem]

/-! ## Listed pods -/

section Listed

variable {early late : List Pod} {pod : Pod} {calls : List Moment}

/-- What a pod of the listing gives up without a command, while nobody else holds it, is
surrendered. -/
theorem Surveyed.visitable (surveyed : Surveyed still listing f early record s)
    (untouched : Untouched f early s) (distinct : Distinct listing)
    (split : listing = early ++ pod :: late) :
    Visitable listing f.books pod.key pod.desired s := by
  have here : pod ∈ listing := by simp [split]
  have notMem : pod.key ∉ early.map Pod.key := by
    subst split
    exact distinct.key_notMem
  refine ⟨fun d unwished => ?_, fun d mem unwished elsewhere alone => ?_⟩
  · rw [distinct.wantedBy_iff here]
    exact Pod.not_wants_iff.2 unwished
  have refuses : ¬ pod.Wants d := Pod.not_wants_iff.2 unwished
  have held : f.books.Holds pod.key d :=
    (untouched.holds_iff notMem).1 ⟨d, mem, Descriptor.same_self d⟩
  by_cases wanted : Wanted listing d
  · -- whoever wants the module comes later, and whoever held it has been visited
    refine .inl ⟨⟨pod.key, held⟩, wanted, ?_⟩
    intro key holds before taker after split' wants
    have waits : taker ∉ early := by
      intro visited
      rcases surveyed.gained taker visited d wants with now | ⟨unheld, -⟩
      · refine alone ⟨taker.key, ?_, now⟩
        intro same
        exact notMem (same ▸ List.mem_map_of_mem visited)
      · exact unheld pod.key notMem held
    have other : taker ≠ pod := by
      rintro rfl
      exact refuses wants
    rw [split] at split'
    obtain ⟨mid, rfl⟩ : ∃ mid, before = early ++ pod :: mid := by
      rcases List.append_eq_append_iff.1 split' with ⟨mid, rfl, rest⟩ | ⟨mid, rfl, rest⟩
      · cases mid with
        | nil => exact absurd (List.cons_eq_cons.1 rest).1.symm other
        | cons head mid => exact ⟨mid, by rw [(List.cons_eq_cons.1 rest).1]⟩
      · cases mid with
        | nil => exact absurd (List.cons_eq_cons.1 rest).1 other
        | cons head mid =>
          rw [List.cons_append, List.cons_eq_cons] at rest
          exact absurd (by simp [rest.1]) waits
    by_contra unvisited
    simp only [List.map_append, List.map_cons, List.mem_append, List.mem_cons, not_or]
      at unvisited
    exact alone ⟨key, unvisited.2.1, (untouched.holds_iff unvisited.1).2 holds⟩
  · refine .inr ⟨wanted, pod.key, held, ?_⟩
    exact wantedElsewhere_iff.1 elsewhere

/-- A visit takes the survey one pod further. -/
theorem Surveyed.visit (surveyed : Surveyed still listing f early record s)
    (untouched : Untouched f early s) (notMem : pod.key ∉ early.map Pod.key)
    (visited : Visited still listing f.books pod.key pod.desired s calls t) :
    Surveyed still listing f (early ++ [pod]) (record ++ calls) t := by
  have claimsOf : ∀ key, key ≠ pod.key → t.ledger.claimsOf key = s.ledger.claimsOf key := by
    intro key ne
    simp [Ledger.claimsOf, visited.frame key ne]
  have visitedBefore : ∀ other ∈ early, other.key ≠ pod.key := by
    intro other mem same
    exact notMem (same ▸ List.mem_map_of_mem mem)
  have mine : s.ledger.claimsOf pod.key = f.ledger.claimsOf pod.key := by
    simp [Ledger.claimsOf, untouched pod.key notMem]
  refine ⟨surveyed.account.trans visited.account, ?_, ?_, ?_, ?_⟩
  · intro key unvisited d mem
    rw [key_notMem_concat] at unvisited
    rw [claimsOf key unvisited.2] at mem
    exact surveyed.fewer key unvisited.1 d mem
  · intro other mem d held
    rcases List.mem_append.1 mem with mem | mem
    · rw [claimsOf _ (visitedBefore other mem)] at held
      refine (surveyed.kept other mem d held).imp_right ?_
      rintro ⟨old, unwanted, failed⟩
      exact ⟨old, unwanted, failed_append.2 (.inl failed)⟩
    · rw [List.mem_singleton] at mem
      subst mem
      rcases visited.kept d held with wish | ⟨old, unwanted, failed⟩
      · exact .inl (Pod.wants_iff.2 wish)
      · exact .inr ⟨mine ▸ old, unwanted, failed_append.2 (.inr failed)⟩
  · intro other mem d wants
    rcases List.mem_append.1 mem with mem | mem
    · rcases surveyed.gained other mem d wants with ⟨e, held, same⟩ | ⟨unheld, failed⟩
      · refine .inl ⟨e, ?_, same⟩
        have same_claims := claimsOf _ (visitedBefore other mem)
        simpa [Desk.books, same_claims] using held
      · refine .inr ⟨fun key unvisited => ?_, failed_append.2 (.inl failed)⟩
        exact unheld key (key_notMem_concat.1 unvisited).1
    · rw [List.mem_singleton] at mem
      subst mem
      obtain ⟨e, wish, same⟩ := Pod.wants_iff.1 wants
      rcases visited.gained e wish with holds | ⟨alone, failed⟩
      · exact .inl (holds.congr same)
      · refine .inr ⟨fun key unvisited holds => ?_, failed_append.2 (.inr (failed.congr same))⟩
        -- a holder not visited yet is one that the visit saw from the start
        rw [key_notMem_concat] at unvisited
        have still_held := (untouched.holds_iff unvisited.1).2 holds
        exact alone ⟨key, unvisited.2, still_held.congr (Descriptor.same_symm same)⟩
  · intro occupied key
    by_cases is : key = pod.key
    · rw [is]
      exact visited.occupied
    · rw [visited.frame key is]
      exact surveyed.occupied occupied key

/-- A visit touches the claims of its own pod alone. -/
theorem Untouched.visit (untouched : Untouched f early s)
    (visited : Visited still listing f.books pod.key pod.desired s calls t) :
    Untouched f (early ++ [pod]) t := by
  intro key unvisited
  rw [key_notMem_concat] at unvisited
  rw [visited.frame key unvisited.2]
  exact untouched key unvisited.1

/-- When the first pod that wants a module is visited, and all pods that held it came before, the
module is installed. -/
theorem Surveyed.installs (surveyed : Surveyed still listing f early record s)
    (untouched : Untouched f early s) (split : listing = early ++ pod :: late)
    (visited : Visited still listing f.books pod.key pod.desired s calls t) (quiet : still)
    {d : Descriptor} (first : ∀ other ∈ early, ¬ other.Wants d) (wants : pod.Wants d)
    (holders : HoldersFirst listing f.books d) (unreported : ¬ f.books.Reports d) :
    Issues .install d calls := by
  obtain ⟨e, wish, same⟩ := Pod.wants_iff.1 wants
  have unheld : ¬ s.books.Held e := by
    rintro ⟨key, x, held, like⟩
    by_cases mem : key ∈ early.map Pod.key
    · obtain ⟨other, earlier, rfl⟩ := List.mem_map.1 mem
      have wanted : Wanted listing x :=
        ⟨pod, by simp [split], wants.congr (Descriptor.same_symm (Descriptor.same_trans like same))⟩
      rcases surveyed.kept other earlier x held with wants' | ⟨-, unwanted, -⟩
      · exact first other earlier (wants'.congr (Descriptor.same_trans like same))
      · exact unwanted wanted
    · have holds := (untouched.holds_iff mem).1 ⟨x, held, Descriptor.same_trans like same⟩
      exact mem (holders key holds early pod late split wants)
  have silent : ¬ s.books.Reports e := fun reports =>
    unreported ((surveyed.account.reports quiet reports).congr same)
  exact (visited.installs quiet e wish unheld silent).congr same

end Listed

end VirtualNode.Controller
