import VirtualNode.Proofs.Ledger.Deletion
import VirtualNode.Proofs.Ledger.Itinerary

/-!
# What a visit does with each claim

A visit sweeps the claims of its key and then fetches what is missing.  `Sweep` and `Fetch` say
module by module which command is published and what is held then; both follow the recursion of the
program and leave open only what the broker answers and what the base reports.

Main statement: `Visit.Goes.served`, from which it follows what becomes of a module that is not
desired (`Visit.Goes.handling`).
-/

set_option autoImplicit false

namespace VirtualNode.Controller

open Biz (Descriptor)
open Dialogue (Course)
open Dialogue.Course (bind_iff state_iff update_iff request_iff done_iff)
open Kube (Pod)

variable {still : Prop} {listing : List Pod} {s t : Desk} {record : List Moment} {key : String}
  {d : Descriptor}

/-! ## What is published about a module -/

/-- Whether a command is about the module and was published on behalf of the key. -/
def Command.concerns (key : String) (d : Descriptor) (c : Command) : Bool :=
  c.key = key && c.target.same d

/-- The commands about a module that were published on behalf of a key, in their order. -/
def tries (key : String) (d : Descriptor) (record : List Moment) : List Command :=
  (record.filterMap Moment.command?).filter (Command.concerns key d)

/-- A command concerns a module of a key if it is for that key and for the same module. -/
theorem Command.concerns_iff {c : Command} :
    c.concerns key d = true ↔ c.key = key ∧ c.target.same d = true := by
  simp [Command.concerns]

/-! ## Sweeping -/

/-- A sweep of claims: those that are desired are kept, and of the others those that are used
elsewhere are given up, and those that are not are uninstalled, or kept if that fails. -/
inductive Sweep (used : Descriptor → Prop) (key : String) (desired : List Descriptor) :
    List Descriptor → List Command → List Descriptor → Prop where
  | nil : Sweep used key desired [] [] []
  | keep {d : Descriptor} {rest held : List Descriptor} {cs : List Command}
      (wished : desired.any (·.same d) = true) (later : Sweep used key desired rest cs held) :
      Sweep used key desired (d :: rest) cs (d :: held)
  | yield {d : Descriptor} {rest held : List Descriptor} {cs : List Command}
      (unwished : desired.any (·.same d) = false) (why : used d)
      (later : Sweep used key desired rest cs held) : Sweep used key desired (d :: rest) cs held
  | uninstall {d : Descriptor} {rest held : List Descriptor} {cs : List Command} (delivered : Bool)
      (unwished : desired.any (·.same d) = false) (unused : ¬ used d)
      (later : Sweep used key desired rest cs held) :
      Sweep used key desired (d :: rest) (⟨.uninstall, key, d, delivered⟩ :: cs)
        (if delivered then held else d :: held)

/-- What other keys use does not depend on the claims of this one. -/
theorem usedElsewhere_of_frame
    (frame : ∀ other, other ≠ key → t.ledger.claims.get? other = s.ledger.claims.get? other) :
    UsedElsewhere listing t key = UsedElsewhere listing s key := by
  funext d
  simp [UsedElsewhere, heldElsewhere_of_frame frame]

/-- A claim that is used elsewhere is given up, and another one is uninstalled if possible. -/
theorem release_ways {gone : Bool}
    (course : Course (Desk.Aside still) (release listing key d) s record gone t) :
    (UsedElsewhere listing s key d ∧ gone = true ∧ record = []) ∨
      (¬ UsedElsewhere listing s key d ∧
        record.filterMap Moment.command? = [⟨.uninstall, key, d, gone⟩]) := by
  obtain ⟨_, s₁, _, late, rfl, looked, course⟩ := bind_iff.1 course
  obtain ⟨rfl, m₁, rfl⟩ := state_iff.1 looked
  rw [← usedElsewhere_of_frame fun other _ => m₁.claims other]
  split at course
  · rename_i used
    obtain ⟨rfl, rfl, rfl⟩ := done_iff.1 course
    rw [Bool.or_eq_true, Ledger.heldElsewhere_iff] at used
    exact .inl ⟨used, rfl, rfl⟩
  · rename_i unused
    rw [Bool.or_eq_true, Ledger.heldElsewhere_iff] at unused
    refine .inr ⟨unused, ?_⟩
    obtain ⟨_, delivered, s₂, _, rfl, published, ended⟩ := bind_iff.1 course
    obtain ⟨moment, rfl, -, is, -⟩ := publishCommand_course published
    cases delivered with
    | false =>
      obtain ⟨rfl, rfl, -⟩ := done_iff.1 ended
      simp [is]
    | true =>
      obtain ⟨_, _, s₃, _, rfl, changed, last⟩ := bind_iff.1 ended
      obtain ⟨rfl, -⟩ := update_iff.1 changed
      obtain ⟨rfl, rfl, -⟩ := done_iff.1 last
      simp [is]

/-- What is swept is as the plan of the sweep has it. -/
theorem releaseUndesired_sweep {desired previous held : List Descriptor}
    (course : Course (Desk.Aside still) (releaseUndesired listing key desired previous) s record
      held t) :
    Sweep (UsedElsewhere listing s key) key desired previous (record.filterMap Moment.command?)
      held := by
  induction previous generalizing s record held with
  | nil =>
    obtain ⟨rfl, rfl, -⟩ := done_iff.1 course
    exact .nil
  | cons d rest ih =>
    obtain ⟨early, kept, s₁, _, rfl, retained, course⟩ := bind_iff.1 course
    obtain ⟨late, held, _, _, rfl, released, ended⟩ := bind_iff.1 course
    obtain ⟨rfl, rfl, rfl⟩ := done_iff.1 ended
    have claims : ∀ other, s₁.ledger.claims.get? other = s.ledger.claims.get? other := fun other =>
      (claims_of_tours retained (retain_within listing key desired d) List.not_mem_nil).1
    have later := ih released
    rw [usedElsewhere_of_frame fun other _ => claims other] at later
    rw [List.append_nil, List.filterMap_append]
    rw [retain] at retained
    split at retained
    · rename_i wished
      obtain ⟨rfl, rfl, -⟩ := done_iff.1 retained
      exact .keep wished later
    · rename_i unwished
      rw [Bool.not_eq_true] at unwished
      obtain ⟨_, gone, _, _, rfl, given_up, ended⟩ := bind_iff.1 retained
      obtain ⟨rfl, rfl, -⟩ := done_iff.1 ended
      rw [List.append_nil]
      rcases release_ways given_up with ⟨used, rfl, rfl⟩ | ⟨unused, command⟩
      · exact .yield unwished used later
      · rw [command]
        have tried := Sweep.uninstall gone unwished unused later
        cases gone <;> exact tried

namespace Sweep

variable {used : Descriptor → Prop} {desired previous held : List Descriptor} {cs : List Command}

/-- What is kept in a sweep was there. -/
theorem sublist (sweep : Sweep used key desired previous cs held) : held.Sublist previous := by
  induction sweep with
  | nil => exact .refl _
  | keep _ _ ih => exact ih.cons_cons _
  | yield _ _ _ ih => exact ih.cons _
  | uninstall delivered _ _ _ ih =>
    cases delivered with
    | true => exact ih.cons _
    | false => exact ih.cons_cons _

/-- Every command of a sweep is the uninstall of a claim that is not desired. -/
theorem command (sweep : Sweep used key desired previous cs held) {c : Command} (mem : c ∈ cs) :
    c.key = key ∧ c.verb = .uninstall ∧ c.target ∈ previous ∧
      desired.any (·.same c.target) = false := by
  induction sweep with
  | nil => simp at mem
  | keep _ _ ih =>
    obtain ⟨mine, verb, claimed, unwished⟩ := ih mem
    exact ⟨mine, verb, List.mem_cons_of_mem _ claimed, unwished⟩
  | yield _ _ _ ih =>
    obtain ⟨mine, verb, claimed, unwished⟩ := ih mem
    exact ⟨mine, verb, List.mem_cons_of_mem _ claimed, unwished⟩
  | uninstall _ unwished _ _ ih =>
    rcases List.mem_cons.1 mem with rfl | mem
    · exact ⟨rfl, rfl, List.mem_cons_self, unwished⟩
    · obtain ⟨mine, verb, claimed, unwished⟩ := ih mem
      exact ⟨mine, verb, List.mem_cons_of_mem _ claimed, unwished⟩

/-- A module that is not claimed is neither uninstalled nor held. -/
theorem unclaimed (sweep : Sweep used key desired previous cs held)
    (lacks : ∀ e ∈ previous, e.same d = false) :
    cs.filter (Command.concerns key d) = [] ∧ ∀ e ∈ held, e.same d = false := by
  refine ⟨List.filter_eq_nil_iff.2 fun c mem concerns => ?_, fun e mem => ?_⟩
  · obtain ⟨-, same⟩ := Command.concerns_iff.1 concerns
    simp [lacks _ (sweep.command mem).2.2.1] at same
  · exact lacks e (sweep.sublist.subset mem)

end Sweep

/-- What becomes of a claim `e` on a module `d` that is not desired: which commands are tried, and
whether the module is held then. -/
inductive Fate (used : Descriptor → Prop) (key : String) (d e : Descriptor) (held : List Descriptor) :
    List Command → Prop where
  | yielded (why : used e) (gone : ∀ x ∈ held, x.same d = false) : Fate used key d e held []
  | uninstalled (unused : ¬ used e) (gone : ∀ x ∈ held, x.same d = false) :
      Fate used key d e held [⟨.uninstall, key, e, true⟩]
  | failed (unused : ¬ used e) (kept : e ∈ held) :
      Fate used key d e held [⟨.uninstall, key, e, false⟩]

section Fate

variable {used : Descriptor → Prop} {desired previous held : List Descriptor}
  {cs tried : List Command} {e x : Descriptor}

/-- The fate of a claim is the same if only other modules are held besides. -/
theorem Fate.subset {held' : List Descriptor} (fate : Fate used key d e held tried)
    (more : held ⊆ held') (others : ∀ x ∈ held', x ∈ held ∨ x.same d = false) :
    Fate used key d e held' tried := by
  have gone' : (∀ x ∈ held, x.same d = false) → ∀ x ∈ held', x.same d = false := by
    intro gone x mem
    rcases others x mem with mem | differs
    · exact gone x mem
    · exact differs
  cases fate with
  | yielded why gone => exact .yielded why (gone' gone)
  | uninstalled unused gone => exact .uninstalled unused (gone' gone)
  | failed unused kept => exact .failed unused (more kept)

/-- The fate of a claim is the same if another module is held besides. -/
theorem Fate.cons (fate : Fate used key d e held tried) (differs : x.same d = false) :
    Fate used key d e (x :: held) tried := by
  cases fate with
  | yielded why gone => exact .yielded why (List.forall_mem_cons.2 ⟨differs, gone⟩)
  | uninstalled unused gone => exact .uninstalled unused (List.forall_mem_cons.2 ⟨differs, gone⟩)
  | failed unused kept => exact .failed unused (List.mem_cons_of_mem _ kept)

/-- A claim that is not desired meets its fate, and is the only one on its module. -/
theorem Sweep.fate (sweep : Sweep used key desired previous cs held)
    (tidy : previous.Pairwise fun d e => d.same e = false) (mem : e ∈ previous)
    (same : e.same d = true) (unwished : desired.any (·.same e) = false) :
    Fate used key d e held (cs.filter (Command.concerns key d)) := by
  have other : ∀ {x : Descriptor} {rest : List Descriptor}, (∀ y ∈ rest, x.same y = false) →
      e ∈ rest → x.same d = false := by
    intro x rest first mem
    rw [← Descriptor.same_congr_right same]
    exact first e mem
  have alone : ∀ {rest : List Descriptor}, (∀ y ∈ rest, e.same y = false) →
      ∀ y ∈ rest, y.same d = false := by
    intro rest first y mem
    rw [← Descriptor.same_congr_right same, Descriptor.same_comm]
    exact first y mem
  -- as the claims are tidy, the commands and claims that come from the others are beside the point
  induction sweep with
  | nil => simp at mem
  | @keep x rest held cs wished later ih =>
    rw [List.pairwise_cons] at tidy
    rcases List.mem_cons.1 mem with rfl | mem
    · simp [wished] at unwished
    · exact (ih tidy.2 mem).cons (other tidy.1 mem)
  | @yield x rest held cs _ why later ih =>
    rw [List.pairwise_cons] at tidy
    rcases List.mem_cons.1 mem with rfl | mem
    · obtain ⟨untried, gone⟩ := later.unclaimed (alone tidy.1)
      rw [untried]
      exact .yielded why gone
    · exact ih tidy.2 mem
  | @uninstall x rest held cs delivered _ unused later ih =>
    rw [List.pairwise_cons] at tidy
    rcases List.mem_cons.1 mem with rfl | mem
    · obtain ⟨untried, gone⟩ := later.unclaimed (alone tidy.1)
      have concerns : Command.concerns key d ⟨.uninstall, key, e, delivered⟩ = true :=
        Command.concerns_iff.2 ⟨rfl, same⟩
      rw [List.filter_cons, if_pos concerns, untried]
      cases delivered with
      | true => exact .uninstalled unused gone
      | false => exact .failed unused List.mem_cons_self
    · have differs := other tidy.1 mem
      have beside : ¬ Command.concerns key d ⟨.uninstall, key, x, delivered⟩ = true := fun concerns => by
        simp [(Command.concerns_iff.1 concerns).2] at differs
      rw [List.filter_cons, if_neg beside]
      cases delivered with
      | true => exact ih tidy.2 mem
      | false => exact (ih tidy.2 mem).cons differs

end Fate

/-! ## Fetching -/

/-- A fetch of what is missing: what is not at hand is taken up as it is, or installed, or left out
if that fails. -/
inductive Fetch (key : String) :
    List Descriptor → List Descriptor → List Command → List Descriptor → Prop where
  | nil (held : List Descriptor) : Fetch key held [] [] held
  | have {d : Descriptor} {held rest result : List Descriptor} {cs : List Command}
      (present : held.any (·.same d) = true) (later : Fetch key held rest cs result) :
      Fetch key held (d :: rest) cs result
  | join {d : Descriptor} {held rest result : List Descriptor} {cs : List Command}
      (absent : held.any (·.same d) = false) (later : Fetch key (held ++ [d]) rest cs result) :
      Fetch key held (d :: rest) cs result
  | install {d : Descriptor} {held rest result : List Descriptor} {cs : List Command}
      (delivered : Bool) (absent : held.any (·.same d) = false)
      (later : Fetch key (if delivered then held ++ [d] else held) rest cs result) :
      Fetch key held (d :: rest) (⟨.install, key, d, delivered⟩ :: cs) result

/-- A module is taken up as it is, if the base reports it or another pod holds it, or else
installed. -/
theorem acquire_ways {stands : Bool}
    (course : Course (Desk.Aside still) (acquire key d) s record stands t) :
    ((t.books.Reports d ∨ t.books.HeldElsewhere key d) ∧ stands = true ∧ record = []) ∨
      record.filterMap Moment.command? = [⟨.install, key, d, stands⟩] := by
  obtain ⟨_, s₁, _, late, rfl, looked, course⟩ := bind_iff.1 course
  obtain ⟨rfl, -, rfl⟩ := state_iff.1 looked
  split at course
  · rename_i present
    rw [Bool.or_eq_true, Inbox.alreadyThere_iff, Ledger.heldElsewhere_iff] at present
    obtain ⟨rfl, rfl, rfl⟩ := done_iff.1 course
    exact .inl ⟨present, rfl, rfl⟩
  · obtain ⟨moment, rfl, -, is, -⟩ := publishCommand_course course
    exact .inr (by simp [is])

/-- What is fetched is as the plan of the fetch has it. -/
theorem acquireMissing_fetch {held missing result : List Descriptor}
    (course : Course (Desk.Aside still) (acquireMissing key held missing) s record result t) :
    Fetch key held missing (record.filterMap Moment.command?) result := by
  induction missing generalizing s record held with
  | nil =>
    obtain ⟨rfl, rfl, -⟩ := done_iff.1 course
    exact .nil _
  | cons d rest ih =>
    rw [acquireMissing] at course
    split at course
    · rename_i present
      exact .have present (ih course)
    · rename_i absent
      rw [Bool.not_eq_true] at absent
      obtain ⟨early, stands, s₁, late, rfl, acquired, course⟩ := bind_iff.1 course
      have later := ih course
      rw [List.filterMap_append]
      rcases acquire_ways acquired with ⟨-, rfl, rfl⟩ | command
      · exact .join absent later
      · rw [command]
        exact .install stands absent later

namespace Fetch

variable {held missing result : List Descriptor} {cs : List Command}

/-- A fetch takes nothing away. -/
theorem subset (fetch : Fetch key held missing cs result) : held ⊆ result := by
  induction fetch with
  | nil => exact List.Subset.refl _
  | «have» _ _ ih => exact ih
  | join _ _ ih => exact List.Subset.trans (List.subset_append_left _ _) ih
  | install delivered _ _ ih =>
    cases delivered with
    | true => exact List.Subset.trans (List.subset_append_left _ _) ih
    | false => exact ih

/-- What is held after a fetch was held or was missing. -/
theorem added (fetch : Fetch key held missing cs result) {e : Descriptor} (mem : e ∈ result) :
    e ∈ held ∨ e ∈ missing := by
  induction fetch with
  | nil => exact .inl mem
  | «have» _ _ ih => exact (ih mem).imp_right (List.mem_cons_of_mem _)
  | join _ _ ih =>
    rcases ih mem with mem | mem
    · rcases List.mem_append.1 mem with mem | mem
      · exact .inl mem
      · exact .inr (List.mem_singleton.1 mem ▸ List.mem_cons_self)
    · exact .inr (List.mem_cons_of_mem _ mem)
  | install delivered _ _ ih =>
    rcases ih mem with mem | mem
    · cases delivered with
      | true =>
        rcases List.mem_append.1 mem with mem | mem
        · exact .inl mem
        · exact .inr (List.mem_singleton.1 mem ▸ List.mem_cons_self)
      | false => exact .inl mem
    · exact .inr (List.mem_cons_of_mem _ mem)

/-- Every command of a fetch is the install of a module that was missing and not at hand. -/
theorem command (fetch : Fetch key held missing cs result) {c : Command} (mem : c ∈ cs) :
    c.key = key ∧ c.verb = .install ∧ c.target ∈ missing ∧ ∀ e ∈ held, e.same c.target = false := by
  induction fetch with
  | nil => simp at mem
  | «have» _ _ ih =>
    obtain ⟨mine, verb, missed, new⟩ := ih mem
    exact ⟨mine, verb, List.mem_cons_of_mem _ missed, new⟩
  | join _ _ ih =>
    obtain ⟨mine, verb, missed, new⟩ := ih mem
    exact ⟨mine, verb, List.mem_cons_of_mem _ missed,
      fun e at_hand => new e (List.mem_append_left _ at_hand)⟩
  | install delivered absent _ ih =>
    rcases List.mem_cons.1 mem with rfl | mem
    · exact ⟨rfl, rfl, List.mem_cons_self, by simpa using absent⟩
    · obtain ⟨mine, verb, missed, new⟩ := ih mem
      refine ⟨mine, verb, List.mem_cons_of_mem _ missed, fun e at_hand => new e ?_⟩
      cases delivered with
      | true => exact List.mem_append_left _ at_hand
      | false => exact at_hand

/-- No module is installed twice, if none is named twice. -/
theorem once (fetch : Fetch key held missing cs result)
    (distinct : missing.Pairwise fun d e => d.same e = false) :
    (cs.filter (Command.concerns key d)).length ≤ 1 := by
  induction fetch with
  | nil => simp
  | «have» _ _ ih => exact ih distinct.of_cons
  | join _ _ ih => exact ih distinct.of_cons
  | @install m _ _ _ _ delivered absent later ih =>
    rw [List.pairwise_cons] at distinct
    rw [List.filter_cons]
    split
    · rename_i concerns
      have same := (Command.concerns_iff.1 concerns).2
      -- whatever is installed later is another module
      have none_later : List.filter (Command.concerns key d) _ = [] :=
        List.filter_eq_nil_iff.2 fun c mem concerns' => by
          obtain ⟨-, -, missed, -⟩ := later.command mem
          have same' := (Command.concerns_iff.1 concerns').2
          rw [← Descriptor.same_congr_right same, Descriptor.same_comm, distinct.1 _ missed] at same'
          cases same'
      rw [none_later]
      exact Nat.le_refl 1
    · exact ih distinct.2

/-- No module is held twice. -/
theorem tidy (fetch : Fetch key held missing cs result)
    (tidy : held.Pairwise fun d e => d.same e = false) :
    result.Pairwise fun d e => d.same e = false := by
  have grown : ∀ {held : List Descriptor} {d : Descriptor}, held.any (·.same d) = false →
      held.Pairwise (fun d e => d.same e = false) →
      (held ++ [d]).Pairwise fun d e => d.same e = false := by
    intro held d absent tidy
    refine List.pairwise_append.2 ⟨tidy, List.pairwise_singleton _ _, ?_⟩
    intro e mem x is
    rw [List.mem_singleton.1 is]
    simpa using List.any_eq_false.1 absent e mem
  induction fetch with
  | nil => exact tidy
  | «have» _ _ ih => exact ih tidy
  | join absent _ ih => exact ih (grown absent tidy)
  | install delivered absent _ ih =>
    cases delivered with
    | true => exact ih (grown absent tidy)
    | false => exact ih tidy

end Fetch

/-! ## A whole visit -/

/-- What a visit does: a sweep of the claims of its key, and then a fetch. -/
structure Visit.Served (listing : List Pod) (v : Visit) (swept fetched : List Command)
    (kept : List Descriptor) : Prop where
  sweep : Sweep (UsedElsewhere listing v.before v.key) v.key v.desired
    (v.before.ledger.claimsOf v.key) swept kept
  fetch : Fetch v.key kept v.desired fetched v.held
  commands : v.record.filterMap Moment.command? = swept ++ fetched
  held : v.after.books.claims v.key = v.held
  occupied : v.after.ledger.claims.get? v.key ≠ some []
  frame : ∀ other, other ≠ v.key →
    v.after.ledger.claims.get? other = v.before.ledger.claims.get? other
  /-- Whenever a command is published the claims of the key are taken out, and the others are there. -/
  amid : ∀ moment ∈ v.record, ∀ other, moment.state.ledger.claims.get? other =
    if other = v.key then none else v.before.ledger.claims.get? other

/-- A visit serves its key: it sweeps, and then it fetches. -/
theorem Visit.Goes.served {v : Visit} (goes : v.Goes still listing) :
    ∃ swept fetched kept, v.Served listing swept fetched kept := by
  obtain ⟨sweep, fetch, stages⟩ := goes.stages
  have swept : Course (Desk.Aside still) sweep.task _ _ _ _ := stages.first.goes
  have fetched : Course (Desk.Aside still) fetch.task _ _ _ _ := stages.second.goes
  rw [stages.sweeping] at swept
  rw [stages.fetching] at fetched
  have swept_claims := fun other => claims_of_tours swept
    (releaseUndesired_within listing v.key v.desired _) (List.not_mem_nil (a := other))
  have fetched_claims := fun other => claims_of_tours fetched
    (acquireMissing_within v.key _ v.desired) (List.not_mem_nil (a := other))
  have first := releaseUndesired_sweep swept
  have others : ∀ other, other ≠ v.key →
      sweep.before.ledger.claims.get? other = v.before.ledger.claims.get? other := by
    intro other ne
    rw [stages.begun, if_neg ne]
  rw [usedElsewhere_of_frame others] at first
  have second := acquireMissing_fetch fetched
  rw [stages.held] at second
  refine ⟨_, _, _, first, second, ?_, ?_, ?_, ?_, ?_⟩
  · rw [stages.record, List.filterMap_append]
  · have put := stages.ended v.key
    rw [if_pos rfl] at put
    by_cases nothing : v.held = []
    · simp [Desk.books, Ledger.claimsOf, put, nothing]
    · simp [Desk.books, Ledger.claimsOf, put, nothing]
  · rw [stages.ended, if_pos rfl]
    split
    · simp
    · rename_i occupied
      simpa using occupied
  · intro other ne
    rw [stages.ended, if_neg ne]
  · intro moment mem other
    rw [← stages.begun]
    rw [stages.record] at mem
    rcases List.mem_append.1 mem with mem | mem
    · exact (swept_claims other).2 moment mem
    · rw [(fetched_claims other).2 moment mem, ← stages.between]
      exact (swept_claims other).1

/-! ## One module in a visit -/

section Visits

variable {v : Visit}

/-- What is desired is not uninstalled. -/
theorem Visit.Served.unswept {swept fetched : List Command} {kept : List Descriptor}
    (served : v.Served listing swept fetched kept)
    (desired : ¬ ∀ e ∈ v.desired, e.same d = false) :
    swept.filter (Command.concerns v.key d) = [] := by
  simp only [not_forall, Bool.not_eq_false] at desired
  obtain ⟨e, wish, same⟩ := desired
  rw [List.filter_eq_nil_iff]
  intro c mem concerns
  have like := (Command.concerns_iff.1 concerns).2
  have unwished := List.any_eq_false.1 (served.sweep.command mem).2.2.2 e wish
  rw [Descriptor.same_congr_right like] at unwished
  exact unwished same

/-- Every command of a visit is published on behalf of its key. -/
theorem Visit.Goes.tries_other (goes : v.Goes still listing) (other : key ≠ v.key) :
    tries key d v.record = [] := by
  obtain ⟨swept, fetched, kept, served⟩ := goes.served
  rw [tries, served.commands, List.filter_eq_nil_iff]
  intro c mem concerns
  obtain ⟨mine, -⟩ := Command.concerns_iff.1 concerns
  rcases List.mem_append.1 mem with mem | mem
  · exact other (mine.symm.trans (served.sweep.command mem).1)
  · exact other (mine.symm.trans (served.fetch.command mem).1)

/-- What becomes in a visit of a module that is not desired. -/
inductive Handling (listing : List Pod) (v : Visit) (d : Descriptor) : List Command → Prop where
  | absent (before : ¬ v.before.books.Holds v.key d) (after : ¬ v.after.books.Holds v.key d) :
      Handling listing v d []
  | claimed {tried : List Command} (e : Descriptor) (mem : e ∈ v.before.ledger.claimsOf v.key)
      (same : e.same d = true)
      (fate : Fate (UsedElsewhere listing v.before v.key) v.key d e v.held tried) :
      Handling listing v d tried

/-- What a visit publishes about a module that is not desired is how a claim is handled. -/
theorem Visit.Goes.handling (goes : v.Goes still listing) (tidy : v.before.books.Tidy)
    (undesired : ∀ e ∈ v.desired, e.same d = false) :
    Handling listing v d (tries v.key d v.record) := by
  obtain ⟨swept, fetched, kept, served⟩ := goes.served
  have untouched : fetched.filter (Command.concerns v.key d) = [] := by
    rw [List.filter_eq_nil_iff]
    intro c mem concerns
    have same := (Command.concerns_iff.1 concerns).2
    simp [undesired _ (served.fetch.command mem).2.2.1] at same
  have others : ∀ x ∈ v.held, x ∈ kept ∨ x.same d = false := by
    intro x mem
    exact (served.fetch.added mem).imp_right (undesired x)
  rw [tries, served.commands, List.filter_append, untouched, List.append_nil]
  by_cases holds : v.before.books.Holds v.key d
  · obtain ⟨e, mem, same⟩ := holds
    have unwished : v.desired.any (·.same e) = false := by
      rw [List.any_eq_false]
      intro x wish
      simp [Descriptor.same_congr_right same, undesired x wish]
    exact .claimed e mem same
      ((served.sweep.fate (tidy v.key) mem same unwished).subset served.fetch.subset others)
  · have lacks : ∀ e ∈ v.before.ledger.claimsOf v.key, e.same d = false := by
      intro e mem
      exact Bool.eq_false_iff.2 fun same => holds ⟨e, mem, same⟩
    obtain ⟨untried, gone⟩ := served.sweep.unclaimed lacks
    rw [untried]
    refine .absent holds ?_
    rintro ⟨x, mem, same⟩
    rw [served.held] at mem
    rcases others x mem with mem | differs
    · simp [gone x mem] at same
    · simp [differs] at same

/-- A visit leaves tidy books tidy. -/
theorem Visit.Goes.tidy (goes : v.Goes still listing) (tidy : v.before.books.Tidy) :
    v.after.books.Tidy := by
  obtain ⟨swept, fetched, kept, served⟩ := goes.served
  intro other
  by_cases is : other = v.key
  · subst is
    rw [served.held]
    exact served.fetch.tidy ((tidy v.key).sublist served.sweep.sublist)
  · rw [books_claims_of_get? (served.frame other is)]
    exact tidy other

/-- A visit leaves no empty entry where there was none. -/
theorem Visit.Goes.occupied (goes : v.Goes still listing)
    (occupied : ∀ other, v.before.ledger.claims.get? other ≠ some []) (other : String) :
    v.after.ledger.claims.get? other ≠ some [] := by
  obtain ⟨swept, fetched, kept, served⟩ := goes.served
  by_cases is : other = v.key
  · rw [is]
    exact served.occupied
  · rw [served.frame other is]
    exact occupied other

/-- A visit publishes at most one command about a module. -/
theorem Visit.Goes.once (goes : v.Goes still listing) (tidy : v.before.books.Tidy)
    (distinct : v.desired.Pairwise fun d e => d.same e = false) (d : Descriptor) :
    (tries v.key d v.record).length ≤ 1 := by
  by_cases undesired : ∀ e ∈ v.desired, e.same d = false
  · have handled := goes.handling tidy undesired
    generalize tries v.key d v.record = tried at handled ⊢
    cases handled with
    | absent => simp
    | claimed e _ _ fate => cases fate <;> simp
  · obtain ⟨swept, fetched, kept, served⟩ := goes.served
    rw [tries, served.commands, List.filter_append, served.unswept undesired, List.nil_append]
    exact served.fetch.once distinct

/-- An uninstall that failed leaves the claim. -/
theorem Visit.Goes.kept_of_failed (goes : v.Goes still listing) (tidy : v.before.books.Tidy)
    {e : Descriptor} (failed : ⟨.uninstall, v.key, e, false⟩ ∈ tries v.key d v.record) :
    e ∈ v.after.books.claims v.key := by
  obtain ⟨swept, fetched, kept, served⟩ := goes.served
  by_cases undesired : ∀ e ∈ v.desired, e.same d = false
  · have handled := goes.handling tidy undesired
    generalize tries v.key d v.record = tried at handled failed
    cases handled with
    | absent => simp at failed
    | claimed x _ _ fate =>
      cases fate with
      | yielded => simp at failed
      | uninstalled => simp at failed
      | failed _ kept =>
        obtain rfl : e = x := by simpa using failed
        rwa [served.held]
  · exfalso
    rw [tries, served.commands, List.filter_append, served.unswept undesired, List.nil_append]
      at failed
    have verb := (served.fetch.command (List.mem_filter.1 failed).1).2.1
    cases verb

end Visits

end VirtualNode.Controller
