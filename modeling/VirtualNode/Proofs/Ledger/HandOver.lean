import Mathlib.Data.List.Induction
import VirtualNode.Proofs.Ledger.Once
import VirtualNode.Proofs.Ledger.Passes

/-!
# Modules that change hands

A pod that lets go of a module keeps quiet if another pod of the listing wants it.  If nobody else
holds the module then, nothing in the ledger tells any more that it is installed: the round has
surrendered it.  The next pod that wants it may install it again, and if that fails, and the pod
goes away, nobody will ever uninstall it.

Surrenders are the only cause of both, and unless the base reports the module they always have this
effect.  Main statements: a module whose last acknowledged command was an install is held, or
wanted, or a round has let go of it in vain (`orphaned_by_letting_go`); a module is installed twice
in a row only if the round that installs it again hands it over, or an earlier round has let go of
it in vain (`reinstalled_by_letting_go`).
-/

set_option autoImplicit false

namespace VirtualNode.Controller

open Biz (Descriptor)
open Kube (Pod)

/-! ## The last command -/

/-- The command about a module that was acknowledged at a moment. -/
def Moment.acknowledged? (d : Descriptor) (moment : Moment) : Option Verb :=
  (command? moment).bind fun c => if c.target.same d && c.delivered then some c.verb else none

/-- The verb of a moment is that of the command about the module which it delivers, if it delivers
one. -/
theorem Moment.acknowledged?_eq_some {d : Descriptor} {moment : Moment} {verb : Verb} :
    acknowledged? d moment = some verb ↔ delivers verb d moment = true := by
  unfold acknowledged? delivers
  cases command? moment with
  | none => simp
  | some c =>
    by_cases h : c.target.same d = true ∧ c.delivered = true
    · simp [h.1, h.2]
    · rw [not_and] at h
      simp only [Option.bind_some, Option.any_some, Bool.and_eq_true, decide_eq_true_eq]
      constructor
      · intro is
        split at is
        · rename_i both
          exact absurd both.2 (h both.1)
        · cases is
      · rintro ⟨⟨-, same⟩, delivered⟩
        exact absurd delivered (h same)

/-- The last acknowledged command about a module. -/
def lastVerb (d : Descriptor) (record : List Moment) : Option Verb :=
  record.reverse.findSome? (Moment.acknowledged? d)

/-- The last command is that of the later record, if there is any. -/
@[simp]
theorem lastVerb_append (d : Descriptor) (early late : List Moment) :
    lastVerb d (early ++ late) = (lastVerb d late).or (lastVerb d early) := by
  simp [lastVerb, List.findSome?_append]

/-- There is no last command just if none was acknowledged. -/
theorem lastVerb_eq_none_iff {d : Descriptor} {record : List Moment} :
    lastVerb d record = none ↔ ∀ moment ∈ record, Moment.acknowledged? d moment = none := by
  simp [lastVerb]

/-- The last command is one after which no other was acknowledged. -/
theorem lastVerb_eq_some_iff {d : Descriptor} {record : List Moment} {verb : Verb} :
    lastVerb d record = some verb ↔ ∃ early moment late, record = early ++ moment :: late ∧
      Moment.acknowledged? d moment = some verb ∧ lastVerb d late = none := by
  constructor
  · intro h
    obtain ⟨late, moment, early, whole, is, none_later⟩ := List.findSome?_eq_some_iff.1 h
    refine ⟨early.reverse, moment, late.reverse, ?_, is, ?_⟩
    · rw [← List.reverse_reverse record, whole]
      simp
    · simpa [lastVerb] using none_later
  · rintro ⟨early, moment, late, rfl, is, none_later⟩
    have one : lastVerb d (moment :: late) = some verb := by
      have cut : moment :: late = [moment] ++ late := rfl
      rw [cut, lastVerb_append, none_later]
      simp [lastVerb, is]
    rw [lastVerb_append, one]
    rfl

/-- A record without a last command delivers none. -/
theorem not_delivers_of_lastVerb {d : Descriptor} {record : List Moment}
    (h : lastVerb d record = none) (verb : Verb) :
    ∀ moment ∈ record, moment.delivers verb d = false := by
  intro moment mem
  rw [Bool.eq_false_iff, ne_eq, ← Moment.acknowledged?_eq_some, lastVerb_eq_none_iff.1 h moment mem]
  simp

/-! ## Modules that nobody takes up -/

section Unheld

variable {still : Prop} {listing : List Pod} {start b b' c : Books} {record : List Moment}
  {moment : Moment} {d : Descriptor}

/-- A module that nobody holds and that is not reported is not taken up without a call. -/
theorem Tacit.not_taken (entry : Tacit still listing start b b') (unreported : ¬ b.Reports d)
    (unheld : ¬ b.Held d) : ¬ b'.Held d := by
  rintro ⟨other, holds⟩
  cases entry with
  | news => exact unheld ⟨other, holds⟩
  | yield key e left right split =>
    exact unheld ⟨other, Books.holds_of_holds_removed split holds⟩
  | join key e wanted new why =>
    rcases Books.holds_added.1 holds with old | ⟨-, same⟩
    · exact unheld ⟨other, old⟩
    · rcases why with reported | elsewhere
      · exact unreported (reported.congr same)
      · exact unheld (elsewhere.congr same).held

/-- A module that nobody holds is taken up with a call only if that is its install. -/
theorem Noted.not_taken (entry : Noted listing b moment b')
    (uninstalled : moment.delivers .install d = false) (unheld : ¬ b.Held d) : ¬ b'.Held d := by
  rintro ⟨other, holds⟩
  cases entry with
  | install key e delivered is =>
    cases delivered with
    | false => exact unheld ⟨other, holds⟩
    | true =>
      rcases Books.holds_added.1 holds with old | ⟨-, same⟩
      · exact unheld ⟨other, old⟩
      · rw [Moment.delivers_iff.2 ⟨key, e, is, same⟩] at uninstalled
        cases uninstalled
  | uninstall key e left right delivered is split =>
    cases delivered with
    | false => exact unheld ⟨other, holds⟩
    | true => exact unheld ⟨other, Books.holds_of_holds_removed split holds⟩
  | other => exact unheld ⟨other, holds⟩

/-- A module that nobody holds and nobody reports on stays so until an install of it is
acknowledged. -/
theorem Account.not_taken (account : Account still listing start b record c) (quiet : still)
    (unreported : ¬ b.Reports d)
    (uninstalled : ∀ moment ∈ record, moment.delivers .install d = false) (unheld : ¬ b.Held d) :
    ¬ c.Held d := by
  induction account with
  | refl => exact unheld
  | tacit entry _ ih =>
    have silent := fun reported => unreported ((Account.single entry).reports quiet reported)
    exact ih silent uninstalled (entry.not_taken unreported unheld)
  | noted entry _ ih =>
    rw [List.forall_mem_cons] at uninstalled
    have one : Account still listing start _ [_] _ := .one entry
    have silent := fun reported => unreported (one.reports quiet reported)
    exact ih silent uninstalled.2 (entry.not_taken uninstalled.1 unheld)

/-- A module for which an install was published in vain is held by nobody, for it is published only
when nobody holds the module. -/
theorem Account.not_taken_of_issued (account : Account still listing start b record c)
    (quiet : still) (unreported : ¬ b.Reports d)
    (uninstalled : ∀ moment ∈ record, moment.delivers .install d = false)
    (issued : Issues .install d record) : ¬ c.Held d := by
  obtain ⟨moment, mem, issues⟩ := issued
  obtain ⟨key, target, delivered, is, same⟩ := Moment.issues_iff.1 issues
  obtain ⟨early, late, rfl⟩ := List.append_of_mem mem
  obtain ⟨x, y, before, entry, after⟩ := account.split
  obtain ⟨-, unclaimed, -⟩ := entry.of_install is
  have unheld : ¬ x.Held d := fun held => unclaimed (held.congr (Descriptor.same_symm same))
  have silent : ¬ y.Reports d := fun reported =>
    unreported ((before.trans (.one entry)).reports quiet reported)
  refine after.not_taken quiet silent (fun moment mem => uninstalled moment (by simp [mem])) ?_
  exact entry.not_taken (uninstalled moment (by simp)) unheld

end Unheld

/-! ## Modules that nobody holds any more -/

/-- The base does not report the module when a round begins, and nobody reports on modules during
the round. -/
structure Unreported (d : Descriptor) (r : Round) : Prop where
  goes : r.Goes True
  silent : ¬ r.before.books.Reports d

/-- A round has let go of the module in vain: it has handed it over, and the install failed, or it
has taken it for another one. -/
def LetGo (d : Descriptor) (r : Round) : Prop :=
  (HandsOver r.listing r.before.books d ∧ Failed .install d r.record) ∨
    Confuses r.listing r.before.books d

/-- A round has let go of the module in vain, no command about it was acknowledged in that round or
since then, and none of these rounds has left it held. -/
def Abandoned (d : Descriptor) (rounds : List Round) : Prop :=
  ∃ early r late, rounds = early ++ r :: late ∧ LetGo d r ∧
    lastVerb d (history (r :: late)) = none ∧ ∀ later ∈ r :: late, ¬ later.after.books.Held d

/-- What is abandoned stays so in a round that neither acknowledges a command about it nor leaves it
held. -/
theorem Abandoned.extend {d : Descriptor} {rounds : List Round} {r : Round}
    (h : Abandoned d rounds) (nothing : lastVerb d r.record = none)
    (unheld : ¬ r.after.books.Held d) : Abandoned d (rounds ++ [r]) := by
  obtain ⟨early, q, late, rfl, let_go, none_since, unheld_since⟩ := h
  refine ⟨early, q, late ++ [r], by simp, let_go, ?_, ?_⟩
  · rw [← List.cons_append, history_append, lastVerb_append, none_since]
    simpa using nothing
  · rw [← List.cons_append, List.forall_mem_append]
    exact ⟨unheld_since, by simpa using unheld⟩

/-- Nobody holds an abandoned module. -/
theorem Abandoned.not_held {first : Desk} {d : Descriptor} {rounds : List Round}
    (h : Abandoned d rounds) : ¬ (lastDesk first rounds).books.Held d := by
  obtain ⟨early, q, late, rfl, -, -, unheld⟩ := h
  rw [lastDesk_append]
  rcases List.eq_nil_or_concat late with rfl | ⟨late, last, rfl⟩
  · exact unheld q (by simp)
  · have split : q :: late.concat last = (q :: late) ++ [last] := by simp
    rw [split, lastDesk_concat]
    exact unheld last (by simp)

/-- Nobody holds a module after a round that lets go of it in vain while nobody reports it, unless
an uninstall of it has failed. -/
theorem LetGo.not_held {d : Descriptor} {r : Round} (let_go : LetGo d r)
    (unreported : Unreported d r) (distinct : Distinct r.listing)
    (kept : ¬ Failed .uninstall d r.record) (nothing : lastVerb d r.record = none) :
    ¬ r.after.books.Held d := by
  obtain ⟨goes, silent⟩ := unreported
  rcases let_go with ⟨hands, -⟩ | confuses
  · have passed := goes.passed_of_wanted distinct hands.wanted
    exact passed.account.not_taken_of_issued trivial silent
      (not_delivers_of_lastVerb nothing .install)
      (passed.installs trivial d hands.wanted hands.late silent)
  · rintro ⟨key, e, mem, same⟩
    obtain ⟨-, -, pod, listed, -⟩ := confuses.alike
    rcases (goes.passed_of_mem distinct listed).kept key e mem with wanted | ⟨-, failed⟩
    · exact confuses.unwanted (wanted.congr same).wanted
    · exact kept (failed.congr same)

/-- A module that nobody holds stays so through rounds in which it is neither reported nor
installed. -/
theorem Run.not_held {first : Desk} {rounds : List Round} {d : Descriptor} (run : Run first rounds)
    (distinct : ∀ r ∈ rounds, Distinct r.listing) (unreported : ∀ r ∈ rounds, Unreported d r)
    (nothing : lastVerb d (history rounds) = none) (unheld : ¬ first.books.Held d) :
    ¬ (lastDesk first rounds).books.Held d := by
  refine run.invariant (P := fun s => ¬ s.books.Held d) unheld ?_ ?_
  · exact fun s t aside unheld held => unheld ((Desk.Keeps.of_aside aside).held.1 held)
  · intro r mem _ unheld
    obtain ⟨goes, silent⟩ := unreported r mem
    refine (goes.account (distinct r mem)).not_taken trivial silent (fun moment called => ?_) unheld
    exact not_delivers_of_lastVerb nothing .install moment (List.mem_flatMap_of_mem mem called)

/-- A module whose last acknowledged command was an install is held, or it was surrendered. -/
theorem held_or_abandoned {first : Desk} {rounds : List Round} {d : Descriptor}
    (run : Run first rounds) (distinct : ∀ r ∈ rounds, Distinct r.listing)
    (installed : lastVerb d (history rounds) = some .install) :
    (lastDesk first rounds).books.Held d ∨ Abandoned d rounds := by
  induction rounds using List.reverseRecOn with
  | nil => cases installed
  | append_singleton earlier r ih =>
    rw [run_append] at run
    rw [List.forall_mem_append] at distinct
    obtain ⟨run, aside, goes, -⟩ := run
    have unique : Distinct r.listing := distinct.2 r (by simp)
    have account := goes.account unique
    rw [lastDesk_concat]
    rw [history_append, lastVerb_append, history_cons, history_nil, List.append_nil] at installed
    -- whether the last acknowledged command for the module fell into this last round
    cases recent : lastVerb d r.record with
    | some verb =>
      rw [recent, Option.some_or, Option.some.injEq] at installed
      subst installed
      obtain ⟨pre, moment, post, record, is, -⟩ := lastVerb_eq_some_iff.1 recent
      have mem : moment ∈ r.record := by simp [record]
      exact .inl (account.held_of_installed mem (Moment.acknowledged?_eq_some.1 is))
    | none =>
      rw [recent, Option.none_or] at installed
      by_cases unheld : r.after.books.Held d
      · exact .inl unheld
      refine .inr ?_
      rcases ih run distinct.1 installed with held | abandoned
      · -- the claim was there when this round began and nothing answers for its loss
        have begun : r.before.books.Held d := (Desk.Keeps.of_aside aside).held.2 held
        refine ⟨earlier, r, [], rfl, ?_, by simpa using recent, by simpa using unheld⟩
        have surrenders : Surrenders r.listing r.before.books d := by
          by_contra kept
          exact unheld (account.held kept (not_delivers_of_lastVerb recent .uninstall) begun)
        refine surrenders.imp_left fun hands => ⟨hands, ?_⟩
        obtain ⟨pod, here, wants⟩ := hands.wanted
        have taker : WantedBy r.listing pod.key d := ⟨pod, here, rfl, wants⟩
        have passed := goes.passed_of_wanted unique hands.wanted
        exact (passed.gained pod.key d taker).resolve_left fun holds => unheld ⟨_, holds⟩
      · exact abandoned.extend recent unheld

/-- After any rounds over listings with distinct keys, a module whose last acknowledged command was
an install is neither held nor wanted only if a round has let go of it in vain and no round since
then has left it held.  And if a round lets go of a module in vain, and no uninstall of it fails
then, and from then on the module is neither reported nor the matter of an acknowledged command,
then it is neither held nor wanted at the end of every round whose listing does not want it. -/
theorem orphaned_by_letting_go {first : Desk} {rounds : List Round} {r : Round} {d : Descriptor}
    (run : Run first (rounds ++ [r])) (distinct : ∀ q ∈ rounds ++ [r], Distinct q.listing)
    (installed : lastVerb d (history (rounds ++ [r])) = some .install) :
    (¬ (r.after.books.Held d ∨ Wanted r.listing d) →
      ¬ Wanted r.listing d ∧ Abandoned d (rounds ++ [r])) ∧
    ∀ early q late, rounds ++ [r] = early ++ q :: late → LetGo d q →
      ¬ Failed .uninstall d q.record → lastVerb d (history (q :: late)) = none →
      (∀ x ∈ q :: late, Unreported d x) → ¬ Wanted r.listing d →
        ¬ (r.after.books.Held d ∨ Wanted r.listing d) := by
  constructor
  · intro orphaned
    rw [not_or] at orphaned
    have known := held_or_abandoned run distinct installed
    rw [lastDesk_concat] at known
    exact ⟨orphaned.2, known.resolve_left orphaned.1⟩
  · intro early q late whole let_go kept nothing unreported unwanted
    rw [not_or]
    refine ⟨?_, unwanted⟩
    rw [← lastDesk_concat first rounds r, whole, lastDesk_append]
    rw [whole, run_append] at run
    rw [whole, List.forall_mem_append, List.forall_mem_cons] at distinct
    rw [List.forall_mem_cons] at unreported
    rw [history_cons, lastVerb_append, Option.or_eq_none_iff] at nothing
    obtain ⟨-, -, -, later⟩ := run
    exact later.not_held distinct.2.2 unreported.2 nothing.1
      (let_go.not_held unreported.1 distinct.2.1 kept nothing.2)

/-- A pod that wants a module is listed after the one that holds it and gives it up. -/
theorem handsOver_of_entries {s : Desk}
    (ledger : s.ledger.claims.entries = [("default/a", [moduleOf "m"])]) :
    HandsOver [podOf "a" [], podOf "b" ["m"]] s.books (moduleOf "m") := by
  have found : s.ledger.claims.get? "default/a" = some [moduleOf "m"] := by
    rw [Table.get?_eq_some_iff, ledger]
    exact List.mem_singleton_self _
  refine ⟨⟨"default/a", moduleOf "m", ?_, by decide⟩, by decide, ?_⟩
  · simp [Desk.books, Ledger.claimsOf, found]
  intro key holds early pod late split wants
  have only : key = "default/a" := by
    obtain ⟨e, mem, -⟩ := holds
    cases is : s.ledger.claims.get? key with
    | none => simp [Desk.books, Ledger.claimsOf, is] at mem
    | some held =>
      rw [Table.get?_eq_some_iff, ledger, List.mem_singleton] at is
      exact congrArg Prod.fst is
  subst only
  cases early with
  | nil =>
    obtain ⟨rfl, -⟩ := List.cons_eq_cons.1 split
    exact absurd wants (by decide)
  | cons head early =>
    obtain ⟨rfl, -⟩ := List.cons_eq_cons.1 split
    simp [podOf, Pod.key]

/-- A pod takes over a module from one that is listed before it; the install fails; the pod goes
away. -/
def takeOverInVain : List Round :=
  passesOver (Desk.fresh default default)
    [([podOf "a" ["m"]], fun _ => true), ([podOf "a" [], podOf "b" ["m"]], (· = .uninstall)),
      ([], fun _ => true)]

/-- The passes in which the module is taken over in vain are a run. -/
theorem run_takeOverInVain :
    Run (Desk.fresh default default) (takeOverInVain.take 2 ++ [takeOverInVain[2]]) := by
  have run : Run (Desk.fresh default default) takeOverInVain := run_passesOver _ _
  exact run

/-- Nobody reports on modules in rehearsed passes. -/
theorem unreported_takeOverInVain :
    ∀ x ∈ [takeOverInVain[1], takeOverInVain[2]], Unreported (moduleOf "m") x := by
  intro x mem
  simp only [List.mem_cons, List.not_mem_nil, or_false] at mem
  rcases mem with rfl | rfl
  · exact ⟨Round.goes_rehearsed _ _ _ _, fun ⟨seen, is, _⟩ => nomatch is⟩
  · exact ⟨Round.goes_rehearsed _ _ _ _, fun ⟨seen, is, _⟩ => nomatch is⟩

/-- The second pass lets go of the module in vain, so that nobody ever uninstalls it. -/
theorem orphaned_in_vain :
    (LetGo (moduleOf "m") takeOverInVain[1] ∧
      lastVerb (moduleOf "m") (history (takeOverInVain.take 2 ++ [takeOverInVain[2]])) =
        some .install) ∧
    ¬ (takeOverInVain[2].after.books.Held (moduleOf "m") ∨
        Wanted takeOverInVain[2].listing (moduleOf "m")) ∧
      Abandoned (moduleOf "m") (takeOverInVain.take 2 ++ [takeOverInVain[2]]) := by
  have distinct : ∀ q ∈ takeOverInVain.take 2 ++ [takeOverInVain[2]], Distinct q.listing := by
    decide
  have installed : lastVerb (moduleOf "m") (history (takeOverInVain.take 2 ++ [takeOverInVain[2]])) =
      some .install := by decide
  have failed : Failed .install (moduleOf "m") takeOverInVain[1].record := by decide
  have let_go : LetGo (moduleOf "m") takeOverInVain[1] := .inl ⟨handsOver_of_entries rfl, failed⟩
  obtain ⟨necessary, sufficient⟩ := orphaned_by_letting_go run_takeOverInVain distinct installed
  have orphaned := sufficient [takeOverInVain[0]] takeOverInVain[1] [takeOverInVain[2]] rfl let_go
    (by decide) (by decide) unreported_takeOverInVain (by decide)
  exact ⟨⟨let_go, installed⟩, orphaned, (necessary orphaned).2⟩

/-- So it is not true that from an empty ledger on, after a pass with a listing, every module whose
last acknowledged command was an install is held or wanted. -/
theorem exists_orphaned :
    ¬ ∀ (first : Desk) (rounds : List Round) (r : Round) (d : Descriptor),
      first.ledger = .empty → Run first (rounds ++ [r]) →
      (∀ q ∈ rounds ++ [r], Distinct q.listing) → r.listing?.isSome = true →
      lastVerb d (history (rounds ++ [r])) = some .install →
      r.after.books.Held d ∨ Wanted r.listing d := by
  intro h
  have said := h _ _ _ (moduleOf "m") rfl run_takeOverInVain (by decide) (by decide) (by decide)
  revert said
  decide

/-! ## Modules that are installed again -/

/-- Two installs of the module were acknowledged without an acknowledged uninstall in between. -/
def Reinstalled (d : Descriptor) (record : List Moment) : Prop :=
  ∃ xs one ys two zs, record = xs ++ one :: ys ++ two :: zs ∧
    one.delivers .install d = true ∧ two.delivers .install d = true ∧
    ∀ moment ∈ ys, moment.delivers .uninstall d = false

/-- After an install was acknowledged and no uninstall since then, an install comes last. -/
theorem lastVerb_of_installed {d : Descriptor} {xs ys : List Moment} {one : Moment}
    (installed : one.delivers .install d = true)
    (kept : ∀ moment ∈ ys, moment.delivers .uninstall d = false) :
    lastVerb d (xs ++ one :: ys) = some .install := by
  cases recent : lastVerb d ys with
  | none =>
    exact lastVerb_eq_some_iff.2 ⟨xs, one, ys, rfl, Moment.acknowledged?_eq_some.2 installed, recent⟩
  | some verb =>
    obtain ⟨pre, moment, post, rfl, is, later⟩ := lastVerb_eq_some_iff.1 recent
    have only : verb = .install := by
      cases verb with
      | install => rfl
      | uninstall =>
        rw [Moment.acknowledged?_eq_some, kept moment (by simp)] at is
        cases is
    subst only
    exact lastVerb_eq_some_iff.2 ⟨xs ++ one :: pre, moment, post, by simp, is, later⟩

section Again

variable {still : Prop} {listing : List Pod} {start b c : Books} {pre post : List Moment}
  {two : Moment} {d : Descriptor}

/-- When an install is acknowledged, no earlier one of the same round was. -/
theorem Account.not_installed_before
    (account : Account still listing start b (pre ++ two :: post) c)
    (again : two.delivers .install d = true) :
    ∀ one ∈ pre, one.delivers .install d = false := by
  intro one mem
  rw [Bool.eq_false_iff]
  intro installed
  obtain ⟨key, target, command, same⟩ := Moment.delivers_iff.1 again
  obtain ⟨x, before_two, unheld, -⟩ := account.install command
  have held : x.Held d := before_two.held_of_installed mem installed
  exact unheld (held.congr (Descriptor.same_symm same))

/-- A round that installs a module that was held, and that was not uninstalled before, hands it
over. -/
theorem Account.handsOver (account : Account still listing b b (pre ++ two :: post) c)
    (held : b.Held d) (kept : ∀ moment ∈ pre, moment.delivers .uninstall d = false)
    (again : two.delivers .install d = true) : HandsOver listing b d := by
  obtain ⟨key, target, command, same⟩ := Moment.delivers_iff.1 again
  obtain ⟨x, before_two, unheld, wanted, -⟩ := account.install command
  have surrenders : Surrenders listing b d := by
    by_contra not_surrendered
    have held' : x.Held d := before_two.held not_surrendered kept held
    exact unheld (held'.congr (Descriptor.same_symm same))
  exact surrenders.resolve_right fun confuses => confuses.unwanted (wanted.congr same).wanted

/-- A round that installs a module does not uninstall it. -/
theorem Account.not_uninstalled {record : List Moment}
    (account : Account still listing start b record c) (mem : two ∈ record)
    (installed : two.delivers .install d = true) :
    ∀ moment ∈ record, moment.delivers .uninstall d = false := by
  intro moment here
  rw [Bool.eq_false_iff]
  intro uninstalled
  have wanted := account.install_sound ⟨two, mem, Moment.issues_of_delivers installed⟩
  exact (account.uninstall_sound ⟨moment, here, Moment.issues_of_delivers uninstalled⟩).1 wanted

end Again

/-- An install that is acknowledged after another one, and in a round without an uninstall. -/
theorem reinstalled_of_installed {d : Descriptor} {early late : List Round} {r : Round}
    (last : lastVerb d (history early) = some .install) (goes : r.Goes False)
    (distinct : Distinct r.listing) (again : ∃ moment ∈ r.record, moment.delivers .install d = true) :
    Reinstalled d (history (early ++ r :: late)) := by
  obtain ⟨two, mem, again⟩ := again
  obtain ⟨xs, one, ys, before, is, since⟩ := lastVerb_eq_some_iff.1 last
  obtain ⟨pre, post, record⟩ := List.append_of_mem mem
  refine ⟨xs, one, ys ++ pre, two, post ++ history late, by simp [before, record],
    Moment.acknowledged?_eq_some.1 is, again, ?_⟩
  rw [List.forall_mem_append]
  refine ⟨not_delivers_of_lastVerb since .uninstall, fun moment earlier => ?_⟩
  exact (goes.account distinct).not_uninstalled mem again moment (by simp [record, earlier])

/-- A round that hands a module over, or that finds a module wanted that was let go of in vain,
publishes an install for it if nobody reports it. -/
theorem Unreported.installs {d : Descriptor} {first : Desk} {early : List Round} {r : Round}
    (unreported : Unreported d r) (distinct : Distinct r.listing)
    (aside : Desk.Aside False (lastDesk first early) r.before)
    (cause : HandsOver r.listing r.before.books d ∨ (Abandoned d early ∧ Wanted r.listing d)) :
    Issues .install d r.record := by
  obtain ⟨goes, silent⟩ := unreported
  obtain ⟨wanted, holders⟩ : Wanted r.listing d ∧ HoldersFirst r.listing r.before.books d := by
    rcases cause with hands | ⟨abandoned, wanted⟩
    · exact ⟨hands.wanted, hands.late⟩
    · refine ⟨wanted, fun key holds => ?_⟩
      have held := (Desk.Keeps.of_aside aside).held.1 ⟨key, holds⟩
      exact absurd held abandoned.not_held
  exact (goes.passed_of_wanted distinct wanted).installs trivial d wanted holders silent

/-- In runs over listings with distinct keys, a module is installed again without an uninstall in
between only if an install is acknowledged in a round that hands the module over, or before which a
round has let go of it in vain.  And a round that hands over a module that nobody reports, or that
wants a module that was let go of in vain, always publishes an install for it; if the last
acknowledged command was an install and this one does not fail then the module is installed
again. -/
theorem reinstalled_by_letting_go {first : Desk} {rounds : List Round} (run : Run first rounds)
    (distinct : ∀ r ∈ rounds, Distinct r.listing) (d : Descriptor) :
    (Reinstalled d (history rounds) →
      ∃ early r late, rounds = early ++ r :: late ∧ lastVerb d (history early) = some .install ∧
        (∃ moment ∈ r.record, moment.delivers .install d = true) ∧
        (HandsOver r.listing r.before.books d ∨ Abandoned d early)) ∧
    ∀ early r late, rounds = early ++ r :: late → Unreported d r →
      (HandsOver r.listing r.before.books d ∨ (Abandoned d early ∧ Wanted r.listing d)) →
        Issues .install d r.record ∧ (lastVerb d (history early) = some .install →
          ¬ Failed .install d r.record → Reinstalled d (history rounds)) := by
  constructor
  · rintro ⟨xs, one, ys, two, zs, whole, installed, again, kept⟩
    obtain ⟨early, r, late, pre, post, rfl, record, cut, -⟩ := history_cut whole
    rw [run_append] at run
    rw [List.forall_mem_append, List.forall_mem_cons] at distinct
    obtain ⟨run, aside, goes, -⟩ := run
    have account := goes.account distinct.2.1
    rw [record] at account
    rcases append_eq_append_cons cut.symm with ⟨pre', -, rfl⟩ | ⟨ys', before, rfl⟩
    · -- both in one round
      have never := account.not_installed_before again one (by simp)
      rw [installed] at never
      cases never
    · rw [List.forall_mem_append] at kept
      have last : lastVerb d (history early) = some .install := by
        rw [before]
        exact lastVerb_of_installed installed kept.1
      refine ⟨early, r, late, rfl, last, ⟨two, by simp [record], again⟩, ?_⟩
      refine (held_or_abandoned run distinct.1 last).imp_left fun held => ?_
      exact account.handsOver ((Desk.Keeps.of_aside aside).held.2 held) kept.2 again
  · rintro early r late rfl unreported cause
    rw [run_append] at run
    rw [List.forall_mem_append, List.forall_mem_cons] at distinct
    obtain ⟨-, aside, goes, -⟩ := run
    have issued := unreported.installs distinct.2.1 aside cause
    refine ⟨issued, fun last worked => ?_⟩
    exact reinstalled_of_installed last goes distinct.2.1 (issued.delivered worked)

/-- If the pod that wants the module is listed first, it takes over the claim, and the module is
installed once. -/
example :
    timesIssued .install (moduleOf "m") (history (passesOver (Desk.fresh default default)
      [([podOf "a" ["m"]], fun _ => true), ([podOf "b" ["m"], podOf "a" []], fun _ => true)])) =
        1 := by
  decide

/-- A pod takes over a module from one that is listed before it. -/
def takeOver : List Round :=
  passesOver (Desk.fresh default default)
    [([podOf "a" ["m"]], fun _ => true), ([podOf "a" [], podOf "b" ["m"]], fun _ => true)]

/-- The passes in which the module is taken over are a run. -/
theorem run_takeOver : Run (Desk.fresh default default) takeOver :=
  run_passesOver _ _

/-- The second pass hands the module over, and installs it a second time. -/
theorem reinstalled_by_takeOver :
    (lastVerb (moduleOf "m") (history [takeOver[0]]) = some .install ∧
      HandsOver takeOver[1].listing takeOver[1].before.books (moduleOf "m")) ∧
    Issues .install (moduleOf "m") takeOver[1].record ∧
      Reinstalled (moduleOf "m") (history takeOver) ∧
      ∃ early r late, takeOver = early ++ r :: late ∧
        lastVerb (moduleOf "m") (history early) = some .install ∧
        (∃ moment ∈ r.record, moment.delivers .install (moduleOf "m") = true) ∧
        (HandsOver r.listing r.before.books (moduleOf "m") ∨ Abandoned (moduleOf "m") early) := by
  have distinct : ∀ r ∈ takeOver, Distinct r.listing := by decide
  have unreported : Unreported (moduleOf "m") takeOver[1] :=
    ⟨Round.goes_rehearsed _ _ _ _, fun ⟨seen, is, _⟩ => nomatch is⟩
  have last : lastVerb (moduleOf "m") (history [takeOver[0]]) = some .install := by decide
  have hands : HandsOver takeOver[1].listing takeOver[1].before.books (moduleOf "m") :=
    handsOver_of_entries rfl
  obtain ⟨necessary, sufficient⟩ := reinstalled_by_letting_go run_takeOver distinct (moduleOf "m")
  obtain ⟨issued, again⟩ := sufficient [takeOver[0]] takeOver[1] [] rfl unreported (.inl hands)
  have reinstalled := again last (by decide)
  exact ⟨⟨last, hands⟩, issued, reinstalled, necessary reinstalled⟩

/-- In that run the module is installed again although it was never uninstalled. -/
theorem reinstalled_takeOver : Reinstalled (moduleOf "m") (history takeOver) := by
  refine ⟨(history takeOver).take 5, (history takeOver)[5], ((history takeOver).drop 6).take 2,
    (history takeOver)[8], (history takeOver).drop 9, rfl, ?_, ?_, ?_⟩
  · decide
  · decide
  · decide

/-- So it is not true that between two acknowledged installs of a module there is always an
acknowledged uninstall. -/
theorem exists_reinstalled :
    ¬ ∀ (first : Desk) (rounds : List Round) (d : Descriptor), first.ledger = .empty →
      Run first rounds → (∀ r ∈ rounds, Distinct r.listing) →
      ¬ Reinstalled d (history rounds) := by
  intro h
  exact h _ takeOver (moduleOf "m") rfl run_takeOver (by decide) reinstalled_takeOver

end VirtualNode.Controller
