import VirtualNode.Proofs.Ledger.Books

/-!
# How often a command is published

The entries of an account say how often a pass publishes a command about a module.  An uninstall is
published only for a module that was held from the beginning and that nobody wants, and, if it is
acknowledged, not a second time; an install is not published again once it is acknowledged.

Main statements: `Account.uninstall_once`, `Account.uninstall_never`,
`Account.install_at_most_once`.
-/

set_option autoImplicit false

namespace VirtualNode.Controller

open Biz (Descriptor)
open Kube (Pod)

/-- How often a command about the module was published. -/
def timesIssued (verb : Verb) (d : Descriptor) (record : List Moment) : Nat :=
  record.countP (Moment.issues verb d)

/-- A command was issued at least once just if it was issued. -/
theorem timesIssued_pos {verb : Verb} {d : Descriptor} {record : List Moment} :
    0 < timesIssued verb d record ↔ Issues verb d record :=
  List.countP_pos_iff

/-- A command was never issued just if it was not issued. -/
theorem timesIssued_eq_zero {verb : Verb} {d : Descriptor} {record : List Moment} :
    timesIssued verb d record = 0 ↔ ¬ Issues verb d record := by
  rw [← timesIssued_pos]
  omega

/-- A moment that does not issue the command does not count. -/
theorem timesIssued_cons_of_not {verb : Verb} {d : Descriptor} {moment : Moment}
    {record : List Moment} (h : moment.issues verb d = false) :
    timesIssued verb d (moment :: record) = timesIssued verb d record :=
  List.countP_cons_of_neg (by simp [h])

/-- A moment counts at most once. -/
theorem timesIssued_cons_le (verb : Verb) (d : Descriptor) (moment : Moment)
    (record : List Moment) :
    timesIssued verb d (moment :: record) ≤ timesIssued verb d record + 1 := by
  rw [timesIssued, List.countP_cons]
  split
  · exact Nat.le_refl _
  · exact Nat.le_succ _

/-- If all commands were delivered, the later ones were. -/
theorem not_fails_tail {moment : Moment} {record : List Moment}
    (delivered : ¬ Fails (moment :: record)) : ¬ Fails record := by
  rintro ⟨other, mem, fails⟩
  exact delivered ⟨other, List.mem_cons_of_mem _ mem, fails⟩

variable {still : Prop} {listing : List Pod} {start b b' c : Books} {record : List Moment}
  {moment : Moment} {d : Descriptor}

/-! ## Where claims come from -/

/-- What holds of all modules that are held or wanted holds after an entry of all that are held. -/
theorem Tacit.claims {P : Descriptor → Prop} (entry : Tacit still listing start b b')
    (wanted : ∀ d, Wanted listing d → P d) (old : ∀ key, ∀ d ∈ b.claims key, P d) :
    ∀ key, ∀ d ∈ b'.claims key, P d := by
  intro key d mem
  cases entry with
  | news => exact old key d mem
  | yield key' e left right split => exact old key d (Books.mem_of_mem_removed split mem)
  | join key' e wants =>
    rcases Books.mem_added.1 mem with mem | ⟨-, rfl⟩
    · exact old key d mem
    · exact wanted d wants.wanted

/-- What holds of all that is wanted and of all claims holds of the claims after an entry. -/
theorem Noted.claims {P : Descriptor → Prop} (entry : Noted listing b moment b')
    (wanted : ∀ d, Wanted listing d → P d) (old : ∀ key, ∀ d ∈ b.claims key, P d) :
    ∀ key, ∀ d ∈ b'.claims key, P d := by
  intro key d mem
  cases entry with
  | install key' e delivered _ wants =>
    cases delivered with
    | false => exact old key d mem
    | true =>
      rcases Books.mem_added.1 mem with mem | ⟨-, rfl⟩
      · exact old key d mem
      · exact wanted d wants.wanted
  | uninstall key' e left right delivered _ split =>
    cases delivered with
    | false => exact old key d mem
    | true => exact old key d (Books.mem_of_mem_removed split mem)
  | other => exact old key d mem

/-- What holds of all modules that are held or wanted holds in the end of all that are held. -/
theorem Account.claims {P : Descriptor → Prop} (account : Account still listing start b record c)
    (wanted : ∀ d, Wanted listing d → P d) (old : ∀ key, ∀ d ∈ b.claims key, P d) :
    ∀ key, ∀ d ∈ c.claims key, P d := by
  induction account with
  | refl => exact old
  | tacit entry _ ih => exact ih (entry.claims wanted old)
  | noted entry _ ih => exact ih (entry.claims wanted old)

/-- A module that nobody wants is held in the end only if it was held in the beginning. -/
theorem Account.held_of_held (account : Account still listing start b record c)
    (unwanted : ¬ Wanted listing d) (held : c.Held d) : b.Held d := by
  by_contra unheld
  have others : ∀ key, ∀ e ∈ c.claims key, e.same d = false := by
    refine account.claims (fun e wanted => ?_) (fun key e mem => ?_)
    · exact Bool.eq_false_iff.2 fun same => unwanted (wanted.congr same)
    · exact Bool.eq_false_iff.2 fun same => unheld ⟨key, e, mem, same⟩
  obtain ⟨key, e, mem, same⟩ := held
  simp [others key e mem] at same

/-! ## Uninstalls -/

/-- An uninstall is published for a module that was held from the beginning and that nobody
wants. -/
theorem Account.uninstall_sound (account : Account still listing start b record c)
    (issued : Issues .uninstall d record) : ¬ Wanted listing d ∧ b.Held d := by
  obtain ⟨moment, mem, issued⟩ := issued
  obtain ⟨key, target, delivered, is, same⟩ := Moment.issues_iff.1 issued
  obtain ⟨early, late, rfl⟩ := List.append_of_mem mem
  obtain ⟨x, y, before, entry, -⟩ := account.split
  obtain ⟨left, right, split, unwanted, -⟩ := entry.of_uninstall is
  have unwanted' : ¬ Wanted listing d := fun wanted =>
    unwanted (wanted.congr (Descriptor.same_symm same))
  refine ⟨unwanted', before.held_of_held unwanted' ?_⟩
  exact ⟨key, target, by simp [split], same⟩

/-- What is wanted, or was held by nobody, is never uninstalled. -/
theorem Account.uninstall_never (account : Account still listing start b record c)
    (h : Wanted listing d ∨ ¬ b.Held d) : timesIssued .uninstall d record = 0 := by
  rw [timesIssued_eq_zero]
  intro issued
  obtain ⟨unwanted, held⟩ := account.uninstall_sound issued
  rcases h with wanted | unheld
  · exact unwanted wanted
  · exact unheld held

/-- After an acknowledged uninstall nobody holds the module. -/
theorem Noted.unheld (entry : Noted listing b moment b') (tidy : b.Tidy)
    (uninstalled : moment.delivers .uninstall d = true) : ¬ b'.Held d := by
  obtain ⟨key, target, is, same⟩ := Moment.delivers_iff.1 uninstalled
  obtain ⟨left, right, split, -, alone, -, rfl⟩ := entry.of_uninstall is
  rintro ⟨other, holds⟩
  rw [if_pos rfl, Books.holds_forget] at holds
  by_cases h : other = key
  · subst h
    exact tidy.not_holds_removed split same holds
  · have before := Books.holds_of_holds_removed split holds
    exact alone ⟨other, h, before.congr (Descriptor.same_symm same)⟩

/-- If all commands are acknowledged, no module is uninstalled twice. -/
theorem Account.uninstall_at_most_once (account : Account still listing start b record c)
    (tidy : b.Tidy) (delivered : ¬ Fails record) (d : Descriptor) :
    timesIssued .uninstall d record ≤ 1 := by
  induction account with
  | refl => exact Nat.zero_le 1
  | tacit entry _ ih => exact ih (entry.tidy tidy) delivered
  | @noted b b' c moment record entry rest ih =>
    have later := not_fails_tail delivered
    cases issued : moment.issues .uninstall d with
    | false =>
      rw [timesIssued_cons_of_not issued]
      exact ih (entry.tidy tidy) later
    | true =>
      -- the module is held no more, and nobody will take it up again
      have gone : ¬ b'.Held d :=
        entry.unheld tidy (delivers_of_issues delivered List.mem_cons_self issued)
      have none_later := rest.uninstall_never (.inr gone)
      have bound := timesIssued_cons_le .uninstall d moment record
      omega

/-- A module that is held, that nobody holds in the end, and that is not surrendered, is uninstalled
once. -/
theorem Account.uninstall_once (account : Account still listing start b record c)
    (tidy : b.Tidy) (delivered : ¬ Fails record) (kept : ¬ Surrenders listing start d)
    (held : b.Held d) (unheld : ¬ c.Held d) : timesIssued .uninstall d record = 1 := by
  have most := account.uninstall_at_most_once tidy delivered d
  have some_uninstall : Issues .uninstall d record := by
    by_contra never
    refine unheld (account.held kept (fun moment mem => ?_) held)
    rw [Bool.eq_false_iff]
    intro is
    exact never ⟨moment, mem, Moment.issues_of_delivers is⟩
  have least := timesIssued_pos.2 some_uninstall
  omega

/-! ## Sightings -/

/-- While nobody reports on modules, what has not been seen is not seen. -/
theorem Account.unseen (account : Account still listing start b record c) (quiet : still)
    {identity : String} (unseen : b.seen identity = none) : c.seen identity = none := by
  induction account with
  | refl => exact unseen
  | tacit entry _ ih =>
    refine ih ?_
    cases entry with
    | news seen same => exact (congrFun (same quiet) identity).trans unseen
    | yield => exact unseen
    | join => exact unseen
  | noted entry _ ih =>
    refine ih ?_
    cases entry with
    | install _ _ delivered => cases delivered <;> exact unseen
    | uninstall _ _ _ _ delivered =>
      cases delivered with
      | false => exact unseen
      | true =>
        simp only [if_true, Books.forget, Function.update_apply]
        split
        · rfl
        · exact unseen
    | other => exact unseen

/-- What was last seen of a module is forgotten with its uninstall. -/
theorem Account.forgotten (account : Account still listing start b record c) (quiet : still)
    (delivered : ¬ Fails record) (issued : Issues .uninstall d record) :
    c.seen d.identity = none := by
  obtain ⟨moment, mem, issued⟩ := issued
  obtain ⟨key, target, is, same⟩ :=
    Moment.delivers_iff.1 (delivers_of_issues delivered mem issued)
  obtain ⟨early, late, rfl⟩ := List.append_of_mem mem
  obtain ⟨x, y, -, entry, rest⟩ := account.split
  obtain ⟨left, right, -, -, -, -, rfl⟩ := entry.of_uninstall is
  refine rest.unseen quiet ?_
  simp [Books.forget, Descriptor.identity_eq_of_same same]

/-! ## Installs -/

/-- An install is published for a module that some pod wants. -/
theorem Account.install_sound (account : Account still listing start b record c)
    (issued : Issues .install d record) : Wanted listing d := by
  obtain ⟨moment, mem, issued⟩ := issued
  obtain ⟨key, target, delivered, is, same⟩ := Moment.issues_iff.1 issued
  obtain ⟨early, late, rfl⟩ := List.append_of_mem mem
  obtain ⟨x, -, -, wanted, -⟩ := account.install is
  exact (wanted.congr same).wanted

/-- A module that is held on behalf of a pod that wants it is not installed. -/
theorem Account.install_never (account : Account still listing start b record c) {key : String}
    (wanted : WantedBy listing key d) (holds : b.Holds key d) :
    timesIssued .install d record = 0 := by
  rw [timesIssued_eq_zero]
  rintro ⟨moment, mem, issued⟩
  obtain ⟨other, target, delivered, is, same⟩ := Moment.issues_iff.1 issued
  obtain ⟨early, late, rfl⟩ := List.append_of_mem mem
  obtain ⟨x, before, unheld, -⟩ := account.install is
  have now := before.holds_of_wantedBy wanted holds
  exact unheld ⟨key, now.congr (Descriptor.same_symm same)⟩

/-- If all commands are acknowledged, no module is installed twice. -/
theorem Account.install_at_most_once (account : Account still listing start b record c)
    (delivered : ¬ Fails record) (d : Descriptor) : timesIssued .install d record ≤ 1 := by
  induction account with
  | refl => exact Nat.zero_le 1
  | tacit _ _ ih => exact ih delivered
  | @noted b b' c moment record entry rest ih =>
    cases issued : moment.issues .install d with
    | false =>
      rw [timesIssued_cons_of_not issued]
      exact ih (not_fails_tail delivered)
    | true =>
      -- the pod that wants the module holds it from now on
      obtain ⟨key, target, is, same⟩ :=
        Moment.delivers_iff.1 (delivers_of_issues delivered List.mem_cons_self issued)
      obtain ⟨wanted, -, -, rfl⟩ := entry.of_install is
      have none_later := rest.install_never (wanted.congr same)
        (Books.holds_added.2 (.inr ⟨rfl, same⟩))
      have bound := timesIssued_cons_le .install d moment record
      omega

end VirtualNode.Controller
