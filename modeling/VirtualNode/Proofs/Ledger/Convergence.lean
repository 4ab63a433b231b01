import Mathlib.Data.List.Perm.Basic
import VirtualNode.Proofs.Ledger.Once
import VirtualNode.Proofs.Ledger.Passes

/-!
# One pass is enough

If every command of a pass is acknowledged and nobody reports on modules meanwhile, then the pass
brings the ledger in line with its listing, whatever was there before.  `Converged` says what that
means; no order of the listing or of a table occurs in it.

Main statement: `pass_converges`, for every pass that follows a run from an empty ledger on.
-/

set_option autoImplicit false

namespace VirtualNode.Controller

open Biz (Descriptor)
open Kube (Pod)

/-! ## Plain names -/

/-- Whether no container of the pods has a colon in its name. -/
def PlainNames (listing : List Pod) : Prop :=
  ∀ pod ∈ listing, ∀ d ∈ pod.descriptors, d.Plain

instance (listing : List Pod) : Decidable (PlainNames listing) :=
  inferInstanceAs (Decidable (∀ pod ∈ listing, ∀ d ∈ pod.descriptors, d.Plain))

/-- What a listing with plain names wants is plain. -/
theorem PlainNames.of_wanted {listing : List Pod} (plain : PlainNames listing) {d : Descriptor}
    (wanted : Wanted listing d) : d.Plain := by
  obtain ⟨pod, mem, -, e, he, same⟩ := wanted
  exact (plain pod mem e he).congr same

/-! ## What holds along a run -/

/-- A desk whose claims are in order: no pod holds a module twice, no pod has an empty entry, and
the names of the modules are plain. -/
structure Desk.Orderly (s : Desk) : Prop where
  tidy : s.books.Tidy
  occupied : ∀ key, s.ledger.claims.get? key ≠ some []
  plain : ∀ key, ∀ d ∈ s.ledger.claimsOf key, d.Plain

namespace Desk.Orderly

variable {still : Prop} {s t : Desk}

/-- An empty ledger has its claims in order. -/
theorem of_empty (h : s.ledger = .empty) : Orderly s := by
  have nothing : ∀ key, s.ledger.claims.get? key = none := by
    intro key
    rw [h]
    rfl
  refine ⟨?_, ?_, ?_⟩
  · intro key
    simp [Desk.books, Ledger.claimsOf, nothing]
  · simp [nothing]
  · simp [Ledger.claimsOf, nothing]

/-- The claims stay in order while they are kept. -/
theorem keeps (orderly : Orderly s) (keeps : Desk.Keeps still s t) : Orderly t := by
  refine ⟨?_, ?_, ?_⟩
  · simpa [Books.Tidy, Desk.books, keeps.claimsOf] using orderly.tidy
  · simpa [keeps.claims] using orderly.occupied
  · simpa [keeps.claimsOf] using orderly.plain

/-- A pass leaves claims in order that were so. -/
theorem step {r : Round} (goes : r.Goes still) (distinct : Distinct r.listing)
    (plain : PlainNames r.listing) (orderly : Orderly r.before) : Orderly r.after := by
  have account := goes.account distinct
  refine ⟨account.tidy orderly.tidy, goes.occupied distinct orderly.occupied, ?_⟩
  exact account.claims (fun d wanted => plain.of_wanted wanted) orderly.plain

end Desk.Orderly

/-- The claims are in order after every run from an empty ledger on. -/
theorem Run.orderly {first : Desk} {rounds : List Round} (run : Run first rounds)
    (begun : first.ledger = .empty) (distinct : ∀ r ∈ rounds, Distinct r.listing)
    (plain : ∀ r ∈ rounds, PlainNames r.listing) : (lastDesk first rounds).Orderly := by
  refine run.invariant (.of_empty begun) ?_ ?_
  · intro s t aside orderly
    exact orderly.keeps (.of_aside aside)
  · intro r mem goes orderly
    exact orderly.step goes (distinct r mem) (plain r mem)

/-! ## Who has an entry -/

/-- The pods that are not being deleted and have a container. -/
def occupants (listing : List Pod) : List Pod :=
  listing.filter fun pod => !pod.isTerminating && !pod.containers.isEmpty

/-- The keys for which something is wanted are those of the occupants. -/
theorem exists_wantedBy_iff {listing : List Pod} {key : String} :
    (∃ d, WantedBy listing key d) ↔ key ∈ (occupants listing).map Pod.key := by
  simp only [occupants, List.mem_map, List.mem_filter, Bool.and_eq_true, Bool.not_eq_true',
    List.isEmpty_eq_false_iff]
  constructor
  · rintro ⟨d, pod, here, is, alive, e, he, -⟩
    refine ⟨pod, ⟨here, alive, ?_⟩, is⟩
    intro empty
    simp [Pod.descriptors, empty] at he
  · rintro ⟨pod, ⟨here, alive, occupied⟩, is⟩
    obtain ⟨c, mem⟩ := List.exists_mem_of_ne_nil _ occupied
    exact ⟨c.descriptor, pod, here, is, alive, c.descriptor, List.mem_map_of_mem mem,
      Descriptor.same_self _⟩

/-- The keys of the ledger are those under which a module is held. -/
theorem Desk.Orderly.mem_keys_iff {s : Desk} (orderly : s.Orderly) {key : String} :
    key ∈ s.ledger.claims.keys ↔ ∃ d, s.books.Holds key d := by
  rw [Table.mem_keys_iff]
  constructor
  · intro present
    obtain ⟨held, is⟩ := Option.ne_none_iff_exists'.1 present
    have occupied : held ≠ [] := fun empty => orderly.occupied key (empty ▸ is)
    obtain ⟨d, mem⟩ := List.exists_mem_of_ne_nil held occupied
    exact ⟨d, d, by simpa [Desk.books, Ledger.claimsOf, is] using mem, Descriptor.same_self d⟩
  · rintro ⟨d, e, mem, -⟩ absent
    simp [Desk.books, Ledger.claimsOf, absent] at mem

/-! ## A pass that succeeds -/

variable {still : Prop} {listing : List Pod} {f t : Desk} {record : List Moment} {d : Descriptor}

/-- With plain names, a module that nobody wants is not surrendered. -/
theorem Desk.Orderly.not_surrenders (orderly : f.Orderly) (plain : PlainNames listing)
    (unwanted : ¬ Wanted listing d) : ¬ Surrenders listing f.books d := by
  rintro (hands | confuses)
  · exact unwanted hands.wanted
  · obtain ⟨key, ⟨held, mem, same⟩, pod, here, alive, -, e, he, alike⟩ := confuses.alike
    have named : d.Plain := (orderly.plain key held mem).congr same
    have like := Descriptor.same_of_identity_eq (plain pod here e he) named alike
    exact unwanted ⟨pod, here, alive, e, he, like⟩

namespace Passed

/-- What is held on behalf of a pod is what the pod wants. -/
theorem holds_iff (passed : Passed still listing f record t) (delivered : ¬ Fails record)
    {key : String} : t.books.Holds key d ↔ WantedBy listing key d := by
  constructor
  · rintro ⟨e, mem, same⟩
    rcases passed.kept key e mem with wanted | ⟨-, failed⟩
    · exact wanted.congr same
    · exact absurd failed.fails delivered
  · intro wanted
    exact (passed.gained key d wanted).resolve_right fun failed => delivered failed.fails

/-- After a pass whose commands were all delivered, nothing is held that is not wanted. -/
theorem not_held (passed : Passed still listing f record t) (delivered : ¬ Fails record)
    (unwanted : ¬ Wanted listing d) : ¬ t.books.Held d := by
  rintro ⟨key, holds⟩
  exact unwanted ((passed.holds_iff delivered).1 holds).wanted

end Passed

/-- What a pass over a listing leads to if all its commands are acknowledged. -/
structure Converged (listing : List Pod) (before : Desk) (record : List Moment) (after : Desk) :
    Prop where
  /-- There is one entry for each pod that is not being deleted and has a container. -/
  keys : after.ledger.claims.keys.Perm ((occupants listing).map Pod.key)
  /-- No entry has a module twice. -/
  tidy : after.books.Tidy
  /-- The entry of a pod has the modules of its containers. -/
  entries : ∀ pod ∈ listing, pod.isTerminating = false → ∀ d,
    after.books.Holds pod.key d ↔ ∃ e ∈ pod.descriptors, e.same d = true
  /-- A module that was held and that no pod wants is uninstalled once and forgotten. -/
  uninstalled : ∀ d, before.books.Held d → ¬ Wanted listing d →
    timesIssued .uninstall d record = 1 ∧ after.sightings.get? d.identity = none
  /-- No other module is uninstalled. -/
  spared : ∀ d, ¬ before.books.Held d ∨ Wanted listing d → timesIssued .uninstall d record = 0
  /-- A module that was not held, that is not reported and that some pod wants is installed once. -/
  installed : ∀ d, ¬ before.books.Held d → ¬ before.books.Reports d → Wanted listing d →
    timesIssued .install d record = 1

/-- What nobody holds is held by nobody after those who want it. -/
theorem HoldersFirst.of_unheld {b : Books} (unheld : ¬ b.Held d) : HoldersFirst listing b d :=
  fun key holds => absurd ⟨key, holds⟩ unheld

/-- A pass whose commands were all delivered converges. -/
theorem Passed.converged (passed : Passed True listing f record t) (distinct : Distinct listing)
    (plain : PlainNames listing) (orderly : f.Orderly) (orderly' : t.Orderly)
    (delivered : ¬ Fails record) : Converged listing f record t := by
  have account := passed.account
  refine ⟨?_, orderly'.tidy, ?_, ?_, ?_, ?_⟩
  · have unique : ((occupants listing).map Pod.key).Nodup :=
      distinct.sublist (List.filter_sublist.map Pod.key)
    have single : t.ledger.claims.keys.Nodup := t.ledger.claims.nodup
    refine (List.perm_ext_iff_of_nodup single unique).2 fun key => ?_
    rw [← exists_wantedBy_iff, ← exists_congr fun d => passed.holds_iff delivered]
    exact orderly'.mem_keys_iff
  · intro pod here alive d
    rw [passed.holds_iff delivered, distinct.wantedBy_iff here]
    simp [Pod.Wants, alive]
  · intro d held unwanted
    have once := account.uninstall_once orderly.tidy delivered
      (orderly.not_surrenders plain unwanted) held (passed.not_held delivered unwanted)
    have issued : Issues .uninstall d record := timesIssued_pos.1 (by omega)
    exact ⟨once, account.forgotten trivial delivered issued⟩
  · intro d h
    exact account.uninstall_never h.symm
  · intro d unheld unreported wanted
    have most := account.install_at_most_once delivered d
    have issued := passed.installs trivial d wanted (.of_unheld unheld) unreported
    have least := timesIssued_pos.2 issued
    omega

/-! ## The order does not matter -/

/-- What the pod of a key wants does not depend on the order of the listing. -/
theorem WantedBy.perm {listing' : List Pod} (perm : listing'.Perm listing) {key : String} :
    WantedBy listing' key d ↔ WantedBy listing key d := by
  simp [WantedBy, perm.mem_iff]

/-- What is wanted does not depend on the order of the listing. -/
theorem Wanted.perm {listing' : List Pod} (perm : listing'.Perm listing) :
    Wanted listing' d ↔ Wanted listing d := by
  simp [Wanted, perm.mem_iff]

namespace Converged

/-- Once it has converged, each pod holds what it wants. -/
theorem holds_iff (converged : Converged listing f record t) {key : String} :
    t.books.Holds key d ↔ WantedBy listing key d := by
  constructor
  · intro holds
    have present : key ∈ t.ledger.claims.keys := by
      rw [Table.mem_keys_iff]
      intro absent
      obtain ⟨e, mem, -⟩ := holds
      simp [Desk.books, Ledger.claimsOf, absent] at mem
    obtain ⟨pod, mem, rfl⟩ := List.mem_map.1 (converged.keys.mem_iff.1 present)
    obtain ⟨here, occupied⟩ := List.mem_filter.1 mem
    rw [Bool.and_eq_true, Bool.not_eq_true'] at occupied
    exact ⟨pod, here, rfl, occupied.1, (converged.entries pod here occupied.1 d).1 holds⟩
  · rintro ⟨pod, here, rfl, alive, wants⟩
    exact (converged.entries pod here alive d).2 wants

/-- Passes over the same pods, from the same claims on, lead to the same claims. -/
theorem same_claims {listing' : List Pod} {f' t' : Desk} {record' : List Moment}
    (converged : Converged listing f record t) (converged' : Converged listing' f' record' t')
    (perm : listing'.Perm listing) (key : String) (d : Descriptor) :
    t'.books.Holds key d ↔ t.books.Holds key d := by
  rw [converged.holds_iff, converged'.holds_iff]
  exact WantedBy.perm perm

/-- Passes over the same pods, from the same claims on, uninstall the same modules. -/
theorem same_uninstalls {listing' : List Pod} {f' t' : Desk} {record' : List Moment}
    (converged : Converged listing f record t) (converged' : Converged listing' f' record' t')
    (perm : listing'.Perm listing) (d : Descriptor) (held : f'.books.Held d ↔ f.books.Held d) :
    timesIssued .uninstall d record' = timesIssued .uninstall d record := by
  by_cases obsolete : f.books.Held d ∧ ¬ Wanted listing d
  · have obsolete' : f'.books.Held d ∧ ¬ Wanted listing' d := by
      rwa [held, Wanted.perm perm]
    rw [(converged.uninstalled d obsolete.1 obsolete.2).1,
      (converged'.uninstalled d obsolete'.1 obsolete'.2).1]
  · have needed : ¬ f.books.Held d ∨ Wanted listing d := by
      rwa [not_and_or, not_not] at obsolete
    have needed' : ¬ f'.books.Held d ∨ Wanted listing' d := by
      rwa [held, Wanted.perm perm]
    rw [converged.spared d needed, converged'.spared d needed']

end Converged

/-! ## Every pass that succeeds -/

/-- A round whose listing came and whose commands were all delivered converges. -/
theorem Round.Goes.converged {r : Round} (goes : r.Goes True) (listed : r.listing? = some listing)
    (distinct : Distinct listing) (plain : PlainNames listing) (orderly : r.before.Orderly)
    (delivered : ¬ Fails r.record) : Converged listing r.before r.record r.after := by
  have is := Round.listing_eq listed
  subst is
  have passed := goes.passed (by simp [listed]) distinct
  exact passed.converged distinct plain orderly (orderly.step goes distinct plain) delivered

/-- Take any run of rounds from an empty ledger on, with any answers, over listings with distinct
keys and plain names, and then a pass over another such listing in which every command is
acknowledged and nobody reports on modules.  Then the claims are those that the listing asks for,
every module that was held and is wanted no more is uninstalled once and forgotten and no other one
is uninstalled, and every wanted module that was neither held nor reported is installed once.  A
pass over the same pods in another order leads to the same claims and uninstalls the same modules.
-/
theorem pass_converges {first : Desk} {rounds : List Round} {r : Round}
    (begun : first.ledger = .empty) (run : Run first rounds)
    (distinct : ∀ q ∈ rounds, Distinct q.listing) (plain : ∀ q ∈ rounds, PlainNames q.listing)
    (meanwhile : Desk.Aside False (lastDesk first rounds) r.before) (goes : r.Goes True)
    (listed : r.listing? = some listing) (unique : Distinct listing) (named : PlainNames listing)
    (delivered : ¬ Fails r.record) :
    Converged listing r.before r.record r.after ∧
      ∀ (q : Round) (other : List Pod), Desk.Aside False (lastDesk first rounds) q.before →
        q.Goes True → q.listing? = some other → other.Perm listing → ¬ Fails q.record →
        (∀ key d, q.after.books.Holds key d ↔ r.after.books.Holds key d) ∧
          ∀ d, timesIssued .uninstall d q.record = timesIssued .uninstall d r.record := by
  have orderly := run.orderly begun distinct plain
  have keeps := Desk.Keeps.of_aside meanwhile
  have converged := goes.converged listed unique named (orderly.keeps keeps) delivered
  refine ⟨converged, ?_⟩
  intro q other meanwhile' goes' listed' perm delivered'
  have keeps' := Desk.Keeps.of_aside meanwhile'
  have unique' : Distinct other := (perm.map Pod.key).nodup_iff.2 unique
  have named' : PlainNames other := fun pod mem => named pod (perm.mem_iff.1 mem)
  have converged' := goes'.converged listed' unique' named' (orderly.keeps keeps') delivered'
  refine ⟨converged.same_claims converged' perm, fun d => ?_⟩
  exact converged.same_uninstalls converged' perm d (keeps'.held.trans keeps.held.symm)

/-- Two pods share a module; then one vanishes, and the other one and a new pod want another
module. -/
theorem pass_converges_shared :
    let earlier := passOver [podOf "a" ["m"], podOf "b" ["m"]] (fun _ => true)
      (Desk.fresh default default)
    let r := passOver [podOf "b" ["n"], podOf "c" ["n"]] (fun _ => true) earlier.after
    let q := passOver [podOf "c" ["n"], podOf "b" ["n"]] (fun _ => true) earlier.after
    Converged [podOf "b" ["n"], podOf "c" ["n"]] r.before r.record r.after ∧
      (∀ key d, q.after.books.Holds key d ↔ r.after.books.Holds key d) ∧
        ∀ d, timesIssued .uninstall d q.record = timesIssued .uninstall d r.record := by
  intro earlier r q
  have run : Run (Desk.fresh default default) [earlier] :=
    run_passesOver _ [([podOf "a" ["m"], podOf "b" ["m"]], fun _ => true)]
  have goes : r.Goes True := Round.goes_rehearsed _ _ _ _
  have goes' : q.Goes True := Round.goes_rehearsed _ _ _ _
  have meanwhile : Desk.Aside False (lastDesk (Desk.fresh default default) [earlier]) r.before :=
    .refl False earlier.after
  have result := pass_converges rfl run (by decide) (by decide) meanwhile goes rfl (by decide)
    (by decide) (by decide)
  exact ⟨result.1, result.2 q _ (.refl False earlier.after) goes' rfl (.swap _ _ _) (by decide)⟩

end VirtualNode.Controller
