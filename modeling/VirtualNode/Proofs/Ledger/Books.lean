import Mathlib.Logic.Function.Basic
import VirtualNode.Proofs.Rounds

/-!
# The books of a pass

Of all that a controller knows, a pass over the pods decides by two things: the claims of pods on
modules, and what was last seen of the modules.  These are the books.  This module says which
entries a pass over a listing may make in its books, and which command goes with which entry.

A pass can give up a claim without a command in two ways only: another pod holds the module, or
the pass surrenders it (`Surrenders`), which is to say that the last pod that held the module let
go of it because some pod of the listing wants a module of the same identity.

Main statements: a module that is held and neither surrendered nor uninstalled stays held
(`Account.held`); the claim of a pod that wants the module stays (`Account.holds_of_wantedBy`);
an install is published only while nobody holds the module and an uninstall only while nobody else
holds or wants it (`Account.install`, `Account.uninstall`).
-/

set_option autoImplicit false

namespace VirtualNode.Kube

/-- A pod wants a module if it is not being deleted and one of its containers stands for it. -/
def Pod.Wants (pod : Pod) (d : Biz.Descriptor) : Prop :=
  pod.isTerminating = false ∧ ∃ e ∈ pod.descriptors, e.same d = true

instance (pod : Pod) (d : Biz.Descriptor) : Decidable (pod.Wants d) :=
  inferInstanceAs (Decidable (_ ∧ ∃ e ∈ pod.descriptors, e.same d = true))

/-- A pod that wants a module wants the same modules. -/
theorem Pod.Wants.congr {pod : Pod} {d e : Biz.Descriptor} (same : d.same e = true)
    (wants : pod.Wants d) : pod.Wants e := by
  obtain ⟨alive, x, hx, like⟩ := wants
  exact ⟨alive, x, hx, Biz.Descriptor.same_trans like same⟩

end VirtualNode.Kube

namespace VirtualNode.Controller

open Biz (Descriptor)
open Kube (Pod)

/-! ## Who wants a module -/

/-- Whether a pod of the listing wants the module. -/
def Wanted (listing : List Pod) (d : Descriptor) : Prop :=
  ∃ pod ∈ listing, pod.Wants d

/-- Whether the pod of a key wants the module. -/
def WantedBy (listing : List Pod) (key : String) (d : Descriptor) : Prop :=
  ∃ pod ∈ listing, pod.key = key ∧ pod.Wants d

instance (listing : List Pod) (d : Descriptor) : Decidable (Wanted listing d) :=
  inferInstanceAs (Decidable (∃ pod ∈ listing, pod.Wants d))

/-- What the pod of some key wants is wanted. -/
theorem WantedBy.wanted {listing : List Pod} {key : String} {d : Descriptor}
    (h : WantedBy listing key d) : Wanted listing d := by
  obtain ⟨pod, mem, -, wants⟩ := h
  exact ⟨pod, mem, wants⟩

/-- What the pod of a key wants does not depend on which of the same modules is meant. -/
theorem WantedBy.congr {listing : List Pod} {key : String} {d e : Descriptor}
    (same : d.same e = true) (h : WantedBy listing key d) : WantedBy listing key e := by
  obtain ⟨pod, mem, is, wants⟩ := h
  exact ⟨pod, mem, is, wants.congr same⟩

/-- What is wanted does not depend on which of the same modules is meant. -/
theorem Wanted.congr {listing : List Pod} {d e : Descriptor} (same : d.same e = true)
    (h : Wanted listing d) : Wanted listing e := by
  obtain ⟨pod, mem, wants⟩ := h
  exact ⟨pod, mem, wants.congr same⟩

/-! ## The books -/

/-- The claims of pods on modules, and what was last seen of the modules. -/
structure Books where
  /-- The modules that are held on behalf of a pod. -/
  claims : String → List Descriptor
  /-- The last sighting of the module of an identity. -/
  seen : String → Option Biz.Sighting

/-- The books at a desk. -/
def Desk.books (d : Desk) : Books := ⟨d.ledger.claimsOf, d.sightings.get?⟩

namespace Books

/-- Whether a module is held on behalf of a pod. -/
def Holds (b : Books) (key : String) (d : Descriptor) : Prop :=
  ∃ held ∈ b.claims key, held.same d = true

/-- Whether a module is held on behalf of any pod. -/
def Held (b : Books) (d : Descriptor) : Prop :=
  ∃ key, b.Holds key d

/-- Whether a module is held on behalf of a pod other than `key`. -/
def HeldElsewhere (b : Books) (key : String) (d : Descriptor) : Prop :=
  ∃ other, other ≠ key ∧ b.Holds other d

/-- Whether the base reports the module in a state other than deactivated. -/
def Reports (b : Books) (d : Descriptor) : Prop :=
  ∃ seen, b.seen d.identity = some seen ∧ seen.report.state ≠ .deactivated

/-- The books with other claims of one pod. -/
def withClaims (b : Books) (key : String) (held : List Descriptor) : Books :=
  { b with claims := Function.update b.claims key held }

/-- The books without what was seen of the module of an identity. -/
def forget (b : Books) (identity : String) : Books :=
  { b with seen := Function.update b.seen identity none }

/-- No pod holds a module twice. -/
def Tidy (b : Books) : Prop :=
  ∀ key, (b.claims key).Pairwise fun d e => d.same e = false

/-- What a pod holds does not depend on which of the same modules is meant. -/
theorem Holds.congr {b : Books} {key : String} {d e : Descriptor} (same : d.same e = true)
    (h : b.Holds key d) : b.Holds key e := by
  obtain ⟨held, mem, like⟩ := h
  exact ⟨held, mem, Descriptor.same_trans like same⟩

/-- What is held does not depend on which of the same modules is meant. -/
theorem Held.congr {b : Books} {d e : Descriptor} (same : d.same e = true) (h : b.Held d) :
    b.Held e := by
  obtain ⟨key, holds⟩ := h
  exact ⟨key, holds.congr same⟩

/-- What is held elsewhere is held. -/
theorem HeldElsewhere.held {b : Books} {key : String} {d : Descriptor}
    (h : b.HeldElsewhere key d) : b.Held d := by
  obtain ⟨other, -, holds⟩ := h
  exact ⟨other, holds⟩

/-- What is held elsewhere does not depend on which of the same modules is meant. -/
theorem HeldElsewhere.congr {b : Books} {key : String} {d e : Descriptor}
    (same : d.same e = true) (h : b.HeldElsewhere key d) : b.HeldElsewhere key e := by
  obtain ⟨other, ne, holds⟩ := h
  exact ⟨other, ne, holds.congr same⟩

/-- What the base reports does not depend on which of the same modules is meant. -/
theorem Reports.congr {b : Books} {d e : Descriptor} (same : d.same e = true)
    (h : b.Reports d) : b.Reports e := by
  simpa [Reports, Descriptor.identity_eq_of_same same] using h

/-- The claims of a key are those that were entered. -/
@[simp]
theorem claims_withClaims_self (b : Books) (key : String) (held : List Descriptor) :
    (b.withClaims key held).claims key = held :=
  Function.update_self _ _ _

/-- The claims of other keys stay when those of a key are entered. -/
theorem claims_withClaims_of_ne {b : Books} {key other : String} {held : List Descriptor}
    (h : other ≠ key) : (b.withClaims key held).claims other = b.claims other :=
  Function.update_of_ne h _ _

/-- The claims that are entered last count. -/
@[simp]
theorem withClaims_withClaims (b : Books) (key : String) (held held' : List Descriptor) :
    (b.withClaims key held).withClaims key held' = b.withClaims key held' := by
  simp [withClaims]

/-- To enter the claims that are there changes nothing. -/
@[simp]
theorem withClaims_claims_self (b : Books) (key : String) :
    b.withClaims key (b.claims key) = b := by
  simp [withClaims]

/-- To forget a sighting changes nothing in what a pod holds. -/
@[simp]
theorem holds_forget {b : Books} {identity key : String} {d : Descriptor} :
    (b.forget identity).Holds key d ↔ b.Holds key d :=
  Iff.rfl

/-- To forget a sighting changes nothing in what is held. -/
@[simp]
theorem held_forget {b : Books} {identity : String} {d : Descriptor} :
    (b.forget identity).Held d ↔ b.Held d :=
  Iff.rfl

/-- To forget a sighting leaves the books as tidy as they are. -/
@[simp]
theorem tidy_forget {b : Books} {identity : String} : (b.forget identity).Tidy ↔ b.Tidy :=
  Iff.rfl

/-- What is held elsewhere does not depend on the claims of the key. -/
@[simp]
theorem heldElsewhere_withClaims {b : Books} {key : String} {held : List Descriptor}
    {d : Descriptor} : (b.withClaims key held).HeldElsewhere key d ↔ b.HeldElsewhere key d := by
  constructor
  · rintro ⟨other, ne, held, mem, same⟩
    rw [claims_withClaims_of_ne ne] at mem
    exact ⟨other, ne, held, mem, same⟩
  · rintro ⟨other, ne, held, mem, same⟩
    refine ⟨other, ne, held, ?_, same⟩
    rwa [claims_withClaims_of_ne ne]

/-- The claims of the pod at hand and those of the others make up all claims. -/
theorem held_withClaims {b : Books} {key : String} {held : List Descriptor} {d : Descriptor} :
    (b.withClaims key held).Held d ↔
      (∃ e ∈ held, e.same d = true) ∨ b.HeldElsewhere key d := by
  constructor
  · rintro ⟨other, holds⟩
    by_cases h : other = key
    · subst h
      obtain ⟨e, mem, same⟩ := holds
      rw [claims_withClaims_self] at mem
      exact .inl ⟨e, mem, same⟩
    · exact .inr (heldElsewhere_withClaims.1 ⟨other, h, holds⟩)
  · rintro (⟨e, mem, same⟩ | h)
    · exact ⟨key, e, by simpa using mem, same⟩
    · exact (heldElsewhere_withClaims.2 h).held

section Removal

variable {b : Books} {key : String} {d : Descriptor} {left right : List Descriptor}

/-- Taking one claim out leaves every other claim. -/
theorem holds_of_removed (split : b.claims key = left ++ d :: right) {other : String}
    {e : Descriptor} (holds : b.Holds other e) (differs : other ≠ key ∨ d.same e = false) :
    (b.withClaims key (left ++ right)).Holds other e := by
  obtain ⟨held, mem, same⟩ := holds
  by_cases h : other = key
  · subst h
    refine ⟨held, ?_, same⟩
    rw [split, List.mem_append, List.mem_cons] at mem
    have ne : held ≠ d := by
      rintro rfl
      simp [same] at differs
    simpa [ne] using mem
  · exact ⟨held, by rwa [claims_withClaims_of_ne h], same⟩

/-- Taking a claim out adds none. -/
theorem mem_of_mem_removed (split : b.claims key = left ++ d :: right) {other : String}
    {e : Descriptor} (mem : e ∈ (b.withClaims key (left ++ right)).claims other) :
    e ∈ b.claims other := by
  by_cases h : other = key
  · subst h
    rw [claims_withClaims_self, List.mem_append] at mem
    rw [split, List.mem_append, List.mem_cons]
    exact mem.imp_right .inr
  · rwa [claims_withClaims_of_ne h] at mem

/-- When a claim is taken out, nobody holds what was not held before. -/
theorem holds_of_holds_removed (split : b.claims key = left ++ d :: right) {other : String}
    {e : Descriptor} (holds : (b.withClaims key (left ++ right)).Holds other e) :
    b.Holds other e := by
  obtain ⟨held, mem, same⟩ := holds
  exact ⟨held, mem_of_mem_removed split mem, same⟩

/-- The books stay tidy when a claim is taken out. -/
theorem Tidy.removed (tidy : b.Tidy) (split : b.claims key = left ++ d :: right) :
    (b.withClaims key (left ++ right)).Tidy := by
  intro other
  by_cases h : other = key
  · subst h
    rw [claims_withClaims_self]
    have all := tidy other
    rw [split] at all
    exact all.sublist ((List.sublist_cons_self d right).append_left left)
  · rw [claims_withClaims_of_ne h]
    exact tidy other

/-- In tidy books a claim that was taken out is gone. -/
theorem Tidy.not_holds_removed (tidy : b.Tidy) (split : b.claims key = left ++ d :: right)
    {e : Descriptor} (same : d.same e = true) :
    ¬ (b.withClaims key (left ++ right)).Holds key e := by
  rintro ⟨held, mem, like⟩
  have all := tidy key
  rw [split, List.pairwise_append, List.pairwise_cons] at all
  obtain ⟨-, ⟨after, -⟩, before⟩ := all
  rw [claims_withClaims_self, List.mem_append] at mem
  have again : held.same d = true := Descriptor.same_trans like (Descriptor.same_symm same)
  rcases mem with mem | mem
  · simp [before held mem d (List.mem_cons_self)] at again
  · simp [Descriptor.same_comm held d, after held mem] at again

end Removal

section Addition

variable {b : Books} {key : String} {d : Descriptor}

/-- A new claim adds itself and leaves every other claim. -/
theorem mem_added {other : String} {e : Descriptor} :
    e ∈ (b.withClaims key (b.claims key ++ [d])).claims other ↔
      e ∈ b.claims other ∨ (other = key ∧ e = d) := by
  by_cases h : other = key
  · subst h
    simp
  · simp [claims_withClaims_of_ne h, h]

/-- When a claim is added, its key holds the module besides what was held before. -/
theorem holds_added {other : String} {e : Descriptor} :
    (b.withClaims key (b.claims key ++ [d])).Holds other e ↔
      b.Holds other e ∨ (other = key ∧ d.same e = true) := by
  simp only [Holds, mem_added, or_and_right, exists_or, and_assoc, exists_and_left, exists_eq_left]

/-- The books stay tidy when a claim is added that the key did not have. -/
theorem Tidy.added (tidy : b.Tidy) (new : ¬ b.Holds key d) :
    (b.withClaims key (b.claims key ++ [d])).Tidy := by
  intro other
  by_cases h : other = key
  · subst h
    rw [claims_withClaims_self, List.pairwise_append]
    refine ⟨tidy other, List.pairwise_singleton _ _, ?_⟩
    intro held mem e he
    rw [List.mem_singleton] at he
    subst he
    exact Bool.eq_false_iff.2 fun same => new ⟨held, mem, same⟩
  · rw [claims_withClaims_of_ne h]
    exact tidy other

end Addition

/-- What was reported after a module has been forgotten was reported before. -/
theorem reports_of_reports_forget {b : Books} {identity : String} {d : Descriptor}
    (h : (b.forget identity).Reports d) : b.Reports d := by
  obtain ⟨seen, is, state⟩ := h
  by_cases ne : d.identity = identity
  · simp [forget, ne] at is
  · exact ⟨seen, by simpa [forget, ne] using is, state⟩

end Books

/-! ## Surrender -/

/-- All pods that hold the module come before all pods of the listing that want it.  When the first
pod that wants it is visited, all others have let go. -/
def HoldersFirst (listing : List Pod) (b : Books) (d : Descriptor) : Prop :=
  ∀ key, b.Holds key d → ∀ early pod late, listing = early ++ pod :: late → pod.Wants d →
    key ∈ early.map Pod.key

/-- A pass hands a module over: it is held and wanted, but all pods that hold it come first. -/
structure HandsOver (listing : List Pod) (b : Books) (d : Descriptor) : Prop where
  held : b.Held d
  wanted : Wanted listing d
  late : HoldersFirst listing b d

/-- A pass takes a module for another one: no pod wants it, but besides a pod that holds it
another pod wants a module of the same identity. -/
structure Confuses (listing : List Pod) (b : Books) (d : Descriptor) : Prop where
  unwanted : ¬ Wanted listing d
  alike : ∃ key, b.Holds key d ∧ ∃ pod ∈ listing, pod.isTerminating = false ∧ pod.key ≠ key ∧
    ∃ e ∈ pod.descriptors, e.identity = d.identity

/-- A pass over a listing surrenders a module that is held when the pass begins: the last pod that
holds it lets go of it without an uninstall. -/
def Surrenders (listing : List Pod) (b : Books) (d : Descriptor) : Prop :=
  HandsOver listing b d ∨ Confuses listing b d

/-- What is surrendered does not depend on which of the same modules is meant. -/
theorem Surrenders.congr {listing : List Pod} {b : Books} {d e : Descriptor}
    (same : d.same e = true) (h : Surrenders listing b d) : Surrenders listing b e := by
  have back := Descriptor.same_symm same
  rcases h with ⟨held, wanted, late⟩ | ⟨unwanted, key, holds, pod, mem, alive, ne, x, hx, like⟩
  · refine .inl ⟨held.congr same, wanted.congr same, ?_⟩
    intro key holds early pod rest split wants
    exact late key (holds.congr back) early pod rest split (wants.congr back)
  · refine .inr ⟨fun wanted => unwanted (wanted.congr back), key, holds.congr same, pod, mem,
      alive, ne, x, hx, ?_⟩
    rw [like, Descriptor.identity_eq_of_same same]

/-! ## Entries -/

section Entries

variable (still : Prop) (listing : List Pod) (start : Books)

/-- An entry without a call.  If `still` holds then nobody reports on modules. -/
inductive Tacit : Books → Books → Prop where
  /-- Others report on modules. -/
  | news {b : Books} (seen : String → Option Biz.Sighting) (quiet : still → seen = b.seen) :
      Tacit b { b with seen := seen }
  /-- A pod lets go of a module that another pod holds or that is surrendered. -/
  | yield {b : Books} (key : String) (d : Descriptor) (left right : List Descriptor)
      (split : b.claims key = left ++ d :: right) (unwanted : ¬ WantedBy listing key d)
      (why : b.HeldElsewhere key d ∨ Surrenders listing start d) :
      Tacit b (b.withClaims key (left ++ right))
  /-- A pod takes up a module that the base reports or that another pod holds. -/
  | join {b : Books} (key : String) (d : Descriptor) (wanted : WantedBy listing key d)
      (new : ¬ b.Holds key d) (why : b.Reports d ∨ b.HeldElsewhere key d) :
      Tacit b (b.withClaims key (b.claims key ++ [d]))

/-- An entry that goes with a call. -/
inductive Noted : Books → Moment → Books → Prop where
  /-- An install, on behalf of a pod that wants the module, while nobody holds it. -/
  | install {b : Books} {moment : Moment} (key : String) (d : Descriptor) (delivered : Bool)
      (is : moment.command? = some ⟨.install, key, d, delivered⟩)
      (wanted : WantedBy listing key d) (unclaimed : ¬ b.Held d) (unreported : ¬ b.Reports d) :
      Noted b moment (if delivered then b.withClaims key (b.claims key ++ [d]) else b)
  /-- An uninstall, on behalf of the only pod that holds the module, while nobody wants it. -/
  | uninstall {b : Books} {moment : Moment} (key : String) (d : Descriptor)
      (left right : List Descriptor) (delivered : Bool)
      (is : moment.command? = some ⟨.uninstall, key, d, delivered⟩)
      (split : b.claims key = left ++ d :: right) (unwanted : ¬ Wanted listing d)
      (alone : ¬ b.HeldElsewhere key d)
      (sees : ∀ other, other ≠ key → moment.state.ledger.claimsOf other = b.claims other) :
      Noted b moment
        (if delivered then (b.withClaims key (left ++ right)).forget d.identity else b)
  /-- A call that is no command leaves the books alone. -/
  | other {b : Books} {moment : Moment} (is : moment.command? = none) : Noted b moment b

/-- The entries that account for how the books came to change while calls were made. -/
inductive Account : Books → List Moment → Books → Prop where
  | refl (b : Books) : Account b [] b
  | tacit {b b' c : Books} {record : List Moment} (entry : Tacit still listing start b b')
      (rest : Account b' record c) : Account b record c
  | noted {b b' c : Books} {moment : Moment} {record : List Moment}
      (entry : Noted listing b moment b') (rest : Account b' record c) :
      Account b (moment :: record) c

end Entries

variable {still : Prop} {listing : List Pod} {start : Books}

/-- The entry that goes with an install. -/
theorem Noted.of_install {b b' : Books} {moment : Moment} (entry : Noted listing b moment b')
    {key : String} {d : Descriptor} {delivered : Bool}
    (is : moment.command? = some ⟨.install, key, d, delivered⟩) :
    WantedBy listing key d ∧ ¬ b.Held d ∧ ¬ b.Reports d ∧
      b' = if delivered then b.withClaims key (b.claims key ++ [d]) else b := by
  cases entry with
  | install key' e delivered' is' wanted unclaimed unreported =>
    rw [is'] at is
    cases is
    exact ⟨wanted, unclaimed, unreported, rfl⟩
  | uninstall key' e left right delivered' is' =>
    rw [is'] at is
    cases is
  | other is' =>
    rw [is'] at is
    cases is

/-- The entry that goes with an uninstall. -/
theorem Noted.of_uninstall {b b' : Books} {moment : Moment} (entry : Noted listing b moment b')
    {key : String} {d : Descriptor} {delivered : Bool}
    (is : moment.command? = some ⟨.uninstall, key, d, delivered⟩) :
    ∃ left right, b.claims key = left ++ d :: right ∧ ¬ Wanted listing d ∧
      ¬ b.HeldElsewhere key d ∧
      (∀ other, other ≠ key → moment.state.ledger.claimsOf other = b.claims other) ∧
      b' = if delivered then (b.withClaims key (left ++ right)).forget d.identity else b := by
  cases entry with
  | install key' e delivered' is' =>
    rw [is'] at is
    cases is
  | uninstall key' e left right delivered' is' split unwanted alone sees =>
    rw [is'] at is
    cases is
    exact ⟨left, right, split, unwanted, alone, sees, rfl⟩
  | other is' =>
    rw [is'] at is
    cases is

/-! ## What one entry preserves -/

/-- A pod that wants a module does not lose its claim by a tacit entry. -/
theorem Tacit.holds {b b' : Books} (entry : Tacit still listing start b b') {key : String}
    {d : Descriptor} (wanted : WantedBy listing key d) (holds : b.Holds key d) :
    b'.Holds key d := by
  cases entry with
  | news => exact holds
  | yield key' e left right split unwanted =>
    refine Books.holds_of_removed split holds ?_
    by_contra h
    simp only [not_or, ne_eq, not_not, Bool.not_eq_false] at h
    obtain ⟨rfl, same⟩ := h
    exact unwanted (wanted.congr (Descriptor.same_symm same))
  | join => exact Books.holds_added.2 (.inl holds)

/-- A pod that wants a module does not lose its claim by an entry that goes with a call. -/
theorem Noted.holds {b b' : Books} {moment : Moment} (entry : Noted listing b moment b')
    {key : String} {d : Descriptor} (wanted : WantedBy listing key d) (holds : b.Holds key d) :
    b'.Holds key d := by
  cases entry with
  | install key' e delivered =>
    cases delivered with
    | false => exact holds
    | true => exact Books.holds_added.2 (.inl holds)
  | uninstall key' e left right delivered _ split unwanted =>
    cases delivered with
    | false => exact holds
    | true =>
      refine Books.holds_forget.2 (Books.holds_of_removed split holds (.inr ?_))
      exact Bool.eq_false_iff.2 fun same =>
        unwanted (wanted.wanted.congr (Descriptor.same_symm same))
  | other => exact holds

/-- A module that is not surrendered stays held through a tacit entry. -/
theorem Tacit.held {b b' : Books} (entry : Tacit still listing start b b') {d : Descriptor}
    (kept : ¬ Surrenders listing start d) (held : b.Held d) : b'.Held d := by
  obtain ⟨key, holds⟩ := held
  cases entry with
  | news => exact ⟨key, holds⟩
  | yield key' e left right split _ why =>
    cases same : e.same d with
    | false => exact ⟨key, Books.holds_of_removed split holds (.inr same)⟩
    | true =>
      rcases why with ⟨other, ne, more⟩ | surrendered
      · exact ⟨other, Books.holds_of_removed split (more.congr same) (.inl ne)⟩
      · exact absurd (surrendered.congr same) kept
  | join => exact ⟨key, Books.holds_added.2 (.inl holds)⟩

/-- A module stays held through an entry that goes with a call, unless that is its uninstall. -/
theorem Noted.held {b b' : Books} {moment : Moment} (entry : Noted listing b moment b')
    {d : Descriptor} (kept : moment.delivers .uninstall d = false) (held : b.Held d) :
    b'.Held d := by
  obtain ⟨key, holds⟩ := held
  cases entry with
  | install key' e delivered =>
    cases delivered with
    | false => exact ⟨key, holds⟩
    | true => exact ⟨key, Books.holds_added.2 (.inl holds)⟩
  | uninstall key' e left right delivered is split =>
    cases delivered with
    | false => exact ⟨key, holds⟩
    | true =>
      have other : e.same d = false := by simpa [Moment.delivers, is] using kept
      exact Books.held_forget.2 ⟨key, Books.holds_of_removed split holds (.inr other)⟩
  | other => exact ⟨key, holds⟩

/-- A tacit entry keeps the books tidy. -/
theorem Tacit.tidy {b b' : Books} (entry : Tacit still listing start b b') (tidy : b.Tidy) :
    b'.Tidy := by
  cases entry with
  | news => exact tidy
  | yield key d left right split => exact tidy.removed split
  | join key d _ new => exact tidy.added new

/-- An entry that goes with a call keeps the books tidy. -/
theorem Noted.tidy {b b' : Books} {moment : Moment} (entry : Noted listing b moment b')
    (tidy : b.Tidy) : b'.Tidy := by
  cases entry with
  | install key d delivered _ _ unclaimed =>
    cases delivered with
    | false => exact tidy
    | true => exact tidy.added fun holds => unclaimed ⟨key, holds⟩
  | uninstall key d left right delivered _ split =>
    cases delivered with
    | false => exact tidy
    | true => exact Books.tidy_forget.2 (tidy.removed split)
  | other => exact tidy

/-! ## What an account preserves -/

namespace Account

/-- One account may go on where another ends. -/
theorem trans {b c e : Books} {early late : List Moment}
    (first : Account still listing start b early c)
    (second : Account still listing start c late e) :
    Account still listing start b (early ++ late) e := by
  induction first with
  | refl => exact second
  | tacit entry _ ih => exact .tacit entry (ih second)
  | noted entry _ ih => exact .noted entry (ih second)

/-- An entry without a call is an account. -/
theorem single {b c : Books} (entry : Tacit still listing start b c) :
    Account still listing start b [] c :=
  .tacit entry (.refl c)

/-- An entry that goes with a call is an account of that call. -/
theorem one {b c : Books} {moment : Moment} (entry : Noted listing b moment c) :
    Account still listing start b [moment] c :=
  .noted entry (.refl c)

/-- Calls that are no commands leave the books alone. -/
theorem others {b : Books} {record : List Moment} (h : ∀ moment ∈ record, moment.command? = none) :
    Account still listing start b record b := by
  induction record with
  | nil => exact .refl b
  | cons moment record ih =>
    rw [List.forall_mem_cons] at h
    exact .noted (.other h.1) (ih h.2)

/-- An account may be cut at any of its calls. -/
theorem split {b c : Books} {early late : List Moment} {moment : Moment}
    (account : Account still listing start b (early ++ moment :: late) c) :
    ∃ x y, Account still listing start b early x ∧ Noted listing x moment y ∧
      Account still listing start y late c := by
  generalize whole : early ++ moment :: late = record at account
  induction account generalizing early with
  | refl => simp at whole
  | tacit entry _ ih =>
    obtain ⟨x, y, first, middle, last⟩ := ih whole
    exact ⟨x, y, .tacit entry first, middle, last⟩
  | @noted b b' _ first record entry rest ih =>
    cases early with
    | nil =>
      obtain ⟨rfl, rfl⟩ := List.cons_eq_cons.1 whole
      exact ⟨b, b', .refl b, entry, rest⟩
    | cons head early =>
      rw [List.cons_append, List.cons_eq_cons] at whole
      obtain ⟨rfl, tail⟩ := whole
      obtain ⟨x, y, first, middle, last⟩ := ih tail
      exact ⟨x, y, .noted entry first, middle, last⟩

/-- Books that are accounted for stay tidy. -/
theorem tidy {b c : Books} {record : List Moment} (account : Account still listing start b record c)
    (tidy : b.Tidy) : c.Tidy := by
  induction account with
  | refl => exact tidy
  | tacit entry _ ih => exact ih (entry.tidy tidy)
  | noted entry _ ih => exact ih (entry.tidy tidy)

/-- While nobody reports on modules, what is reported in the end was reported all along. -/
theorem reports {b c : Books} {record : List Moment}
    (account : Account still listing start b record c) (quiet : still) {d : Descriptor}
    (reported : c.Reports d) : b.Reports d := by
  induction account with
  | refl => exact reported
  | tacit entry _ ih =>
    cases entry with
    | news seen same =>
      have after := ih reported
      rw [same quiet] at after
      exact after
    | yield => exact ih reported
    | join => exact ih reported
  | noted entry _ ih =>
    cases entry with
    | install _ _ delivered =>
      have after := ih reported
      cases delivered <;> exact after
    | uninstall _ _ _ _ delivered =>
      have after := ih reported
      cases delivered with
      | false => exact after
      | true => exact Books.reports_of_reports_forget after
    | other => exact ih reported

/-- The claim of a pod that wants the module stays. -/
theorem holds_of_wantedBy {b c : Books} {record : List Moment}
    (account : Account still listing start b record c) {key : String} {d : Descriptor}
    (wanted : WantedBy listing key d) (holds : b.Holds key d) : c.Holds key d := by
  induction account with
  | refl => exact holds
  | tacit entry _ ih => exact ih (entry.holds wanted holds)
  | noted entry _ ih => exact ih (entry.holds wanted holds)

/-- A module that is held and neither surrendered nor uninstalled stays held. -/
theorem held {b c : Books} {record : List Moment}
    (account : Account still listing start b record c) {d : Descriptor}
    (kept : ¬ Surrenders listing start d)
    (present : ∀ moment ∈ record, moment.delivers .uninstall d = false) (held : b.Held d) :
    c.Held d := by
  induction account with
  | refl => exact held
  | tacit entry _ ih => exact ih present (entry.held kept held)
  | noted entry _ ih =>
    rw [List.forall_mem_cons] at present
    exact ih present.2 (entry.held present.1 held)

/-- When an install is published the pod wants the module and nobody holds it. -/
theorem install {b c : Books} {early late : List Moment} {moment : Moment} {key : String}
    {d : Descriptor} {delivered : Bool}
    (account : Account still listing start b (early ++ moment :: late) c)
    (is : moment.command? = some ⟨.install, key, d, delivered⟩) :
    ∃ x, Account still listing start b early x ∧ ¬ x.Held d ∧ WantedBy listing key d ∧
      Account still listing start
        (if delivered then x.withClaims key (x.claims key ++ [d]) else x) late c := by
  obtain ⟨x, y, first, entry, last⟩ := account.split
  obtain ⟨wanted, unclaimed, -, rfl⟩ := entry.of_install is
  exact ⟨x, first, unclaimed, wanted, last⟩

/-- When an uninstall is published no pod of the listing wants the module, and the ledger shows it
as held by no other pod. -/
theorem uninstall {b c : Books} {record : List Moment} {moment : Moment} {key : String}
    {d : Descriptor} {delivered : Bool} (account : Account still listing start b record c)
    (mem : moment ∈ record) (is : moment.command? = some ⟨.uninstall, key, d, delivered⟩) :
    ¬ Wanted listing d ∧ ∀ other, other ≠ key →
      ∀ held ∈ moment.state.ledger.claimsOf other, held.same d = false := by
  obtain ⟨early, late, rfl⟩ := List.append_of_mem mem
  obtain ⟨x, y, -, entry, -⟩ := account.split
  obtain ⟨left, right, -, unwanted, alone, sees, -⟩ := entry.of_uninstall is
  refine ⟨unwanted, fun other ne held held_mem => ?_⟩
  rw [sees other ne] at held_mem
  exact Bool.eq_false_iff.2 fun same => alone ⟨other, ne, held, held_mem, same⟩

/-- After an acknowledged install the module is held. -/
theorem held_of_installed {b c : Books} {record : List Moment} {moment : Moment}
    {d : Descriptor} (account : Account still listing start b record c) (mem : moment ∈ record)
    (is : moment.delivers .install d = true) : c.Held d := by
  obtain ⟨key, target, command, same⟩ := Moment.delivers_iff.1 is
  obtain ⟨early, late, rfl⟩ := List.append_of_mem mem
  obtain ⟨x, -, -, wanted, rest⟩ := account.install command
  refine ⟨key, rest.holds_of_wantedBy (wanted.congr same) ?_⟩
  exact Books.holds_added.2 (.inr ⟨rfl, same⟩)

end Account

end VirtualNode.Controller
