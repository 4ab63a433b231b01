import VirtualNode.Proofs.Ledger.Books

/-!
# Visits

A pass visits one pod after the other.  It takes the claims of the pod out of the ledger, releases
those that are not desired, acquires those that are missing, and puts what is held then back in.
While it does so the claims at hand are not in the ledger; the books of a visit count them in.

Main statements: what a pass does with one claim is accounted for by entries in the books
(`release_course`, `acquire_course`), and so is a visit as a whole, which besides touches the
claims of no other pod (`syncPod_course`, `releaseAll_course`).
-/

set_option autoImplicit false

namespace VirtualNode.Controller

open Biz (Descriptor)
open Kube (Pod)
open Dialogue (Course)
open Dialogue.Course (bind_iff state_iff update_iff request_iff done_iff)

/-! ## What does not matter -/

/-- To remove a sighting is to forget it in the books. -/
theorem Desk.books_forget (d : Desk) (identity : String) :
    Desk.books { d with sightings := d.sightings.remove identity } = d.books.forget identity := by
  simp only [Desk.books, Books.forget, Books.mk.injEq, true_and]
  funext other
  simp [Biz.Sightings.get?_remove, Function.update_apply, eq_comm]

/-- It does not matter whether a sighting is forgotten before or after claims are entered. -/
theorem Books.withClaims_forget (b : Books) (identity key : String) (held : List Descriptor) :
    (b.forget identity).withClaims key held = (b.withClaims key held).forget identity :=
  rfl

/-- The claims are as they were, and so is what was seen of modules if nobody reports. -/
structure Desk.Keeps (still : Prop) (s t : Desk) : Prop where
  claims : ∀ key, t.ledger.claims.get? key = s.ledger.claims.get? key
  sightings : still → ∀ identity, t.sightings.get? identity = s.sightings.get? identity

namespace Desk.Keeps

variable {still : Prop} {s t u : Desk}

/-- Nothing at all keeps the claims. -/
theorem refl (still : Prop) (s : Desk) : Keeps still s s :=
  ⟨fun _ => rfl, fun _ _ => rfl⟩

/-- What keeps the claims may go on. -/
theorem trans (first : Keeps still s t) (second : Keeps still t u) : Keeps still s u :=
  ⟨fun key => (second.claims key).trans (first.claims key),
    fun quiet identity => (second.sightings quiet identity).trans (first.sightings quiet identity)⟩

/-- What the others do meanwhile keeps the claims. -/
theorem of_aside (h : Desk.Aside still s t) : Keeps still s t := ⟨h.claims, h.sightings⟩

/-- Where ledger and sightings have the same claims and sightings, they are kept. -/
theorem of_eq (claims : t.ledger.claims = s.ledger.claims) (sightings : t.sightings = s.sightings) :
    Keeps still s t :=
  ⟨fun _ => by rw [claims], fun _ _ => by rw [sightings]⟩

/-- Each key has the claims that it had. -/
theorem claimsOf (h : Keeps still s t) : t.ledger.claimsOf = s.ledger.claimsOf := by
  funext key
  simp [Ledger.claimsOf, h.claims key]

/-- What is held elsewhere stays so. -/
theorem heldElsewhere (h : Keeps still s t) {key : String} {d : Descriptor} :
    t.books.HeldElsewhere key d ↔ s.books.HeldElsewhere key d := by
  simp [Books.HeldElsewhere, Books.Holds, Desk.books, h.claimsOf]

/-- What is held stays so. -/
theorem held (h : Keeps still s t) {d : Descriptor} : t.books.Held d ↔ s.books.Held d := by
  simp [Books.Held, Books.Holds, Desk.books, h.claimsOf]

/-- What the base reports stays so, if nobody reports. -/
theorem reports (h : Keeps still s t) (quiet : still) {d : Descriptor} :
    t.books.Reports d ↔ s.books.Reports d := by
  simp [Books.Reports, Desk.books, h.sightings quiet]

/-- What does not matter makes no difference to what is forgotten. -/
theorem forget (h : Keeps still s t) (identity : String) :
    Keeps still { s with sightings := s.sightings.remove identity }
      { t with sightings := t.sightings.remove identity } := by
  refine ⟨h.claims, fun quiet other => ?_⟩
  simp [Biz.Sightings.get?_remove, h.sightings quiet]

/-- What does not matter needs no entry but for news. -/
theorem account (h : Keeps still s t) {listing : List Pod} {start : Books} (key : String)
    (held : List Descriptor) :
    Account still listing start (s.books.withClaims key held) []
      (t.books.withClaims key held) := by
  have news : Tacit still listing start (s.books.withClaims key held)
      { s.books.withClaims key held with seen := t.sightings.get? } :=
    .news _ fun quiet => funext (h.sightings quiet)
  have same : t.books.withClaims key held =
      { s.books.withClaims key held with seen := t.sightings.get? } := by
    simp [Books.withClaims, Desk.books, h.claimsOf]
  rw [same]
  exact .single news

/-- What does not matter needs no entry but for news. -/
theorem account_books (h : Keeps still s t) {listing : List Pod} {start : Books} :
    Account still listing start s.books [] t.books := by
  have whole : Account still listing start _ [] _ := h.account "" (s.ledger.claimsOf "")
  have before : s.books.withClaims "" (s.ledger.claimsOf "") = s.books :=
    Books.withClaims_claims_self s.books ""
  have after : t.books.withClaims "" (s.ledger.claimsOf "") = t.books := by
    rw [← h.claimsOf]
    exact Books.withClaims_claims_self t.books ""
  rwa [before, after] at whole

end Desk.Keeps

/-! ## Who holds and who wants -/

/-- The ledger shows who else holds a module. -/
theorem Ledger.heldElsewhere_iff {s : Desk} {key : String} {d : Descriptor} :
    s.ledger.heldElsewhere key d = true ↔ s.books.HeldElsewhere key d := by
  simp only [heldElsewhere, List.any_eq_true, Bool.and_eq_true, decide_eq_true_eq,
    Books.HeldElsewhere, Books.Holds, Desk.books, claimsOf]
  constructor
  · rintro ⟨⟨other, held⟩, mem, ne, e, he, same⟩
    rw [← Table.get?_eq_some_iff] at mem
    exact ⟨other, ne, e, by simpa [mem] using he, same⟩
  · rintro ⟨other, ne, e, he, same⟩
    cases is : s.ledger.claims.get? other with
    | none => simp [is] at he
    | some held =>
      refine ⟨(other, held), (Table.get?_eq_some_iff _ _ _).1 is, ne, e, ?_, same⟩
      simpa [is] using he

/-- The ledger shows what is held. -/
theorem Desk.held_iff {s : Desk} {d : Descriptor} :
    s.books.Held d ↔ ∃ entry ∈ s.ledger.claims.entries, ∃ e ∈ entry.2, e.same d = true := by
  simp only [Books.Held, Books.Holds, Desk.books, Ledger.claimsOf]
  constructor
  · rintro ⟨key, e, he, same⟩
    cases is : s.ledger.claims.get? key with
    | none => simp [is] at he
    | some held =>
      exact ⟨(key, held), (Table.get?_eq_some_iff _ _ _).1 is, e, by simpa [is] using he, same⟩
  · rintro ⟨⟨key, held⟩, mem, e, he, same⟩
    rw [← Table.get?_eq_some_iff] at mem
    exact ⟨key, e, by simpa [mem] using he, same⟩

instance (s : Desk) (d : Descriptor) : Decidable (s.books.Held d) :=
  decidable_of_iff _ Desk.held_iff.symm

/-- The inbox shows what the base reports. -/
theorem Inbox.alreadyThere_iff {s : Desk} {d : Descriptor} :
    s.toInbox.alreadyThere d = true ↔ s.books.Reports d := by
  simp only [alreadyThere, Books.Reports, Desk.books]
  cases s.sightings.get? d.identity with
  | none => simp
  | some seen => simp

/-- A module is wanted elsewhere if a live pod of another key has a container of its identity. -/
theorem wantedElsewhere_iff {listing : List Pod} {key : String} {d : Descriptor} :
    wantedElsewhere listing key d = true ↔
      ∃ pod ∈ listing, pod.isTerminating = false ∧ pod.key ≠ key ∧
        ∃ e ∈ pod.descriptors, e.identity = d.identity := by
  simp [wantedElsewhere, and_assoc]

/-- A module that no other pod wants by its identity, and that the pod itself does not want, is
wanted by nobody. -/
theorem not_wanted_of_not_wantedElsewhere {listing : List Pod} {key : String} {d : Descriptor}
    (elsewhere : ¬ wantedElsewhere listing key d = true) (here : ¬ WantedBy listing key d) :
    ¬ Wanted listing d := by
  rintro ⟨pod, mem, alive, e, he, same⟩
  by_cases is : pod.key = key
  · exact here ⟨pod, mem, is, alive, e, he, same⟩
  · exact elsewhere (wantedElsewhere_iff.2
      ⟨pod, mem, alive, is, e, he, Descriptor.identity_eq_of_same same⟩)

variable {still : Prop} {listing : List Pod} {start : Books} {s t : Desk} {record : List Moment}

/-- Claims of other pods that were not touched are held as before. -/
theorem heldElsewhere_of_frame {key : String}
    (frame : ∀ other, other ≠ key → t.ledger.claims.get? other = s.ledger.claims.get? other)
    {d : Descriptor} : t.books.HeldElsewhere key d ↔ s.books.HeldElsewhere key d := by
  refine exists_congr fun other => and_congr_right fun ne => ?_
  simp [Books.Holds, Desk.books, Ledger.claimsOf, frame other ne]

/-! ## One command -/

/-- Publishing a command is one call, made with the desk as it is. -/
theorem publishCommand_course {verb : Verb} {key : String} {d : Descriptor} {delivered : Bool}
    (course : Course (Desk.Aside still) (publishCommand verb key d) s record delivered t) :
    ∃ moment : Moment, record = [moment] ∧ moment.state = s ∧
      moment.command? = some ⟨verb, key, d, delivered⟩ ∧ Desk.Keeps still s t := by
  simp only [publishCommand, Activity.call, Activity.change, Dialogue.bind_eq, bind_iff,
    request_iff, update_iff] at course
  obtain ⟨_, outcome, s₁, _, rfl, ⟨rfl, m₁⟩, _, _, s₂, _, rfl, ⟨rfl, s₃, m₂, rfl⟩, course⟩ := course
  refine ⟨⟨⟨.command verb key d, outcome⟩, s⟩, ?_⟩
  have early : Desk.Keeps still s (s₃.noteTransport outcome) :=
    ((Desk.Keeps.of_aside m₁).trans (.of_aside m₂)).trans (.of_eq rfl rfl)
  cases outcome with
  | ok done =>
    simp only [bind_iff, update_iff, Dialogue.pure_eq, done_iff] at course
    obtain ⟨_, _, s₄, _, rfl, ⟨rfl, s₅, m₃, rfl⟩, rfl, rfl, rfl⟩ := course
    refine ⟨rfl, rfl, rfl, early.trans ((Desk.Keeps.of_aside m₃).trans ?_)⟩
    exact .of_eq rfl rfl
  | error fault =>
    simp only [bind_iff, update_iff, Dialogue.pure_eq, done_iff] at course
    obtain ⟨_, _, s₄, _, rfl, ⟨rfl, s₅, m₃, rfl⟩, rfl, rfl, rfl⟩ := course
    refine ⟨rfl, rfl, rfl, early.trans ((Desk.Keeps.of_aside m₃).trans ?_)⟩
    exact .of_eq rfl rfl

/-! ## Releasing -/

/-- What became of a claim at hand that was to be released: it is given up, or else an uninstall was
tried in vain and nobody wants the module. -/
structure GivenUp (still : Prop) (listing : List Pod) (start : Books) (key : String)
    (d : Descriptor) (s : Desk) (record : List Moment) (gone : Bool) (t : Desk) : Prop where
  account : ∀ left right, Account still listing start
    (s.books.withClaims key (left ++ d :: right)) record
    (t.books.withClaims key (if gone then left ++ right else left ++ d :: right))
  frame : ∀ other, t.ledger.claims.get? other = s.ledger.claims.get? other
  tried : gone = false → ¬ Wanted listing d ∧ Failed .uninstall d record

/-- A release gives the module up, in one of the ways in which that can go. -/
theorem release_course {key : String} {d : Descriptor} {gone : Bool}
    (course : Course (Desk.Aside still) (release listing key d) s record gone t)
    (undesired : ¬ WantedBy listing key d)
    (surrender : wantedElsewhere listing key d = true → ¬ s.books.HeldElsewhere key d →
      Surrenders listing start d) :
    GivenUp still listing start key d s record gone t := by
  simp only [release, Activity.desk, Dialogue.bind_eq, bind_iff, state_iff] at course
  obtain ⟨_, s₁, _, late, rfl, ⟨rfl, m₁, rfl⟩, course⟩ := course
  have first : ∀ left right, Account still listing start _ [] _ :=
    fun left right => (Desk.Keeps.of_aside m₁).account key (left ++ d :: right)
  have split : ∀ left right, (s₁.books.withClaims key (left ++ d :: right)).claims key =
      left ++ d :: right := fun _ _ => Books.claims_withClaims_self _ _ _
  rw [List.nil_append]
  split at course
  · -- another pod wants or holds the module
    rename_i used
    obtain ⟨rfl, rfl, rfl⟩ := done_iff.1 course
    rw [Bool.or_eq_true] at used
    have why : t.books.HeldElsewhere key d ∨ Surrenders listing start d := by
      by_cases held : t.books.HeldElsewhere key d
      · exact .inl held
      · have wanted := used.resolve_right fun h => held (Ledger.heldElsewhere_iff.1 h)
        exact .inr (surrender wanted fun h => held ((Desk.Keeps.of_aside m₁).heldElsewhere.2 h))
    refine ⟨fun left right => ?_, m₁.claims, by simp⟩
    have entry : Tacit still listing start _ _ :=
      .yield key d left right (split left right) undesired
        (why.imp_left Books.heldElsewhere_withClaims.2)
    simpa using (first left right).trans (.single entry)
  · -- an uninstall is published
    rename_i unused
    rw [Bool.or_eq_true, not_or] at unused
    have unwanted := not_wanted_of_not_wantedElsewhere unused.1 undesired
    have alone : ¬ s₁.books.HeldElsewhere key d := fun h =>
      unused.2 (Ledger.heldElsewhere_iff.2 h)
    obtain ⟨_, delivered, s₂, _, rfl, published, course⟩ := bind_iff.1 course
    obtain ⟨moment, rfl, rfl, is, keeps⟩ := publishCommand_course published
    have entry : ∀ left right, Noted listing _ moment _ := fun left right =>
      .uninstall key d left right delivered is (split left right) unwanted
        (fun h => alone (Books.heldElsewhere_withClaims.1 h))
        (fun other ne => (Books.claims_withClaims_of_ne (b := moment.state.books) ne).symm)
    cases delivered with
    | false =>
      simp only [Bool.false_eq_true, if_false, Dialogue.pure_eq, done_iff] at course
      obtain ⟨rfl, rfl, rfl⟩ := course
      refine ⟨fun left right => ?_, fun other => (keeps.claims other).trans (m₁.claims other),
        fun _ => ⟨unwanted, ?_⟩⟩
      · have tried : Account still listing start _ [moment] _ := .one (entry left right)
        simpa using (first left right).trans (tried.trans (keeps.account key _))
      · exact ⟨moment, by simp, by simp [Moment.issues, is], by simp [Moment.fails, is]⟩
    | true =>
      simp only [if_true, Dialogue.pure_eq, Activity.change, bind_iff, update_iff, done_iff] at course
      obtain ⟨_, _, s₃, _, rfl, ⟨rfl, s₄, m₂, rfl⟩, rfl, rfl, rfl⟩ := course
      have quiet := keeps.trans (.of_aside m₂)
      refine ⟨fun left right => ?_, fun other => (quiet.claims other).trans (m₁.claims other),
        by simp⟩
      have last : Account still listing start _ [] _ :=
        (quiet.forget d.identity).account key (left ++ right)
      rw [Desk.books_forget, Books.withClaims_forget] at last
      have uninstalled := entry left right
      simp only [if_true, Books.withClaims_withClaims] at uninstalled ⊢
      exact (first left right).trans ((Account.one uninstalled).trans last)

/-- What became of a claim at hand: it is kept if the module is desired, and else only if it could
not be uninstalled. -/
structure Retained (still : Prop) (listing : List Pod) (start : Books) (key : String)
    (desired : List Descriptor) (d : Descriptor) (s : Desk) (record : List Moment) (kept : Bool)
    (t : Desk) : Prop where
  account : ∀ left right, Account still listing start
    (s.books.withClaims key (left ++ d :: right)) record
    (t.books.withClaims key (if kept then left ++ d :: right else left ++ right))
  frame : ∀ other, t.ledger.claims.get? other = s.ledger.claims.get? other
  wished : desired.any (·.same d) = true → kept = true
  why : kept = true → desired.any (·.same d) = true ∨
    (¬ Wanted listing d ∧ Failed .uninstall d record)

/-- A module that is gone over is kept if it is desired, and else is given up. -/
theorem retain_course {key : String} {desired : List Descriptor} {d : Descriptor} {kept : Bool}
    (course : Course (Desk.Aside still) (retain listing key desired d) s record kept t)
    (undesired : desired.any (·.same d) = false → ¬ WantedBy listing key d)
    (surrender : desired.any (·.same d) = false → wantedElsewhere listing key d = true →
      ¬ s.books.HeldElsewhere key d → Surrenders listing start d) :
    Retained still listing start key desired d s record kept t := by
  rw [retain] at course
  split at course
  · rename_i wished
    obtain ⟨rfl, rfl, rfl⟩ := done_iff.1 course
    exact ⟨fun _ _ => .refl _, fun _ => rfl, fun _ => rfl, fun _ => .inl wished⟩
  · rename_i unwished
    rw [Bool.not_eq_true] at unwished
    obtain ⟨_, gone, s₁, _, rfl, released, ended⟩ := bind_iff.1 course
    obtain ⟨rfl, rfl, rfl⟩ := done_iff.1 ended
    have given_up : GivenUp still listing start key d s _ gone t :=
      release_course released (undesired unwished) (surrender unwished)
    rw [List.append_nil]
    refine ⟨fun left right => ?_, given_up.frame, by simp [unwished], ?_⟩
    · have account := given_up.account left right
      cases gone <;> exact account
    · intro kept
      exact .inr (given_up.tried (by simpa using kept))

/-- What became of the claims at hand after those that are not desired were released. -/
structure Released (still : Prop) (listing : List Pod) (start : Books) (key : String)
    (desired previous : List Descriptor) (s : Desk) (record : List Moment)
    (held : List Descriptor) (t : Desk) : Prop where
  account : ∀ left, Account still listing start (s.books.withClaims key (left ++ previous)) record
    (t.books.withClaims key (left ++ held))
  frame : ∀ other, t.ledger.claims.get? other = s.ledger.claims.get? other
  old : ∀ d ∈ held, d ∈ previous
  wished : ∀ d ∈ previous, desired.any (·.same d) = true → d ∈ held
  kept : ∀ d ∈ held, desired.any (·.same d) = true ∨
    (¬ Wanted listing d ∧ Failed .uninstall d record)

/-- A sweep goes over the first module and then over the rest. -/
theorem Released.cons {key : String} {desired rest held : List Descriptor} {d : Descriptor}
    {early late : List Moment} {kept : Bool} {s' : Desk}
    (one : Retained still listing start key desired d s early kept s')
    (later : Released still listing start key desired rest s' late held t) :
    Released still listing start key desired (d :: rest) s (early ++ late)
      (if kept then d :: held else held) t := by
  have keptLater : ∀ e ∈ held, desired.any (·.same e) = true ∨
      (¬ Wanted listing e ∧ Failed .uninstall e (early ++ late)) := by
    intro e mem
    rcases later.kept e mem with wish | ⟨unwanted, failed⟩
    · exact .inl wish
    · exact .inr ⟨unwanted, failed_append.2 (.inr failed)⟩
  refine ⟨fun left => ?_, fun other => (later.frame other).trans (one.frame other), ?_, ?_, ?_⟩
  · have first := one.account left rest
    cases kept with
    | false => exact first.trans (later.account left)
    | true =>
      have second := later.account (left ++ [d])
      rw [List.append_assoc, List.append_assoc] at second
      exact first.trans second
  · intro e mem
    cases kept with
    | false => exact List.mem_cons_of_mem _ (later.old e mem)
    | true =>
      rcases List.mem_cons.1 mem with rfl | mem
      · exact List.mem_cons_self
      · exact List.mem_cons_of_mem _ (later.old e mem)
  · intro e mem wish
    rcases List.mem_cons.1 mem with rfl | mem
    · rw [one.wished wish]
      exact List.mem_cons_self
    · have now := later.wished e mem wish
      cases kept with
      | false => exact now
      | true => exact List.mem_cons_of_mem _ now
  · intro e mem
    cases kept with
    | false => exact keptLater e mem
    | true =>
      rcases List.mem_cons.1 mem with rfl | mem
      · rcases one.why rfl with wish | ⟨unwanted, failed⟩
        · exact .inl wish
        · exact .inr ⟨unwanted, failed_append.2 (.inl failed)⟩
      · exact keptLater e mem

/-- A sweep goes over all modules that were held. -/
theorem releaseUndesired_course {key : String} {desired previous held : List Descriptor}
    (course : Course (Desk.Aside still) (releaseUndesired listing key desired previous)
      s record held t)
    (undesired : ∀ d, desired.any (·.same d) = false → ¬ WantedBy listing key d)
    (surrender : ∀ d ∈ previous, desired.any (·.same d) = false →
      wantedElsewhere listing key d = true → ¬ s.books.HeldElsewhere key d →
      Surrenders listing start d) :
    Released still listing start key desired previous s record held t := by
  induction previous generalizing s record held with
  | nil =>
    obtain ⟨rfl, rfl, rfl⟩ := done_iff.1 course
    exact ⟨fun _ => .refl _, fun _ => rfl, by simp, by simp, by simp⟩
  | cons d rest ih =>
    obtain ⟨early, kept, s₁, _, rfl, retained, course⟩ := bind_iff.1 course
    obtain ⟨late, held, _, _, rfl, released, ended⟩ := bind_iff.1 course
    obtain ⟨rfl, rfl, rfl⟩ := done_iff.1 ended
    rw [List.append_nil]
    rw [List.forall_mem_cons] at surrender
    have one : Retained still listing start key desired d s early kept s₁ :=
      retain_course retained (undesired d) surrender.1
    refine .cons one (ih released ?_)
    intro e mem unwished wanted alone
    refine surrender.2 e mem unwished wanted fun h => alone ?_
    exact (heldElsewhere_of_frame fun other _ => one.frame other).2 h

/-! ## Acquiring -/

/-- What became of a desired module that is not at hand: the claim is taken up, or else an install
was tried in vain and nobody else holds the module. -/
structure TakenUp (still : Prop) (listing : List Pod) (start : Books) (key : String)
    (held : List Descriptor) (d : Descriptor) (s : Desk) (record : List Moment) (stands : Bool)
    (t : Desk) : Prop where
  account : Account still listing start (s.books.withClaims key held) record
    (t.books.withClaims key (if stands then held ++ [d] else held))
  frame : ∀ other, t.ledger.claims.get? other = s.ledger.claims.get? other
  sightings : still → ∀ identity, t.sightings.get? identity = s.sightings.get? identity
  tried : stands = false → ¬ s.books.HeldElsewhere key d ∧ Failed .install d record
  installs : still → ¬ s.books.HeldElsewhere key d → ¬ s.books.Reports d →
    Issues .install d record

/-- An acquisition takes the module up, in one of the ways in which that can go. -/
theorem acquire_course {key : String} {d : Descriptor} {stands : Bool}
    (course : Course (Desk.Aside still) (acquire key d) s record stands t)
    (wanted : WantedBy listing key d) {held : List Descriptor}
    (new : ∀ e ∈ held, e.same d = false) :
    TakenUp still listing start key held d s record stands t := by
  simp only [acquire, Activity.desk, Dialogue.bind_eq, bind_iff, state_iff] at course
  obtain ⟨_, s₁, _, late, rfl, ⟨rfl, m₁, rfl⟩, course⟩ := course
  have first : Account still listing start _ [] _ := (Desk.Keeps.of_aside m₁).account key held
  have mine : (s₁.books.withClaims key held).claims key = held :=
    Books.claims_withClaims_self _ _ _
  have unheld : ¬ (s₁.books.withClaims key held).Holds key d := by
    rintro ⟨e, mem, same⟩
    rw [mine] at mem
    simp [new e mem] at same
  rw [List.nil_append]
  split at course
  · -- the base reports the module or another pod holds it
    rename_i there
    obtain ⟨rfl, rfl, rfl⟩ := done_iff.1 course
    rw [Bool.or_eq_true, Inbox.alreadyThere_iff, Ledger.heldElsewhere_iff] at there
    have entry : Tacit still listing start _ _ :=
      .join key d wanted unheld (there.imp_right Books.heldElsewhere_withClaims.2)
    rw [mine, Books.withClaims_withClaims] at entry
    refine ⟨first.trans (.single entry), m₁.claims, m₁.sightings, by simp, ?_⟩
    intro quiet alone unreported
    have keeps := Desk.Keeps.of_aside m₁
    rw [keeps.reports quiet, keeps.heldElsewhere] at there
    exact absurd there (by simp [alone, unreported])
  · -- an install is published
    rename_i absent
    rw [Bool.or_eq_true, not_or, Inbox.alreadyThere_iff, Ledger.heldElsewhere_iff] at absent
    obtain ⟨moment, rfl, rfl, is, keeps⟩ := publishCommand_course course
    have unclaimed : ¬ (moment.state.books.withClaims key held).Held d := by
      rw [Books.held_withClaims]
      rintro (⟨e, mem, same⟩ | h)
      · simp [new e mem] at same
      · exact absent.2 h
    have entry : Noted listing _ moment _ := .install key d stands is wanted unclaimed absent.1
    rw [mine, Books.withClaims_withClaims] at entry
    refine ⟨?_, fun other => (keeps.claims other).trans (m₁.claims other),
      fun quiet identity => (keeps.sightings quiet identity).trans (m₁.sightings quiet identity),
      ?_, ?_⟩
    · cases stands <;> exact first.trans ((Account.one entry).trans (keeps.account key _))
    · rintro rfl
      refine ⟨fun h => absent.2 ((Desk.Keeps.of_aside m₁).heldElsewhere.2 h), moment, by simp, ?_⟩
      exact ⟨by simp [Moment.issues, is], by simp [Moment.fails, is]⟩
    · intro _ _ _
      exact ⟨moment, by simp, by simp [Moment.issues, is]⟩

/-- What became of the claims at hand after the missing ones were acquired. -/
structure Acquired (still : Prop) (listing : List Pod) (start : Books) (key : String)
    (missing held : List Descriptor) (s : Desk) (record : List Moment)
    (result : List Descriptor) (t : Desk) : Prop where
  account : Account still listing start (s.books.withClaims key held) record
    (t.books.withClaims key result)
  frame : ∀ other, t.ledger.claims.get? other = s.ledger.claims.get? other
  old : ∀ d ∈ held, d ∈ result
  new : ∀ d ∈ result, d ∈ held ∨ d ∈ missing
  gained : ∀ d ∈ missing, (∃ e ∈ result, e.same d = true) ∨
    (¬ s.books.HeldElsewhere key d ∧ Failed .install d record)
  installs : still → ∀ d ∈ missing, (∀ e ∈ held, e.same d = false) →
    ¬ s.books.HeldElsewhere key d → ¬ s.books.Reports d →
    Issues .install d record

/-- A module that is at hand needs nothing. -/
theorem Acquired.cons_of_held {key : String} {rest held result : List Descriptor} {d e : Descriptor}
    (mem : e ∈ held) (same : e.same d = true)
    (later : Acquired still listing start key rest held s record result t) :
    Acquired still listing start key (d :: rest) held s record result t := by
  refine ⟨later.account, later.frame, later.old, ?_, ?_, ?_⟩
  · intro x present
    exact (later.new x present).imp_right (List.mem_cons_of_mem _)
  · rw [List.forall_mem_cons]
    exact ⟨.inl ⟨e, later.old e mem, same⟩, later.gained⟩
  · intro quiet
    rw [List.forall_mem_cons]
    refine ⟨fun absent => ?_, later.installs quiet⟩
    exact absurd same (by simp [absent e mem])

/-- A fetch goes over the first module and then over the rest. -/
theorem Acquired.cons {key : String} {rest held result : List Descriptor} {d : Descriptor}
    {early late : List Moment} {stands : Bool} {s' : Desk}
    (one : TakenUp still listing start key held d s early stands s')
    (later : Acquired still listing start key rest (if stands then held ++ [d] else held) s' late
      result t) :
    Acquired still listing start key (d :: rest) held s (early ++ late) result t := by
  have elsewhere : ∀ e, s'.books.HeldElsewhere key e ↔ s.books.HeldElsewhere key e :=
    fun e => heldElsewhere_of_frame fun other _ => one.frame other
  have at_hand : ∀ e, e ∈ (if stands then held ++ [d] else held) → e ∈ held ∨ e = d := by
    intro e mem
    cases stands with
    | false => exact .inl mem
    | true => simpa using mem
  refine ⟨one.account.trans later.account,
    fun other => (later.frame other).trans (one.frame other), ?_, ?_, ?_, ?_⟩
  · intro e mem
    exact later.old e (by cases stands <;> simp [mem])
  · intro e mem
    rcases later.new e mem with mem | mem
    · rcases at_hand e mem with mem | rfl
      · exact .inl mem
      · exact .inr List.mem_cons_self
    · exact .inr (List.mem_cons_of_mem _ mem)
  · rw [List.forall_mem_cons]
    constructor
    · cases stands with
      | false =>
        obtain ⟨alone, failed⟩ := one.tried rfl
        exact .inr ⟨alone, failed_append.2 (.inl failed)⟩
      | true => exact .inl ⟨d, later.old d (by simp), by simp⟩
    · intro e mem
      rcases later.gained e mem with held | ⟨alone, failed⟩
      · exact .inl held
      · exact .inr ⟨fun h => alone ((elsewhere e).2 h), failed_append.2 (.inr failed)⟩
  · intro quiet
    have reports : ∀ e, s'.books.Reports e ↔ s.books.Reports e := by
      simp [Books.Reports, Desk.books, one.sightings quiet]
    rw [List.forall_mem_cons]
    constructor
    · intro _ alone unreported
      exact issues_append.2 (.inl (one.installs quiet alone unreported))
    · intro e mem lacks alone unreported
      rw [issues_append]
      by_cases same : d.same e = true
      · have issued := one.installs quiet (fun h => alone (h.congr same))
          (fun h => unreported (h.congr same))
        exact .inl (issued.congr same)
      · refine .inr (later.installs quiet e mem ?_ ?_ ?_)
        · intro x present
          rcases at_hand x present with present | rfl
          · exact lacks x present
          · simpa using same
        · exact fun h => alone ((elsewhere e).1 h)
        · exact fun h => unreported ((reports e).1 h)

/-- A fetch goes over all modules that are desired. -/
theorem acquireMissing_course {key : String} {missing held result : List Descriptor}
    (course : Course (Desk.Aside still) (acquireMissing key held missing) s record result t)
    (wanted : ∀ d ∈ missing, WantedBy listing key d) :
    Acquired still listing start key missing held s record result t := by
  induction missing generalizing s record held with
  | nil =>
    obtain ⟨rfl, rfl, rfl⟩ := done_iff.1 course
    exact ⟨.refl _, fun _ => rfl, fun _ => id, fun _ => .inl, by simp, by simp⟩
  | cons d rest ih =>
    rw [List.forall_mem_cons] at wanted
    rw [acquireMissing] at course
    split at course
    · rename_i present
      obtain ⟨e, mem, same⟩ := List.any_eq_true.1 present
      exact .cons_of_held mem same (ih course wanted.2)
    · rename_i absent
      rw [Bool.not_eq_true, List.any_eq_false] at absent
      have new : ∀ e ∈ held, e.same d = false := fun e mem => by simpa using absent e mem
      obtain ⟨early, stands, s₁, late, rfl, acquired, course⟩ := bind_iff.1 course
      have one : TakenUp still listing start key held d s early stands s₁ :=
        acquire_course acquired wanted.1 new
      exact .cons one (ih course wanted.2)

/-! ## A whole visit -/

/-- To enter the claims of a key after they were dropped is to enter them. -/
theorem Desk.books_dropClaims (d : Desk) (key : String) (held : List Descriptor) :
    (d.updateLedger (·.dropClaims key)).books.withClaims key held = d.books.withClaims key held := by
  simp only [Desk.books, Books.withClaims, Desk.updateLedger, Books.mk.injEq, and_true]
  funext other
  by_cases h : other = key
  · simp [h]
  · simp [Function.update_of_ne h, Ledger.claimsOf, Ledger.dropClaims, Table.get?_erase, Ne.symm h]

/-- An entry is made only for claims that are not empty, and other entries stay. -/
theorem Ledger.get?_setClaims (l : Ledger) (key other : String) (held : List Descriptor) :
    (l.setClaims key held).claims.get? other =
      if held ≠ [] ∧ key = other then some held else l.claims.get? other := by
  cases held with
  | nil => simp [setClaims]
  | cons d rest => simp [setClaims, Table.get?_insert]

/-- Claims that are put back in count as claims at hand. -/
theorem Desk.books_setClaims (d : Desk) (key : String) (held : List Descriptor)
    (out : d.ledger.claims.get? key = none) :
    (d.updateLedger (·.setClaims key held)).books = d.books.withClaims key held := by
  simp only [Desk.books, Books.withClaims, Desk.updateLedger, Books.mk.injEq, and_true]
  funext other
  rw [Ledger.claimsOf, Ledger.get?_setClaims]
  by_cases h : other = key
  · subst h
    by_cases empty : held = []
    · simp [empty, out]
    · simp [empty]
  · simp [Function.update_of_ne h, Ledger.claimsOf, Ne.symm h]

/-- The claims of a pod were taken out of the ledger and are at hand. -/
structure TakenOut (still : Prop) (listing : List Pod) (start : Books) (key : String)
    (s t : Desk) : Prop where
  account : Account still listing start s.books []
    (t.books.withClaims key (s.ledger.claimsOf key))
  out : t.ledger.claims.get? key = none
  frame : ∀ other, other ≠ key → t.ledger.claims.get? other = s.ledger.claims.get? other

/-- To drop the claims of a key is to take them out of the books. -/
theorem takenOut_dropClaims {key : String} (keeps : Desk.Keeps still s t) :
    TakenOut still listing start key s (t.updateLedger (·.dropClaims key)) := by
  refine ⟨?_, ?_, ?_⟩
  · have all : t.books.withClaims key (s.ledger.claimsOf key) = t.books := by
      rw [← keeps.claimsOf]
      exact Books.withClaims_claims_self t.books key
    rw [Desk.books_dropClaims, all]
    exact keeps.account_books
  · simp [Desk.updateLedger, Ledger.dropClaims, Table.get?_erase]
  · intro other ne
    simp [Desk.updateLedger, Ledger.dropClaims, Table.get?_erase, Ne.symm ne, keeps.claims]

/-- Claims at hand were put back into the ledger. -/
structure PutIn (still : Prop) (listing : List Pod) (start : Books) (key : String)
    (held : List Descriptor) (s t : Desk) : Prop where
  account : Account still listing start (s.books.withClaims key held) [] t.books
  claims : t.ledger.claimsOf key = held
  occupied : t.ledger.claims.get? key ≠ some []
  frame : ∀ other, other ≠ key → t.ledger.claims.get? other = s.ledger.claims.get? other

/-- To set the claims of a key that were taken out is to put them into the books. -/
theorem putIn_setClaims {key : String} {held : List Descriptor} (keeps : Desk.Keeps still s t)
    (out : s.ledger.claims.get? key = none) :
    PutIn still listing start key held s (t.updateLedger (·.setClaims key held)) := by
  have out' : t.ledger.claims.get? key = none := (keeps.claims key).trans out
  have books := Desk.books_setClaims t key held out'
  refine ⟨?_, ?_, ?_, ?_⟩
  · rw [books]
    exact keeps.account key held
  · have at_hand := congrArg (·.claims key) books
    rwa [Books.claims_withClaims_self] at at_hand
  · cases held with
    | nil => simp [Desk.updateLedger, Ledger.get?_setClaims, out']
    | cons d rest => simp [Desk.updateLedger, Ledger.get?_setClaims]
  · intro other ne
    simp [Desk.updateLedger, Ledger.get?_setClaims, Ne.symm ne, keeps.claims]

/-- What a visit of the pod of a key brings about, for the modules that are desired. -/
structure Visited (still : Prop) (listing : List Pod) (start : Books) (key : String)
    (desired : List Descriptor) (s : Desk) (record : List Moment) (t : Desk) : Prop where
  account : Account still listing start s.books record t.books
  frame : ∀ other, other ≠ key → t.ledger.claims.get? other = s.ledger.claims.get? other
  /-- A pod without claims has no place in the ledger. -/
  occupied : t.ledger.claims.get? key ≠ some []
  /-- Only what is desired is kept, or else what could not be uninstalled. -/
  kept : ∀ d ∈ t.ledger.claimsOf key, (∃ e ∈ desired, e.same d = true) ∨
    (d ∈ s.ledger.claimsOf key ∧ ¬ Wanted listing d ∧ Failed .uninstall d record)
  /-- What is desired is held, unless it could not be installed while nobody else held it. -/
  gained : ∀ d ∈ desired, t.books.Holds key d ∨
    (¬ s.books.HeldElsewhere key d ∧ Failed .install d record)
  /-- What is desired and neither held nor reported is installed. -/
  installs : still → ∀ d ∈ desired, ¬ s.books.Held d → ¬ s.books.Reports d →
    Issues .install d record

/-- A visit for which nothing is desired adds no claims. -/
theorem Visited.fewer {key : String} (visited : Visited still listing start key [] s record t)
    (other : String) : ∀ d ∈ t.ledger.claimsOf other, d ∈ s.ledger.claimsOf other := by
  intro d mem
  by_cases is : other = key
  · subst is
    rcases visited.kept d mem with ⟨e, none, -⟩ | ⟨old, -⟩
    · exact absurd none List.not_mem_nil
    · exact old
  · simpa [Ledger.claimsOf, visited.frame other is] using mem

/-- What is said of the claims of a pod before a visit: those that are not desired nobody wants on
behalf of the pod, and if no other pod holds one that is wanted elsewhere it is surrendered. -/
structure Visitable (listing : List Pod) (start : Books) (key : String)
    (desired : List Descriptor) (s : Desk) : Prop where
  undesired : ∀ d, desired.any (·.same d) = false → ¬ WantedBy listing key d
  surrender : ∀ d ∈ s.ledger.claimsOf key, desired.any (·.same d) = false →
    wantedElsewhere listing key d = true → ¬ s.books.HeldElsewhere key d →
    Surrenders listing start d

/-- A visit of a pod that is not being deleted. -/
theorem syncPod_course {pod : Pod} {a : Unit}
    (course : Course (Desk.Aside still) (syncPod listing pod) s record a t)
    (wanted : ∀ d ∈ pod.descriptors, WantedBy listing pod.key d)
    (before : Visitable listing start pod.key pod.descriptors s) :
    Visited still listing start pod.key pod.descriptors s record t := by
  simp only [syncPod, Activity.desk, Activity.change, Dialogue.bind_eq, bind_iff, state_iff,
    update_iff] at course
  obtain ⟨_, s₀, _, _, rfl, ⟨rfl, m₀, rfl⟩, _, _, _, _, rfl, ⟨rfl, s₁, m₁, rfl⟩, early, held, s₂, _,
    rfl, course₁, late, result, s₃, _, rfl, course₂, rfl, s₄, m₂, rfl⟩ := course
  have opened : TakenOut still listing start pod.key s _ :=
    takenOut_dropClaims ((Desk.Keeps.of_aside m₀).trans (.of_aside m₁))
  rw [(Desk.Keeps.of_aside m₀).claimsOf] at course₁
  have released : Released still listing start _ _ _ _ _ _ _ :=
    releaseUndesired_course course₁ before.undesired fun d mem unwished wanted alone =>
      before.surrender d mem unwished wanted fun h =>
        alone ((heldElsewhere_of_frame opened.frame).2 h)
  have acquired : Acquired still listing start _ _ _ _ _ _ _ :=
    acquireMissing_course course₂ wanted
  have out : s₃.ledger.claims.get? pod.key = none :=
    (acquired.frame _).trans ((released.frame _).trans opened.out)
  have closed : PutIn still listing start pod.key result s₃ _ :=
    putIn_setClaims (.of_aside m₂) out
  have frame₂ : ∀ other, other ≠ pod.key →
      s₂.ledger.claims.get? other = s.ledger.claims.get? other :=
    fun other ne => (released.frame other).trans (opened.frame other ne)
  simp only [List.nil_append, List.append_nil]
  refine ⟨?_, ?_, closed.occupied, ?_, ?_, ?_⟩
  · have work := (released.account []).trans acquired.account
    have whole := opened.account.trans (work.trans closed.account)
    simpa using whole
  · exact fun other ne => (closed.frame other ne).trans ((acquired.frame other).trans (frame₂ other ne))
  · intro d mem
    rw [closed.claims] at mem
    rcases acquired.new d mem with mem | mem
    · rcases released.kept d mem with wish | ⟨unwanted, failed⟩
      · exact .inl (List.any_eq_true.1 wish)
      · exact .inr ⟨released.old d mem, unwanted, failed_append.2 (.inl failed)⟩
    · exact .inl ⟨d, mem, Descriptor.same_self d⟩
  · intro d mem
    rcases acquired.gained d mem with ⟨e, he, same⟩ | ⟨alone, failed⟩
    · rw [← closed.claims] at he
      exact .inl ⟨e, he, same⟩
    · exact .inr ⟨fun h => alone ((heldElsewhere_of_frame frame₂).2 h),
        failed_append.2 (.inr failed)⟩
  · intro quiet d mem unheld unreported
    refine issues_append.2 (.inr (acquired.installs quiet d mem ?_ ?_ ?_))
    · intro e he
      exact Bool.eq_false_iff.2 fun same => unheld ⟨pod.key, e, released.old e he, same⟩
    · exact fun h => unheld ((heldElsewhere_of_frame frame₂).1 h).held
    · exact fun h => unreported ((opened.account.trans (released.account [])).reports quiet h)

/-- A visit of a pod that is being deleted or is not there any more.  The answer says whether it has
no claims left. -/
theorem releaseAll_course {key : String} {gone : Bool}
    (course : Course (Desk.Aside still) (releaseAll listing key) s record gone t)
    (before : Visitable listing start key [] s) :
    Visited still listing start key [] s record t ∧
      (gone = true ↔ t.ledger.claimsOf key = []) := by
  simp only [releaseAll, Activity.desk, Activity.change, Dialogue.bind_eq, bind_iff, state_iff,
    update_iff, Dialogue.pure_eq, done_iff] at course
  obtain ⟨_, s₀, _, _, rfl, ⟨rfl, m₀, rfl⟩, _, _, _, _, rfl, ⟨rfl, s₁, m₁, rfl⟩, early, held, s₂, _,
    rfl, course₁, _, _, _, _, rfl, ⟨rfl, s₃, m₂, rfl⟩, rfl, rfl, rfl⟩ := course
  have opened : TakenOut still listing start key s _ :=
    takenOut_dropClaims ((Desk.Keeps.of_aside m₀).trans (.of_aside m₁))
  rw [(Desk.Keeps.of_aside m₀).claimsOf] at course₁
  have released : Released still listing start _ _ _ _ _ _ _ :=
    releaseUndesired_course course₁ before.undesired fun d mem unwished wanted alone =>
      before.surrender d mem unwished wanted fun h =>
        alone ((heldElsewhere_of_frame opened.frame).2 h)
  have out : s₂.ledger.claims.get? key = none := (released.frame _).trans opened.out
  have closed : PutIn still listing start key held s₂ _ := putIn_setClaims (.of_aside m₂) out
  simp only [List.nil_append, List.append_nil]
  refine ⟨⟨?_, ?_, closed.occupied, ?_, by simp, by simp⟩, by rw [closed.claims, List.isEmpty_iff]⟩
  · have whole := opened.account.trans ((released.account []).trans closed.account)
    simpa using whole
  · intro other ne
    exact (closed.frame other ne).trans ((released.frame other).trans (opened.frame other ne))
  · intro d mem
    rw [closed.claims] at mem
    rcases released.kept d mem with wish | ⟨unwanted, failed⟩
    · simp at wish
    · exact .inr ⟨released.old d mem, unwanted, failed⟩

end VirtualNode.Controller
