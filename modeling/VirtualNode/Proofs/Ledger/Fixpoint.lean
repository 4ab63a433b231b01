import VirtualNode.Proofs.Ledger.Attempts
import VirtualNode.Proofs.Ledger.Convergence

/-!
# Claims that are in line with a listing

If under every key those modules are held that its pod wants (`Desk.InLine`), then a pass over the
listing has nothing to do: no visit of it finds a module to release or to acquire, so it publishes
no command and puts all claims back as they were (`Round.Goes.idles_in_line`).  A pass whose
commands are all acknowledged leaves the claims in line with its listing (`Round.Goes.in_line`).
-/

set_option autoImplicit false

namespace VirtualNode.Controller

open Biz (Descriptor)
open Dialogue (Course)
open Dialogue.Course (bind_iff state_iff update_iff done_iff)
open Kube (Pod)

variable {still : Prop} {listing : List Pod} {s t : Desk} {record : List Moment} {key : String}

/-! ## Visits that find everything as it is desired -/

/-- Of what is held nothing is released if all of it is desired. -/
theorem releaseUndesired_of_desired {desired held : List Descriptor}
    (wished : ∀ d ∈ held, desired.any (·.same d) = true) :
    releaseUndesired listing key desired held = .done held := by
  induction held with
  | nil => rfl
  | cons d rest ih =>
    rw [List.forall_mem_cons] at wished
    simp [releaseUndesired, retain, wished.1, ih wished.2]

/-- Nothing is acquired if all that is desired is held. -/
theorem acquireMissing_of_held {held desired : List Descriptor}
    (present : ∀ d ∈ desired, held.any (·.same d) = true) :
    acquireMissing key held desired = .done held := by
  induction desired with
  | nil => rfl
  | cons d rest ih =>
    rw [List.forall_mem_cons] at present
    rw [acquireMissing, if_pos present.1, ih present.2]

/-- What is held under a key is just what is desired. -/
structure Desk.Suits (d : Desk) (key : String) (desired : List Descriptor) : Prop where
  wished : ∀ e ∈ d.ledger.claimsOf key, desired.any (·.same e) = true
  present : ∀ e ∈ desired, (d.ledger.claimsOf key).any (·.same e) = true
  occupied : d.ledger.claims.get? key ≠ some []

/-- What suits a key does so while the claims are kept. -/
theorem Desk.Suits.keeps {desired : List Descriptor} (suits : s.Suits key desired)
    (keeps : Desk.Keeps still s t) : t.Suits key desired := by
  obtain ⟨wished, present, occupied⟩ := suits
  refine ⟨?_, ?_, ?_⟩
  · rwa [keeps.claimsOf]
  · rwa [keeps.claimsOf]
  · rwa [keeps.claims]

/-- To take out the claims of a key and to put them back changes nothing. -/
theorem Ledger.get?_putBack {l l' : Ledger} (occupied : l.claims.get? key ≠ some [])
    (out : ∀ other, l'.claims.get? other = if other = key then none else l.claims.get? other)
    (other : String) :
    (l'.setClaims key (l.claimsOf key)).claims.get? other = l.claims.get? other := by
  rw [Ledger.get?_setClaims, out]
  by_cases is : other = key
  · subst is
    cases held : l.claims.get? other with
    | none => simp [claimsOf, held]
    | some ds =>
      have some_held : ds ≠ [] := fun nothing => occupied (nothing ▸ held)
      simp [claimsOf, held, some_held]
  · simp [is, Ne.symm is]

/-- A visit that finds everything as it is desired makes no call and leaves all as it is. -/
theorem visitKey_idles {desired held : List Descriptor}
    (course : Course (Desk.Aside still) (visitKey listing key desired) s record held t)
    (suits : s.Suits key desired) : record = [] ∧ Desk.Keeps still s t := by
  simp only [visitKey, Activity.desk, Activity.change, Dialogue.bind_eq, Dialogue.pure_eq, bind_iff,
    state_iff, update_iff, done_iff] at course
  obtain ⟨_, s₀, _, _, rfl, ⟨rfl, m₀, rfl⟩, _, _, _, _, rfl, ⟨rfl, s₁, m₁, rfl⟩, early, kept, s₂,
    _, rfl, released, late, result, s₃, _, rfl, acquired, _, _, _, _, rfl, ⟨rfl, s₄, m₂, rfl⟩, rfl,
    rfl, rfl⟩ := course
  have opened : Desk.Keeps still s s₁ := (Desk.Keeps.of_aside m₀).trans (.of_aside m₁)
  -- neither loop finds anything to do, so just what was taken out is put back
  rw [(Desk.Keeps.of_aside m₀).claimsOf, releaseUndesired_of_desired suits.wished] at released
  obtain ⟨rfl, rfl, rfl⟩ := done_iff.1 released
  rw [acquireMissing_of_held suits.present] at acquired
  obtain ⟨rfl, rfl, rfl⟩ := done_iff.1 acquired
  refine ⟨rfl, ?_, ?_⟩
  · refine Ledger.get?_putBack suits.occupied fun other => ?_
    rw [m₂.claims]
    simp [Desk.updateLedger, Ledger.dropClaims, Table.get?_erase, opened.claims, eq_comm]
  · intro quiet identity
    exact (m₂.sightings quiet identity).trans (opened.sightings quiet identity)

/-- Visits in a row whose keys are suited publish nothing and keep all claims. -/
theorem Chain.idles {visits : List Visit} (chain : Chain still listing s visits t)
    (suits : ∀ v ∈ visits, s.Suits v.key v.desired) :
    (∀ v ∈ visits, v.record = []) ∧ Desk.Keeps still s t := by
  induction chain with
  | last keeps => exact ⟨by simp, keeps⟩
  | @next s t v visits keeps goes _ ih =>
    rw [List.forall_mem_cons] at suits
    obtain ⟨nothing, kept⟩ := visitKey_idles goes (suits.1.keeps keeps)
    have so_far : Desk.Keeps still s v.after := keeps.trans kept
    obtain ⟨none_later, kept_later⟩ := ih fun w mem => (suits.2 w mem).keeps so_far
    exact ⟨List.forall_mem_cons.2 ⟨nothing, none_later⟩, so_far.trans kept_later⟩

/-! ## Claims in line -/

/-- Under every key those modules are held that its pod wants, and no entry is empty. -/
structure Desk.InLine (listing : List Pod) (d : Desk) : Prop where
  holds : ∀ key e, d.books.Holds key e ↔ WantedBy listing key e
  occupied : ∀ key, d.ledger.claims.get? key ≠ some []

namespace Desk.InLine

/-- The claims stay in line while they are kept. -/
theorem keeps (inLine : s.InLine listing) (keeps : Desk.Keeps still s t) : t.InLine listing := by
  refine ⟨?_, ?_⟩
  · simpa [Books.Holds, Desk.books, keeps.claimsOf] using inLine.holds
  · simpa [keeps.claims] using inLine.occupied

/-- Claims in line suit every key whose desires are those of its pod. -/
theorem suits (inLine : s.InLine listing) {desired : List Descriptor}
    (desires : ∀ e, WantedBy listing key e ↔ ∃ d ∈ desired, d.same e = true) :
    s.Suits key desired := by
  have holds (e : Descriptor) := (inLine.holds key e).trans (desires e)
  refine ⟨fun e mem => ?_, fun e mem => ?_, inLine.occupied key⟩
  · exact List.any_eq_true.2 ((holds e).1 ⟨e, mem, Descriptor.same_self e⟩)
  · exact List.any_eq_true.2 ((holds e).2 ⟨e, mem, Descriptor.same_self e⟩)

/-- Claims in line suit the pods of the listing. -/
theorem suits_listed (inLine : s.InLine listing) (distinct : Distinct listing) {pod : Pod}
    (mem : pod ∈ listing) : s.Suits pod.key pod.desired :=
  inLine.suits fun _ => (distinct.wantedBy_iff mem).trans Pod.wants_iff

/-- Claims in line have nothing under a key that is gone. -/
theorem suits_gone (inLine : s.InLine listing) (gone : Gone listing key) : s.Suits key [] :=
  inLine.suits fun e => iff_of_false (gone.not_wantedBy e) (by simp)

/-- A key without a living pod has no entry. -/
theorem unclaimed (inLine : s.InLine listing) (gone : Gone listing key) :
    s.ledger.claims.get? key = none := by
  cases held : s.ledger.claims.get? key with
  | none => rfl
  | some ds =>
    have occupied : ds ≠ [] := fun nothing => inLine.occupied key (nothing ▸ held)
    obtain ⟨d, mem⟩ := List.exists_mem_of_ne_nil ds occupied
    have holds : s.books.Holds key d :=
      ⟨d, by simpa [Desk.books, Ledger.claimsOf, held] using mem, Descriptor.same_self d⟩
    exact absurd ((inLine.holds key d).1 holds) (gone.not_wantedBy d)

end Desk.InLine

/-- Visits have nothing to do if the claims are in line with the listing. -/
theorem Itinerary.idles {first later : List Visit} {middle : Desk}
    (itinerary : Itinerary still listing s first middle later t) (distinct : Distinct listing)
    (inLine : s.InLine listing) :
    (∀ v ∈ first ++ later, v.record = []) ∧ Desk.Keeps still s t := by
  have suits : ∀ v ∈ first, s.Suits v.key v.desired := by
    intro v mem
    obtain ⟨pod, here, key, desired⟩ := itinerary.desired mem
    rw [key, desired]
    exact inLine.suits_listed distinct here
  obtain ⟨nothing, keeps⟩ := itinerary.chain.idles suits
  have suits' : ∀ v ∈ later, middle.Suits v.key v.desired := by
    intro v mem
    obtain ⟨gone, none_desired⟩ := itinerary.gone v mem
    rw [none_desired]
    exact (inLine.keeps keeps).suits_gone gone
  obtain ⟨nothing', keeps'⟩ := itinerary.chain'.idles suits'
  exact ⟨List.forall_mem_append.2 ⟨nothing, nothing'⟩, keeps.trans keeps'⟩

/-! ## No entry is empty after a pass -/

/-- A visit leaves no empty entry for its key, and makes none for others. -/
theorem Chain.empty_entry {visits : List Visit} (chain : Chain still listing s visits t)
    (empty : t.ledger.claims.get? key = some []) :
    s.ledger.claims.get? key = some [] ∧ key ∉ visits.map Visit.key := by
  induction chain with
  | last keeps => exact ⟨(keeps.claims key).symm.trans empty, by simp⟩
  | @next s t v visits keeps goes _ ih =>
    obtain ⟨before, unvisited⟩ := ih empty
    obtain ⟨swept, fetched, kept, served⟩ := goes.served
    have other : key ≠ v.key := by
      rintro rfl
      exact served.occupied before
    refine ⟨?_, by simp [other, unvisited]⟩
    rw [← keeps.claims, ← served.frame key other]
    exact before

/-- All keys with an entry are visited, so no entry is empty in the end. -/
theorem Itinerary.occupied {first later : List Visit} {middle : Desk}
    (itinerary : Itinerary still listing s first middle later t) (key : String) :
    t.ledger.claims.get? key ≠ some [] := by
  intro empty
  obtain ⟨before, unvisited⟩ := itinerary.chain'.empty_entry empty
  -- a key with an entry that is not visited last has a living pod, which is visited first
  have lives : ¬ Gone listing key := fun gone =>
    unvisited (itinerary.complete key gone (by simp [before]))
  simp only [Gone, not_forall, not_not] at lives
  obtain ⟨pod, mem, -, rfl⟩ := lives
  refine (itinerary.chain.empty_entry before).2 ?_
  rw [itinerary.keys]
  exact List.mem_map_of_mem mem

/-! ## Rounds -/

namespace Round.Goes

variable {r : Round}

/-- A pass whose commands are all acknowledged leaves the claims in line with its listing, whatever
they were before. -/
theorem in_line (goes : r.Goes still) (listed : r.listing? = some listing)
    (distinct : Distinct listing) (delivered : ¬ Fails r.record) : r.after.InLine listing := by
  obtain ⟨first, middle, later, itinerary, -⟩ := goes.itinerary listed
  have passed : Passed still listing r.before r.record r.after := by
    have outcome := goes.passed (by simp [listed])
    rw [listing_eq listed] at outcome
    exact outcome distinct
  exact ⟨fun _ _ => passed.holds_iff delivered, itinerary.occupied⟩

/-- A pass over a listing with which the claims are in line publishes no command and leaves the
claims and what was seen of modules. -/
theorem idles_in_line (goes : r.Goes still) (listed : r.listing? = some listing)
    (distinct : Distinct listing) (inLine : r.before.InLine listing) :
    (∀ moment ∈ r.record, moment.command? = none) ∧ Desk.Keeps still r.before r.after := by
  obtain ⟨first, middle, later, itinerary, tour⟩ := goes.itinerary listed
  obtain ⟨nothing, keeps⟩ := itinerary.idles distinct inLine
  refine ⟨?_, keeps⟩
  have none_published : r.record.filterMap Moment.command? = [] := by
    rw [tour.commands, List.flatMap_eq_nil_iff]
    intro v mem
    rw [nothing v mem, List.filterMap_nil]
  simpa using none_published

end Round.Goes

end VirtualNode.Controller
