import VirtualNode.Proofs.Ledger.Passes

/-!
# Uninstalls are safe

A module is uninstalled only when nobody needs it: no pod of the listing that is not being deleted
wants it, and it is held on behalf of no pod but the one that lets go of it.
-/

set_option autoImplicit false

namespace VirtualNode.Controller

open Biz (Descriptor)
open Kube (Pod)

/-- A module that no pod of the listing wants is none of the modules of its living pods. -/
theorem not_same_of_not_wanted {listing : List Pod} {d : Descriptor} (unwanted : ¬ Wanted listing d)
    {pod : Pod} (mem : pod ∈ listing) (alive : pod.isTerminating = false) {e : Descriptor}
    (he : e ∈ pod.descriptors) : e.same d = false := by
  rw [Bool.eq_false_iff]
  intro same
  exact unwanted ⟨pod, mem, alive, e, he, same⟩

/-- Whenever an uninstall is published in a run of rounds over listings with distinct keys, whatever
is answered and whatever others report meanwhile, then no pod of the listing that is not being
deleted has a container for the module, and the ledger shows the module under no other key. -/
theorem uninstall_unused {first : Desk} {rounds : List Round} (run : Run first rounds)
    (distinct : ∀ r ∈ rounds, Distinct r.listing) {r : Round} (mem : r ∈ rounds) {moment : Moment}
    (called : moment ∈ r.record) {key : String} {d : Descriptor} {delivered : Bool}
    (is : moment.command? = some ⟨.uninstall, key, d, delivered⟩) :
    (∀ pod ∈ r.listing, pod.isTerminating = false → ∀ e ∈ pod.descriptors, e.same d = false) ∧
      ∀ other, other ≠ key → ∀ held ∈ moment.state.ledger.claimsOf other,
        held.same d = false := by
  have account := (run.goes r mem).account (distinct r mem)
  obtain ⟨unwanted, alone⟩ := account.uninstall called is
  refine ⟨?_, alone⟩
  intro pod listed alive e he
  exact not_same_of_not_wanted unwanted listed alive he

/-- Two pods share a module; one of them vanishes, and the other one drops its container. -/
theorem uninstall_unused_shared :
    let rounds := passesOver (Desk.fresh default default)
      [([podOf "a" ["m"], podOf "b" ["m"]], fun _ => true), ([podOf "b" ["n"]], fun _ => true)]
    ∃ r ∈ rounds, ∃ moment ∈ r.record,
      Moment.command? moment = some ⟨.uninstall, "default/a", moduleOf "m", true⟩ ∧
        (∀ pod ∈ r.listing, pod.isTerminating = false →
          ∀ e ∈ pod.descriptors, e.same (moduleOf "m") = false) ∧
        ∀ other, other ≠ "default/a" → ∀ held ∈ moment.state.ledger.claimsOf other,
          held.same (moduleOf "m") = false := by
  intro rounds
  have distinct : ∀ r ∈ rounds, Distinct r.listing := by decide
  let r := rounds[1]
  have mem : r ∈ rounds := List.getElem_mem (by decide)
  have called : r.record[2] ∈ r.record := List.getElem_mem (by decide)
  have is : Moment.command? r.record[2] =
      some ⟨.uninstall, "default/a", moduleOf "m", true⟩ := by decide
  exact ⟨r, mem, r.record[2], called, is,
    uninstall_unused (run_passesOver _ _) distinct mem called is⟩

end VirtualNode.Controller
