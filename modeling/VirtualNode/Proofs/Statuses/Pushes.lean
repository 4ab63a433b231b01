import VirtualNode.Proofs.Statuses.Views

/-!
# What a push of statuses writes

A push goes through the cached pods.  Every one of them has its turn, and then its status is written
unless it is the one that was written last.  `Pushed` says so of a push as a whole, whatever is
answered and whatever others do meanwhile: with which statuses the turns come out is known if nobody
reports on modules.

Main statement: `pushStatuses_pushed`.
-/

set_option autoImplicit false

namespace VirtualNode.Controller

open Dialogue (Course)
open Dialogue.Course (bind_iff state_iff update_iff request_iff done_iff)
open Kube (Pod)

/-- Whether it was tried to write the status of a pod at a moment. -/
def Moment.Writes (moment : Moment) (pod : Pod) : Prop :=
  ∃ write ∈ moment.statusWrite?, write.Addresses pod

instance (moment : Moment) (pod : Pod) : Decidable (moment.Writes pod) :=
  inferInstanceAs (Decidable (∃ write ∈ moment.statusWrite?, write.Addresses pod))

/-- If `still` holds then every pod has the same status. -/
def Desk.Alike (still : Prop) (d e : Desk) : Prop :=
  still → ∀ pod, e.statusOf pod = d.statusOf pod

/-- The same pods are cached, the same statuses were written last, and if `still` holds then every
pod has the same status. -/
structure Desk.Steady (still : Prop) (d e : Desk) : Prop where
  pods : ∀ key, e.ledger.pods.get? key = d.ledger.pods.get? key
  written : ∀ key, e.ledger.written.get? key = d.ledger.written.get? key
  alike : d.Alike still e

/-- What becomes of an entry of the cache when the pod has its turn at the desk `u`: its status is
the one that was written last, or it is tried to write it. -/
inductive Treated (u : Desk) (entry : String × Pod) (s : Desk) (calls : List Moment) (t : Desk) :
    Prop
  | same (written : s.ledger.written.get? entry.1 = some (u.statusOf entry.2))
    (kept : t.ledger.written.get? entry.1 = s.ledger.written.get? entry.1)
  | tried (due : s.ledger.written.get? entry.1 ≠ some (u.statusOf entry.2)) (moment : Moment)
    (write : StatusWrite) (mem : moment ∈ calls) (is : moment.statusWrite? = some write)
    (addressed : write.Addresses entry.2) (ended : t.ledger.written.get? entry.1 =
      if write.worked then some (u.statusOf entry.2) else s.ledger.written.get? entry.1)

/-- What a push over some entries of the cache brings about. -/
structure Pushed (still : Prop) (entries : List (String × Pod)) (s : Desk) (calls : List Moment)
    (t : Desk) : Prop where
  pods : ∀ key, t.ledger.pods.get? key = s.ledger.pods.get? key
  alike : s.Alike still t
  kept : ∀ key, key ∉ entries.map Prod.fst →
    t.ledger.written.get? key = s.ledger.written.get? key
  /-- Every pod has its turn. -/
  treated : ∀ entry ∈ entries, ∃ u : Desk, s.Alike still u ∧ Treated u entry s calls t
  /-- Only a status is written that is not the one that was written last. -/
  sound : ∀ moment ∈ calls, ∀ write ∈ moment.statusWrite?, ∃ entry ∈ entries,
    write.Addresses entry.2 ∧ s.Alike still moment.state ∧
      s.ledger.written.get? entry.1 ≠ some (moment.state.statusOf entry.2)

variable {still : Prop} {s s' t t' u : Desk} {calls : List Moment} {entries : List (String × Pod)}

namespace Desk

/-- A desk is like itself. -/
theorem Alike.refl (still : Prop) (d : Desk) : d.Alike still d := fun _ _ => rfl

/-- What is alike stays so. -/
theorem Alike.trans (first : s.Alike still t) (second : t.Alike still u) : s.Alike still u :=
  fun quiet pod => (second quiet pod).trans (first quiet pod)

/-- Where settings and sightings are the same, desks are alike. -/
theorem Alike.of_eq (settings : t.settings = s.settings) (sightings : t.sightings = s.sightings) :
    s.Alike still t :=
  fun _ => statusOf_congr settings fun identity => by simp [Inbox.view, sightings]

/-- What the others do meanwhile leaves the desk alike. -/
theorem Aside.alike (meanwhile : s.Aside still t) : s.Alike still t :=
  fun quiet => statusOf_congr meanwhile.settings fun identity => by
    simp [Inbox.view, meanwhile.sightings quiet identity]

/-- What the others do meanwhile leaves the desk steady. -/
theorem Aside.steady (meanwhile : s.Aside still t) : s.Steady still t :=
  ⟨meanwhile.pods, meanwhile.written, meanwhile.alike⟩

/-- A desk is steady while nothing happens. -/
theorem Steady.refl (still : Prop) (d : Desk) : d.Steady still d :=
  ⟨fun _ => rfl, fun _ => rfl, .refl still d⟩

/-- What is steady stays so. -/
theorem Steady.trans (first : s.Steady still t) (second : t.Steady still u) : s.Steady still u :=
  ⟨fun key => (second.pods key).trans (first.pods key),
    fun key => (second.written key).trans (first.written key), first.alike.trans second.alike⟩

/-- Where ledger, settings and sightings are the same, the desk is steady. -/
theorem Steady.of_eq (ledger : t.ledger = s.ledger) (settings : t.settings = s.settings)
    (sightings : t.sightings = s.sightings) : s.Steady still t :=
  ⟨fun key => by rw [ledger], fun key => by rw [ledger], .of_eq settings sightings⟩

end Desk

namespace Treated

variable {entry : String × Pod} {early late : List Moment}

/-- How an entry is treated depends on the status of its key alone. -/
theorem congr (treated : Treated u entry s calls t)
    (before : s.ledger.written.get? entry.1 = s'.ledger.written.get? entry.1)
    (after : t'.ledger.written.get? entry.1 = t.ledger.written.get? entry.1) :
    Treated u entry s' calls t' := by
  cases treated with
  | same written kept => exact .same (before ▸ written) (after.trans (kept.trans before))
  | tried due moment write mem is addressed ended =>
    exact .tried (before ▸ due) moment write mem is addressed (before ▸ after.trans ended)

/-- An entry that is treated later is treated. -/
theorem append_left (treated : Treated u entry s late t) :
    Treated u entry s (early ++ late) t := by
  cases treated with
  | same written kept => exact .same written kept
  | tried due moment write mem is addressed ended =>
    exact .tried due moment write (List.mem_append_right _ mem) is addressed ended

/-- An entry that is treated earlier is treated. -/
theorem append_right (treated : Treated u entry s early t) :
    Treated u entry s (early ++ late) t := by
  cases treated with
  | same written kept => exact .same written kept
  | tried due moment write mem is addressed ended =>
    exact .tried due moment write (List.mem_append_left _ mem) is addressed ended

/-- If all writes have worked then the status of the pod is the last one in the end. -/
theorem written (treated : Treated u entry s calls t)
    (worked : ∀ moment ∈ calls, ∀ write ∈ moment.statusWrite?, write.worked = true) :
    t.ledger.written.get? entry.1 = some (u.statusOf entry.2) := by
  cases treated with
  | same written kept => exact kept.trans written
  | tried _ moment write mem is _ ended => rw [ended, if_pos (worked moment mem write is)]

end Treated

namespace Pushed

/-- At its turn the status of a pod is the one that was written last, or it is written. -/
theorem complete (pushed : Pushed still entries s calls t) :
    ∀ entry ∈ entries, ∃ u : Desk, s.Alike still u ∧
      (s.ledger.written.get? entry.1 = some (u.statusOf entry.2) ∨
        ∃ moment ∈ calls, moment.Writes entry.2) := by
  intro entry mem
  obtain ⟨u, alike, treated⟩ := pushed.treated entry mem
  refine ⟨u, alike, ?_⟩
  cases treated with
  | same written => exact .inl written
  | tried _ moment write mem is addressed => exact .inr ⟨moment, mem, write, is, addressed⟩

/-- Entries that were gone over may stand among steady stretches. -/
theorem surround (pushed : Pushed still entries s calls t) (first : s'.Steady still s)
    (last : t.Steady still t') : Pushed still entries s' calls t' := by
  refine ⟨?_, (first.alike.trans pushed.alike).trans last.alike, ?_, ?_, ?_⟩
  · intro key
    rw [last.pods, pushed.pods, first.pods]
  · intro key absent
    rw [last.written, pushed.kept key absent, first.written]
  · intro entry mem
    obtain ⟨u, alike, treated⟩ := pushed.treated entry mem
    exact ⟨u, first.alike.trans alike, treated.congr (first.written _) (last.written _)⟩
  · intro moment mem write is
    obtain ⟨entry, here, addressed, alike, due⟩ := pushed.sound moment mem write is
    rw [first.written] at due
    exact ⟨entry, here, addressed, first.alike.trans alike, due⟩

/-- The turn of one pod comes before those of the others. -/
theorem turn {key : String} {pod : Pod} {one : List Moment}
    (later : Pushed still entries s' calls t) (once : key ∉ entries.map Prod.fst)
    (pods : ∀ key, s'.ledger.pods.get? key = s.ledger.pods.get? key) (alike : s.Alike still s')
    (others : ∀ other, other ≠ key →
      s'.ledger.written.get? other = s.ledger.written.get? other)
    (treated : Treated s (key, pod) s one s')
    (sound : ∀ moment ∈ one, ∀ write ∈ moment.statusWrite?, write.Addresses pod ∧
      s.Alike still moment.state ∧
        s.ledger.written.get? key ≠ some (moment.state.statusOf pod)) :
    Pushed still ((key, pod) :: entries) s (one ++ calls) t := by
  have differ : ∀ entry ∈ entries, entry.1 ≠ key := fun entry mem is =>
    once (is ▸ List.mem_map_of_mem mem)
  refine ⟨fun key => (later.pods key).trans (pods key), alike.trans later.alike, ?_, ?_, ?_⟩
  · intro other absent
    simp only [List.map_cons, List.mem_cons, not_or] at absent
    rw [later.kept other absent.2, others other absent.1]
  · rw [List.forall_mem_cons]
    constructor
    · exact ⟨s, .refl still s, treated.append_right.congr rfl (later.kept key once)⟩
    · intro entry mem
      obtain ⟨u, alike', treated'⟩ := later.treated entry mem
      refine ⟨u, alike.trans alike', treated'.append_left.congr ?_ rfl⟩
      exact others _ (differ entry mem)
  · rw [List.forall_mem_append]
    constructor
    · intro moment mem write is
      exact ⟨(key, pod), List.mem_cons_self, sound moment mem write is⟩
    · intro moment mem write is
      obtain ⟨entry, here, addressed, alike', due⟩ := later.sound moment mem write is
      rw [others _ (differ entry here)] at due
      exact ⟨entry, List.mem_cons_of_mem _ here, addressed, alike.trans alike', due⟩

/-- The last status of a key that is not cached stays. -/
theorem kept_uncached {key : String} (pushed : Pushed still entries s calls t)
    (cached : ∀ key pod, (key, pod) ∈ entries ↔ s.ledger.pods.get? key = some pod)
    (uncached : s.ledger.pods.get? key = none) :
    t.ledger.written.get? key = s.ledger.written.get? key := by
  apply pushed.kept
  rw [List.mem_map]
  rintro ⟨⟨_, pod⟩, here, rfl⟩
  cases ((cached _ pod).1 here).symm.trans uncached

end Pushed

/-- With distinct keys every entry is gone over. -/
theorem writeStatuses_pushed {a : Unit} (once : (entries.map Prod.fst).Nodup)
    (course : Course (Desk.Aside still) (writeStatuses entries) s calls a t) :
    Pushed still entries s calls t := by
  induction entries generalizing s calls with
  | nil =>
    obtain ⟨rfl, -, rfl⟩ := done_iff.1 course
    exact ⟨fun _ => rfl, .refl still t, fun _ _ => rfl, by simp, by simp⟩
  | cons entry rest ih =>
    obtain ⟨key, pod⟩ := entry
    rw [List.map_cons, List.nodup_cons] at once
    simp only [writeStatuses, Activity.desk, Dialogue.bind_eq, bind_iff, state_iff] at course
    obtain ⟨_, s₁, _, calls, rfl, ⟨rfl, m₁, rfl⟩, course⟩ := course
    rw [List.nil_append]
    refine .surround ?_ m₁.steady (.refl still t)
    split at course
    · rename_i written
      have none_written : ∀ moment ∈ ([] : List Moment), ∀ write ∈ moment.statusWrite?,
          write.Addresses pod ∧ s₁.Alike still moment.state ∧
            s₁.ledger.written.get? key ≠ some (moment.state.statusOf pod) := by simp
      exact (ih once.2 course).turn once.1 (fun _ => rfl) (.refl still s₁) (fun _ _ => rfl)
        (.same written rfl) none_written
    · rename_i unwritten
      simp only [Activity.call, bind_iff, request_iff] at course
      obtain ⟨_, answer, s₂, _, rfl, ⟨rfl, m₂⟩, course⟩ := course
      let moment : Moment :=
        ⟨⟨.reportPod pod.addressSpace pod.addressName (s₁.statusOf pod), answer⟩, s₁⟩
      let write : StatusWrite :=
        ⟨pod.addressSpace, pod.addressName, s₁.statusOf pod, succeeded answer⟩
      have is : moment.statusWrite? = some write := rfl
      have sound : ∀ n ∈ [moment], ∀ w ∈ n.statusWrite?, w.Addresses pod ∧
          s₁.Alike still n.state ∧
            s₁.ledger.written.get? key ≠ some (n.state.statusOf pod) := by
        simp only [List.mem_singleton, forall_eq, is, Option.mem_some_iff, forall_eq']
        exact ⟨⟨rfl, rfl⟩, .refl still s₁, unwritten⟩
      have treated {t : Desk} (ended : t.ledger.written.get? key =
          if write.worked then some (s₁.statusOf pod) else s₁.ledger.written.get? key) :
          Treated s₁ (key, pod) s₁ [moment] t :=
        .tried unwritten moment write (List.mem_singleton_self moment) is ⟨rfl, rfl⟩ ended
      split at course
      · rename_i worked
        have worked : write.worked = true := bounded_eq_ok_iff.1 worked
        simp only [Activity.change, bind_iff, update_iff] at course
        obtain ⟨_, _, _, _, rfl, ⟨rfl, s₃, m₃, rfl⟩, course⟩ := course
        have steady := m₂.steady.trans m₃.steady
        refine (ih once.2 course).turn once.1 steady.pods
          (steady.alike.trans (.of_eq rfl rfl)) ?_ (treated ?_) sound
        · intro other differ
          rw [← steady.written]
          simp [Desk.updateLedger, Table.get?_insert, differ.symm]
        · rw [if_pos worked]
          simp [Desk.updateLedger, Table.get?_insert]
      · rename_i fault failed
        have unworked : ¬ write.worked = true := by
          intro worked
          rw [bounded_eq_ok_iff.2 worked] at failed
          cases failed
        simp only [Activity.change, bind_iff, update_iff] at course
        obtain ⟨_, _, _, _, rfl, ⟨rfl, s₃, m₃, rfl⟩, course⟩ := course
        have noted : s₃.Steady still (s₃.noteDegraded Watch.Health.cluster fault.message) :=
          .of_eq rfl rfl rfl
        have steady := (m₂.steady.trans m₃.steady).trans noted
        refine (ih once.2 course).turn once.1 steady.pods steady.alike
          (fun other _ => steady.written other) (treated ?_) sound
        rw [if_neg unworked]
        exact steady.written key

/-- Every entry of the cache is gone over. -/
theorem pushStatuses_pushed {a : Unit}
    (course : Course (Desk.Aside still) pushStatuses s calls a t) :
    ∃ entries, (∀ key pod, (key, pod) ∈ entries ↔ s.ledger.pods.get? key = some pod) ∧
      Pushed still entries s calls t := by
  simp only [pushStatuses, Activity.desk, Dialogue.bind_eq, bind_iff, state_iff] at course
  obtain ⟨_, s₁, _, calls, rfl, ⟨rfl, m₁, rfl⟩, course⟩ := course
  have pushed := writeStatuses_pushed s₁.ledger.pods.nodup course
  refine ⟨s₁.ledger.pods.entries, ?_, pushed.surround m₁.steady (.refl still t)⟩
  intro key pod
  rw [← m₁.pods, Table.get?_eq_some_iff]

end VirtualNode.Controller
