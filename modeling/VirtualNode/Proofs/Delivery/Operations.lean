import Mathlib.Data.List.Nodup
import Mathlib.Data.List.Perm.Basic
import VirtualNode.Mqtt.Acks

/-!
# What becomes of those who wait

A tracker moves those who wait between the queue of requests, the lists of those whose requests
are in flight, and the place of the one whose message is held back.  For every operation: those it
is done with and those who wait after it are, but for their order, those who waited before
(`Tracker.everyone_sent`, `Tracker.everyone_received`), whoever it is done with got a result, and it
leaves no empty list behind.
-/

set_option autoImplicit false

namespace VirtualNode

/-! ## Tables of lists -/

namespace Table

variable {κ α : Type} [DecidableEq κ]

/-- Putting a list in the place of another one exchanges their items. -/
theorem flatMap_put_perm {k : κ} {v : List α} {xs : List (κ × List α)}
    (nodup : (xs.map Prod.fst).Nodup) :
    (((xs.find? fun e => e.1 = k).map Prod.snd).getD [] ++ (put k v xs).flatMap Prod.snd).Perm
      (v ++ xs.flatMap Prod.snd) := by
  induction xs with
  | nil => simp [put]
  | cons x xs ih =>
    rw [List.map_cons, List.nodup_cons] at nodup
    by_cases here : x.1 = k
    · have items : ((x :: xs).find? fun e => e.1 = k) = some x := by simp [here]
      rw [items]
      simp only [put, here, if_true, Option.map_some, Option.getD_some, List.flatMap_cons]
      rw [← List.append_assoc, ← List.append_assoc]
      exact List.perm_append_comm.append_right _
    · have later : ((x :: xs).find? fun e => e.1 = k) = xs.find? fun e => e.1 = k := by
        simp [here]
      rw [later]
      simp only [put, here, if_false, List.flatMap_cons]
      have rest := (ih nodup.2).append_left x.2
      refine (List.perm_append_comm_assoc _ _ _).trans (rest.trans ?_)
      exact List.perm_append_comm_assoc _ _ _

/-- When the list of a key is replaced, the elements of the old list make way for those of the new
one. -/
theorem flatMap_insert_perm (t : Table κ (List α)) (k : κ) (v : List α) :
    ((t.get? k).getD [] ++ (t.insert k v).entries.flatMap Prod.snd).Perm
      (v ++ t.entries.flatMap Prod.snd) :=
  flatMap_put_perm t.nodup

/-- Taking a list out takes out its items. -/
theorem flatMap_erase_perm (t : Table κ (List α)) (k : κ) :
    ((t.get? k).getD [] ++ (t.erase k).entries.flatMap Prod.snd).Perm
      (t.entries.flatMap Prod.snd) := by
  obtain ⟨entries, nodup⟩ := t
  simp only [get?, erase]
  induction entries with
  | nil => simp
  | cons x xs ih =>
    rw [List.map_cons, List.nodup_cons] at nodup
    by_cases here : x.1 = k
    · have others : xs.filter (fun e => e.1 ≠ k) = xs := by
        rw [List.filter_eq_self]
        intro e mem
        have ne : e.1 ≠ k := fun is => nodup.1 (here.trans is.symm ▸ List.mem_map_of_mem mem)
        simpa using ne
      rw [List.filter_cons_of_neg (by simpa using here), others,
        List.find?_cons_of_pos (by simpa using here)]
      simp
    · rw [List.filter_cons_of_pos (by simpa using here),
        List.find?_cons_of_neg (by simpa using here), List.flatMap_cons]
      have rest := (ih nodup.2).append_left x.2
      exact (List.perm_append_comm_assoc _ _ _).trans rest

/-- The pairs of a table, after a list was put in. -/
theorem mem_entries_insert {t : Table κ (List α)} {k : κ} {v : List α} {e : κ × List α}
    (h : e ∈ (t.insert k v).entries) : e = (k, v) ∨ e ∈ t.entries := by
  obtain ⟨j, w⟩ := e
  rw [← get?_eq_some_iff, get?_insert] at h
  split at h
  · rename_i is
    cases h
    exact .inl (by rw [is])
  · exact .inr ((get?_eq_some_iff _ _ _).1 h)

end Table

namespace Mqtt

variable {α : Type}

/-! ## What one operation does with those who wait -/

namespace Tracker

/-- As many are outstanding as there are who wait anywhere. -/
theorem outstanding_eq (t : Tracker α) : t.outstanding = t.everyone.length := by
  unfold outstanding everyone
  cases t.held with
  | none => simp
  | some entry => simp [Nat.add_assoc]

/-- One more waits after a request. -/
theorem everyone_enqueue (t : Tracker α) (kind : AckKind) (who : α) :
    (t.enqueue kind who).everyone.Perm (who :: t.everyone) := by
  simp only [enqueue, everyone, List.map_append, List.map_cons, List.map_nil, List.append_assoc,
    List.singleton_append]
  exact List.perm_middle

/-- Those who wait are the one whose request was made last and those who are left without it. -/
theorem everyone_cancelLast (t : Tracker α) :
    ((t.queued.getLast?.map Prod.snd).toList ++ t.cancelLast.1.everyone).Perm t.everyone := by
  simp only [cancelLast, everyone]
  cases last : t.queued.getLast? with
  | none =>
    rw [List.getLast?_eq_none_iff] at last
    simp [last]
  | some entry =>
    have whole : t.queued = t.queued.dropLast ++ [entry] := by
      rw [List.dropLast_append_getLast?]
      simpa using last
    have names : t.queued.map Prod.snd = t.queued.dropLast.map Prod.snd ++ [entry.2] := by
      conv_lhs => rw [whole]
      simp
    rw [names]
    simp only [Option.map_some, Option.toList_some, List.singleton_append, List.append_assoc]
    exact List.perm_middle.symm

/-- Whoever is taken from the queue no longer waits, and everybody else does. -/
theorem everyone_popQueued (t : Tracker α) (kind : AckKind) :
    ((t.popQueued kind).2.toList ++ (t.popQueued kind).1.everyone).Perm t.everyone := by
  unfold popQueued
  cases queue : t.queued with
  | nil => simp
  | cons entry rest =>
    by_cases is : entry.1 = kind
    · simp [is, everyone, queue]
    · simp [is]

/-- What is under way is not touched when somebody is taken from the queue. -/
theorem inflight_popQueued (t : Tracker α) (kind : AckKind) :
    (t.popQueued kind).1.inflight = t.inflight := by
  unfold popQueued
  split
  · split <;> rfl
  · rfl

/-- What is held back is not touched when somebody is taken from the queue. -/
theorem held_popQueued (t : Tracker α) (kind : AckKind) :
    (t.popQueued kind).1.held = t.held := by
  unfold popQueued
  split
  · split <;> rfl
  · rfl

/-- Those who wait, when only those in flight have changed. -/
theorem everyone_of_inflight {t : Tracker α} (out inn : List α)
    {inflight : Table (AckKind × Nat) (List α)}
    (h : (out ++ inflight.entries.flatMap Prod.snd).Perm
      (inn ++ t.inflight.entries.flatMap Prod.snd)) :
    (out ++ ({ t with inflight := inflight } : Tracker α).everyone).Perm (inn ++ t.everyone) := by
  simp only [everyone, List.append_assoc]
  have middle : ∀ xs ys : List α, (xs ++ (t.queued.map Prod.snd ++ (ys ++
      t.held.toList.map Prod.snd))).Perm
        (t.queued.map Prod.snd ++ ((xs ++ ys) ++ t.held.toList.map Prod.snd)) := by
    intro xs ys
    rw [List.append_assoc]
    exact List.perm_append_comm_assoc _ _ _
  have swapped := (h.append_right (t.held.toList.map Prod.snd)).append_left (t.queued.map Prod.snd)
  exact (middle _ _).trans (swapped.trans (middle _ _).symm)

/-- Whoever is bound to a packet id waits, like all who waited before. -/
theorem everyone_bind (t : Tracker α) (kind : AckKind) (id : Nat) (who : α) :
    (t.bind kind id who).everyone.Perm (who :: t.everyone) := by
  have moved := t.inflight.flatMap_insert_perm (kind, id) (t.waiting kind id ++ [who])
  have cancelled : ((t.inflight.insert (kind, id) (t.waiting kind id ++ [who])).entries.flatMap
      Prod.snd).Perm ([who] ++ t.inflight.entries.flatMap Prod.snd) := by
    rw [List.append_assoc] at moved
    exact (List.perm_append_left_iff _).1 moved
  exact everyone_of_inflight [] [who] cancelled

/-- Whoever is told an outcome no longer waits, and everybody else does. -/
theorem everyone_resolve (t : Tracker α) (kind : AckKind) (id : Nat)
    (outcome : Except DeliveryFault Unit) :
    ((t.resolve kind id outcome).2.map Prod.fst ++ (t.resolve kind id outcome).1.everyone).Perm
      t.everyone := by
  unfold resolve
  cases list : t.waiting kind id with
  | nil => simp
  | cons who rest =>
    cases rest with
    | nil =>
      have moved := t.inflight.flatMap_erase_perm (kind, id)
      have here : (t.inflight.get? (kind, id)).getD [] = [who] := list
      rw [here] at moved
      exact everyone_of_inflight [who] [] moved
    | cons next rest =>
      have moved := t.inflight.flatMap_insert_perm (kind, id) (next :: rest)
      have here : (t.inflight.get? (kind, id)).getD [] = [who] ++ (next :: rest) := list
      rw [here, List.append_assoc] at moved
      have swapped := (List.perm_append_comm_assoc _ _ _).trans moved
      exact everyone_of_inflight [who] [] ((List.perm_append_left_iff _).1 swapped)

/-- Nobody is lost on the way from the queue to a packet id. -/
theorem everyone_bindQueued (t : Tracker α) (kind : AckKind) (id : Nat) :
    (t.bindQueued kind id).everyone.Perm t.everyone := by
  have popped := t.everyone_popQueued kind
  unfold bindQueued
  cases taken : t.popQueued kind with
  | mk t' who =>
    rw [taken] at popped
    cases who with
    | none => exact popped
    | some who => exact (t'.everyone_bind kind id who).trans popped

/-- Whoever is taken up for a packet that is written out was among those who wait. -/
theorem everyone_takeWritten (t : Tracker α) (id : Nat) :
    ((t.takeWritten id).2.toList ++ (t.takeWritten id).1.everyone).Perm t.everyone := by
  unfold takeWritten
  cases slot : t.held with
  | none => exact t.everyone_popQueued .publish
  | some entry =>
    obtain ⟨heldId, who⟩ := entry
    by_cases same : heldId = id
    · simp only [same, if_true, everyone, slot, Option.toList_some, Option.toList_none,
        List.map_cons, List.map_nil, List.append_nil, List.singleton_append]
      exact (List.perm_append_singleton _ _).symm
    · simp only [same, if_false]
      exact t.everyone_popQueued .publish

/-- Those who wait and those who are done with, after a packet was written out, are those who waited
before, if no second message is held back. -/
theorem everyone_sent (t : Tracker α) (packet : Outgoing)
    (free : ∀ id, packet = .heldBack id → t.held = none) :
    ((t.sent packet).2.map Prod.fst ++ (t.sent packet).1.everyone).Perm t.everyone := by
  cases packet with
  | publish id =>
    have taken := t.everyone_takeWritten id
    simp only [sent]
    cases is : t.takeWritten id with
    | mk t' who =>
      rw [is] at taken
      cases who with
      | none => exact taken
      | some who =>
        by_cases zero : id = 0
        · simpa [zero] using taken
        · simp only [zero, if_false]
          exact (t'.everyone_bind .publish id who).trans taken
  | subscribe id => exact t.everyone_bindQueued .subscribe id
  | unsubscribe id => exact t.everyone_bindQueued .unsubscribe id
  | heldBack id =>
    have slot := free id rfl
    have popped := t.everyone_popQueued .publish
    have kept := t.held_popQueued .publish
    simp only [sent]
    cases is : t.popQueued .publish with
    | mk t' who =>
      rw [is] at popped kept
      cases who with
      | none => exact popped
      | some who =>
        have empty_slot : t'.held = none := kept.trans slot
        refine List.Perm.trans ?_ popped
        simp only [everyone, empty_slot, Option.toList_some, Option.toList_none, List.map_cons,
          List.map_nil, List.append_nil, List.nil_append, List.singleton_append]
        exact List.perm_append_singleton _ _
  | other => exact .refl _

/-- An incoming packet takes out whom it answers, and nobody else. -/
theorem everyone_received (t : Tracker α) (packet : Incoming) :
    ((t.received packet).2.map Prod.fst ++ (t.received packet).1.everyone).Perm t.everyone := by
  cases packet with
  | pubAck id => exact t.everyone_resolve .publish id _
  | pubComp id => exact t.everyone_resolve .publish id _
  | subAck id codes => exact t.everyone_resolve .subscribe id _
  | unsubAck id => exact t.everyone_resolve .unsubscribe id _
  | other => exact .refl _

/-! ## Lists in flight -/

/-- No list of those in flight is empty. -/
def Occupied (t : Tracker α) : Prop := ∀ e ∈ t.inflight.entries, e.2 ≠ []

/-- Whether lists are occupied depends on what is under way alone. -/
theorem Occupied.of_inflight {t u : Tracker α} (occupied : t.Occupied)
    (same : u.inflight = t.inflight) : u.Occupied := by
  unfold Occupied
  rw [same]
  exact occupied

/-- The lists stay occupied when one that is not empty is put in. -/
theorem Occupied.insert {t : Tracker α} (occupied : t.Occupied) (k : AckKind × Nat) {v : List α}
    (some_one : v ≠ []) : ({ t with inflight := t.inflight.insert k v } : Tracker α).Occupied := by
  intro e mem
  rcases Table.mem_entries_insert mem with rfl | mem
  · exact some_one
  · exact occupied e mem

/-- Whoever is bound to a packet id is in a list that is not empty. -/
theorem Occupied.bind {t : Tracker α} (occupied : t.Occupied) (kind : AckKind) (id : Nat)
    (who : α) : (t.bind kind id who).Occupied :=
  occupied.insert (kind, id) (by simp)

/-- The lists stay occupied when somebody goes from the queue to a packet id. -/
theorem Occupied.bindQueued {t : Tracker α} (occupied : t.Occupied) (kind : AckKind) (id : Nat) :
    (t.bindQueued kind id).Occupied := by
  have kept := t.inflight_popQueued kind
  unfold Tracker.bindQueued
  cases taken : t.popQueued kind with
  | mk t' who =>
    rw [taken] at kept
    cases who with
    | none => exact occupied.of_inflight kept
    | some who => exact (occupied.of_inflight kept).bind kind id who

/-- A list that would become empty is removed when its last waiter is answered. -/
theorem Occupied.resolve {t : Tracker α} (occupied : t.Occupied) (kind : AckKind) (id : Nat)
    (outcome : Except DeliveryFault Unit) : (t.resolve kind id outcome).1.Occupied := by
  unfold Tracker.resolve
  cases t.waiting kind id with
  | nil => exact occupied
  | cons who rest =>
    cases rest with
    | nil =>
      intro e mem
      exact occupied e (List.mem_filter.1 mem).1
    | cons next rest => exact occupied.insert (kind, id) (List.cons_ne_nil next rest)

/-- What is under way is not touched when a packet is written out. -/
theorem inflight_takeWritten (t : Tracker α) (id : Nat) :
    (t.takeWritten id).1.inflight = t.inflight := by
  unfold takeWritten
  split
  · split
    · rfl
    · exact t.inflight_popQueued .publish
  · exact t.inflight_popQueued .publish

/-- An outgoing packet leaves no empty list. -/
theorem Occupied.sent {t : Tracker α} (occupied : t.Occupied) (packet : Outgoing) :
    (t.sent packet).1.Occupied := by
  cases packet with
  | publish id =>
    have kept := t.inflight_takeWritten id
    simp only [Tracker.sent]
    cases is : t.takeWritten id with
    | mk t' who =>
      rw [is] at kept
      cases who with
      | none => exact occupied.of_inflight kept
      | some who =>
        by_cases zero : id = 0
        · simpa [zero] using occupied.of_inflight kept
        · simpa [zero] using (occupied.of_inflight kept).bind .publish id who
  | subscribe id => exact occupied.bindQueued .subscribe id
  | unsubscribe id => exact occupied.bindQueued .unsubscribe id
  | heldBack id =>
    have kept := t.inflight_popQueued .publish
    simp only [Tracker.sent]
    cases is : t.popQueued .publish with
    | mk t' who =>
      rw [is] at kept
      cases who with
      | none => exact occupied.of_inflight kept
      | some who => exact occupied.of_inflight kept
  | other => exact occupied

/-- An incoming packet leaves no empty list. -/
theorem Occupied.received {t : Tracker α} (occupied : t.Occupied) (packet : Incoming) :
    (t.received packet).1.Occupied := by
  cases packet with
  | pubAck id => exact occupied.resolve .publish id _
  | pubComp id => exact occupied.resolve .publish id _
  | subAck id codes => exact occupied.resolve .subscribe id _
  | unsubAck id => exact occupied.resolve .unsubscribe id _
  | other => exact occupied

/-- Those in line for a packet id are those in its list. -/
theorem mem_waiting_iff {t : Tracker α} {kind : AckKind} {id : Nat} {who : α} :
    who ∈ t.waiting kind id ↔ ∃ list, ((kind, id), list) ∈ t.inflight.entries ∧ who ∈ list := by
  unfold Tracker.waiting
  constructor
  · intro mem
    cases found : t.inflight.get? (kind, id) with
    | none =>
      rw [found] at mem
      cases mem
    | some list =>
      rw [found] at mem
      exact ⟨list, (Table.get?_eq_some_iff _ _ _).1 found, mem⟩
  · rintro ⟨list, entry, mem⟩
    rw [(Table.get?_eq_some_iff _ _ _).2 entry]
    exact mem

/-! ## Results -/

/-- Whoever is answered is told the outcome that came. -/
theorem resolve_settled {t : Tracker α} {kind : AckKind} {id : Nat}
    {outcome : Except DeliveryFault Unit} :
    ∀ x ∈ (t.resolve kind id outcome).2, x.2 = .settled outcome := by
  unfold resolve
  cases t.waiting kind id with
  | nil => simp
  | cons who rest => cases rest <;> simp

/-- Whoever is answered by an incoming packet is told an outcome. -/
theorem received_settled (t : Tracker α) (packet : Incoming) :
    ∀ x ∈ (t.received packet).2, ∃ outcome, x.2 = .settled outcome := by
  intro x mem
  cases packet with
  | pubAck id => exact ⟨_, resolve_settled x mem⟩
  | pubComp id => exact ⟨_, resolve_settled x mem⟩
  | subAck id codes => exact ⟨_, resolve_settled x mem⟩
  | unsubAck id => exact ⟨_, resolve_settled x mem⟩
  | other => cases mem

/-- Nobody is dropped when a packet is written out, if no second message is held back. -/
theorem sent_settled (t : Tracker α) (packet : Outgoing)
    (free : ∀ id, packet = .heldBack id → t.held = none) :
    ∀ x ∈ (t.sent packet).2, ∃ outcome, x.2 = .settled outcome := by
  intro x mem
  cases packet with
  | publish id =>
    simp only [sent] at mem
    split at mem
    · cases mem
    · split at mem
      · rw [List.mem_singleton] at mem
        exact ⟨.ok (), by rw [mem]⟩
      · cases mem
  | subscribe id => cases mem
  | unsubscribe id => cases mem
  | heldBack id =>
    have slot := free id rfl
    have kept := t.held_popQueued .publish
    simp only [sent] at mem
    cases is : t.popQueued .publish with
    | mk t' who =>
      rw [is] at mem kept
      have empty_slot : t'.held = none := kept.trans slot
      cases who with
      | none => cases mem
      | some who => simp [empty_slot] at mem
  | other => cases mem

end Tracker

end Mqtt

end VirtualNode
