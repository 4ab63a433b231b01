import Mathlib.Data.List.Pairwise
import VirtualNode.Proofs.Delivery.Operations

/-!
# Nobody who waits is lost

A register adds to a tracker who was ever enqueued and what became of those who are gone.

The invariant is a balance (`Register.Sound`): those who wait and those who are gone are, but for
their order, those who were enqueued.  Every event keeps it (`Register.Sound.step`), so it holds
after any sequence of events (`Register.Sound.follow`).  What is said of single waiters follows from
it (`Register.conserved_follow`); that they are told apart is the one assumption, for a waiter is a
channel of its own.
-/

set_option autoImplicit false

namespace VirtualNode

namespace Mqtt

variable {α : Type}

/-! ## Sequences of events -/

/-- What can happen to a tracker. -/
inductive Event (α : Type) where
  | enqueue (kind : AckKind) (who : α)
  | cancelLast
  | sent (packet : Outgoing)
  | received (packet : Incoming)
  | failAll (fault : DeliveryFault)

/-- A tracker, all who were ever enqueued, and what became of those who are gone. -/
structure Register (α : Type) where
  tracker : Tracker α
  enqueued : List α
  /-- Those who were settled or dropped, with what they were told. -/
  resolved : List (α × Resolution)
  /-- Those whose requests could not be made. -/
  cancelled : List α

namespace Register

/-- Nobody was enqueued. -/
def empty : Register α := ⟨.empty, [], [], []⟩

/-- Notes who was settled or dropped by an operation of the tracker. -/
def note (r : Register α) (result : Tracker α × List (α × Resolution)) : Register α :=
  { r with tracker := result.1, resolved := r.resolved ++ result.2 }

/-- Something happens to the tracker.  A request that is taken back is the last one in the queue, for
it was made just before. -/
def step (r : Register α) : Event α → Register α
  | .enqueue kind who =>
    { r with tracker := r.tracker.enqueue kind who, enqueued := r.enqueued ++ [who] }
  | .cancelLast =>
    { r with
      tracker := r.tracker.cancelLast.1
      cancelled := r.cancelled ++ (r.tracker.queued.getLast?.map Prod.snd).toList }
  | .sent packet => r.note (r.tracker.sent packet)
  | .received packet => r.note (r.tracker.received packet)
  | .failAll fault => r.note (r.tracker.failAll fault)

/-- Things happen to the tracker one after the other. -/
def follow (r : Register α) (events : List (Event α)) : Register α :=
  events.foldl step r

/-- The connection takes no request while it holds a message back, so it never reports a second
one. -/
def Admits (r : Register α) : Event α → Prop
  | .sent (.heldBack _) => r.tracker.held = none
  | _ => True

/-- Whether the events can be reported one after the other. -/
def Orderly (r : Register α) : List (Event α) → Prop
  | [] => True
  | event :: later => r.Admits event ∧ (r.step event).Orderly later

/-- Events that are in order are so up to any point and from there on. -/
theorem Orderly.of_append {r : Register α} {early late : List (Event α)}
    (orderly : r.Orderly (early ++ late)) :
    r.Orderly early ∧ (r.follow early).Orderly late := by
  induction early generalizing r with
  | nil => exact ⟨trivial, orderly⟩
  | cons event early ih =>
    obtain ⟨admits, rest⟩ := orderly
    obtain ⟨before, after⟩ := ih rest
    exact ⟨⟨admits, before⟩, after⟩

/-- Those who do not wait any more. -/
def gone (r : Register α) : List α := r.resolved.map Prod.fst ++ r.cancelled

/-- Those who wait and those who are gone are those who were enqueued, and whoever was answered
got a result. -/
structure Sound (r : Register α) : Prop where
  balanced : (r.gone ++ r.tracker.everyone).Perm r.enqueued
  occupied : r.tracker.Occupied
  settled : ∀ x ∈ r.resolved, ∃ outcome, x.2 = .settled outcome

/-- The register of a new tracker is sound. -/
theorem sound_empty : (empty : Register α).Sound := by
  refine ⟨.refl _, ?_, ?_⟩
  · intro e mem
    cases mem
  · intro x mem
    cases mem

/-- An operation that answers some of those who wait keeps the balance. -/
theorem Sound.note {r : Register α} (sound : r.Sound)
    {result : Tracker α × List (α × Resolution)}
    (moved : (result.2.map Prod.fst ++ result.1.everyone).Perm r.tracker.everyone)
    (occupied : result.1.Occupied)
    (settled : ∀ x ∈ result.2, ∃ outcome, x.2 = .settled outcome) : (r.note result).Sound := by
  refine ⟨?_, occupied, ?_⟩
  · have regrouped : ((r.note result).gone ++ result.1.everyone).Perm
        (r.gone ++ (result.2.map Prod.fst ++ result.1.everyone)) := by
      simp only [Register.note, gone, List.map_append, List.append_assoc]
      refine List.Perm.append_left _ ?_
      exact List.perm_append_comm_assoc _ _ _
    exact regrouped.trans ((moved.append_left _).trans sound.balanced)
  · intro x mem
    rcases List.mem_append.1 mem with mem | mem
    · exact sound.settled x mem
    · exact settled x mem

/-- The register stays sound, whatever the connection comes upon. -/
theorem Sound.step {r : Register α} (sound : r.Sound) {event : Event α} (admits : r.Admits event) :
    (r.step event).Sound := by
  cases event with
  | enqueue kind who =>
    refine ⟨?_, sound.occupied, sound.settled⟩
    have came := (r.tracker.everyone_enqueue kind who).append_left r.gone
    have last := (List.perm_append_singleton who r.enqueued).symm
    exact came.trans (List.perm_middle.trans ((sound.balanced.cons who).trans last))
  | cancelLast =>
    refine ⟨?_, sound.occupied, sound.settled⟩
    have left := r.tracker.everyone_cancelLast.append_left r.gone
    have regrouped : (r.step .cancelLast).gone ++ r.tracker.cancelLast.1.everyone = r.gone ++
        ((r.tracker.queued.getLast?.map Prod.snd).toList ++ r.tracker.cancelLast.1.everyone) := by
      simp [Register.step, gone]
    exact (List.Perm.of_eq regrouped).trans (left.trans sound.balanced)
  | sent packet =>
    have free : ∀ id, packet = .heldBack id → r.tracker.held = none := by
      rintro id rfl
      exact admits
    exact sound.note (r.tracker.everyone_sent packet free) (sound.occupied.sent packet)
      (r.tracker.sent_settled packet free)
  | received packet =>
    exact sound.note (r.tracker.everyone_received packet) (sound.occupied.received packet)
      (r.tracker.received_settled packet)
  | failAll fault =>
    refine sound.note ?_ ?_ ?_
    · simp [Tracker.failAll, Tracker.everyone, Tracker.empty, Table.empty, Function.comp_def]
    · intro e mem
      cases mem
    · intro x mem
      obtain ⟨who, -, rfl⟩ := List.mem_map.1 mem
      exact ⟨_, rfl⟩

/-- The register is sound after any events that the connection can come upon. -/
theorem Sound.follow {r : Register α} (sound : r.Sound) {events : List (Event α)}
    (orderly : r.Orderly events) : (r.follow events).Sound := by
  induction events generalizing r with
  | nil => exact sound
  | cons event later ih => exact ih (sound.step orderly.1) orderly.2

/-- What is on record stays on record. -/
theorem follow_extends (r : Register α) (events : List (Event α)) :
    (∃ more, (r.follow events).resolved = r.resolved ++ more) ∧
      (∃ more, (r.follow events).cancelled = r.cancelled ++ more) ∧
      ∃ more, (r.follow events).enqueued = r.enqueued ++ more := by
  induction events generalizing r with
  | nil => exact ⟨⟨[], by simp [follow]⟩, ⟨[], by simp [follow]⟩, ⟨[], by simp [follow]⟩⟩
  | cons event later ih =>
    obtain ⟨⟨resolved, h⟩, ⟨cancelled, h'⟩, enqueued, h''⟩ := ih (r.step event)
    have unfolded : r.follow (event :: later) = (r.step event).follow later := rfl
    rw [unfolded, h, h', h'']
    cases event <;> simp [Register.step, Register.note]

/-! ## Places -/

/-- Where somebody can be who was enqueued. -/
inductive Place where
  | queue
  | flight (kind : AckKind) (id : Nat)
  | slot
  | finished
  deriving DecidableEq, Repr

/-- Those who are at a place. -/
def members (r : Register α) : Place → List α
  | .queue => r.tracker.queued.map Prod.snd
  | .flight kind id => r.tracker.waiting kind id
  | .slot => r.tracker.held.toList.map Prod.snd
  | .finished => r.gone

/-- The places where there can be somebody, with those who are there. -/
def rooms (r : Register α) : List (Place × List α) :=
  (.finished, r.gone) :: (.queue, r.tracker.queued.map Prod.snd) ::
    (r.tracker.inflight.entries.map fun e => (Place.flight e.1.1 e.1.2, e.2)) ++
      [(.slot, r.tracker.held.toList.map Prod.snd)]

/-- In the places of a register are those who are gone and those who wait. -/
theorem flatMap_rooms (r : Register α) :
    r.rooms.flatMap Prod.snd = r.gone ++ r.tracker.everyone := by
  simp [rooms, Tracker.everyone, List.flatMap_map]

/-- The members of a place are those in a room of that place. -/
theorem mem_members_iff {r : Register α} {place : Place} {who : α} :
    who ∈ r.members place ↔ ∃ list, (place, list) ∈ r.rooms ∧ who ∈ list := by
  cases place with
  | queue => simp [members, rooms]
  | flight kind id => simp [members, rooms, Tracker.mem_waiting_iff]
  | slot => simp [members, rooms]
  | finished => simp [members, rooms]

/-- If nobody is listed twice, two rooms with somebody in common are the same. -/
theorem same_room {r : Register α} (nodup : (r.rooms.flatMap Prod.snd).Nodup)
    {a b : Place × List α} (ha : a ∈ r.rooms) (hb : b ∈ r.rooms) {who : α} (in_a : who ∈ a.2)
    (in_b : who ∈ b.2) : a = b := by
  have apart := (List.nodup_flatMap.1 nodup).2
  have symmetric : Std.Symm (Function.onFun List.Disjoint fun room : Place × List α => room.2) :=
    ⟨fun _ _ disjoint _ in_b in_a => disjoint in_a in_b⟩
  by_contra differ
  exact apart.forall ha hb differ in_a in_b

/-- If nobody makes two requests, nobody is in two rooms or twice in one. -/
theorem Sound.nodup_rooms {r : Register α} (sound : r.Sound) (distinct : r.enqueued.Nodup) :
    (r.rooms.flatMap Prod.snd).Nodup := by
  rw [flatMap_rooms]
  exact sound.balanced.nodup_iff.2 distinct

/-- Whoever has made a request is in some place, and nobody else is. -/
theorem Sound.mem_enqueued_iff {r : Register α} (sound : r.Sound) {who : α} :
    who ∈ r.enqueued ↔ ∃ place, who ∈ r.members place := by
  rw [← sound.balanced.mem_iff, ← flatMap_rooms, List.mem_flatMap]
  constructor
  · rintro ⟨⟨place, list⟩, room, mem⟩
    exact ⟨place, mem_members_iff.2 ⟨list, room, mem⟩⟩
  · rintro ⟨place, mem⟩
    obtain ⟨list, room, mem⟩ := mem_members_iff.1 mem
    exact ⟨(place, list), room, mem⟩

/-- Those who wait are those who were enqueued and are not gone. -/
theorem Sound.mem_everyone_iff {r : Register α} (sound : r.Sound) (distinct : r.enqueued.Nodup)
    {who : α} : who ∈ r.tracker.everyone ↔ who ∈ r.enqueued ∧ who ∉ r.gone := by
  have whole : who ∈ r.enqueued ↔ who ∈ r.gone ∨ who ∈ r.tracker.everyone := by
    rw [← sound.balanced.mem_iff, List.mem_append]
  have apart := List.disjoint_of_nodup_append (sound.balanced.nodup_iff.2 distinct)
  constructor
  · intro mem
    exact ⟨whole.2 (.inr mem), fun gone => apart gone mem⟩
  · rintro ⟨mem, still⟩
    exact (whole.1 mem).resolve_left still

/-! ## The balance, person by person -/

/-- Somebody got one result, and nothing else. -/
def Answered (r : Register α) (who : α) : Prop :=
  ∃ early outcome late, r.resolved = early ++ (who, .settled outcome) :: late ∧
    ∀ x ∈ early ++ late, x.1 ≠ who

/-- Somebody was never told anything. -/
def Unanswered (r : Register α) (who : α) : Prop := ∀ x ∈ r.resolved, x.1 ≠ who

/-- A register in which nobody got lost and nobody was answered twice. -/
structure Conserved (r : Register α) : Prop where
  /-- Whoever was enqueued is at one place. -/
  place : ∀ who ∈ r.enqueued, ∃! place, who ∈ r.members place
  /-- Nobody is twice at a place. -/
  once : ∀ place, (r.members place).Nodup
  /-- At a place there is nobody else. -/
  known : ∀ place, ∀ who ∈ r.members place, who ∈ r.enqueued
  /-- Whoever is done with got one result, or else was taken back. -/
  ending : ∀ who ∈ r.members .finished,
    (r.Answered who ∧ who ∉ r.cancelled) ∨ (who ∈ r.cancelled ∧ r.Unanswered who)
  outstanding : r.tracker.outstanding + r.resolved.length + r.cancelled.length = r.enqueued.length
  occupied : r.tracker.Occupied
  /-- When the connection is given up, those who are not done with are told so, each once. -/
  failAll : ∀ fault, (r.tracker.failAll fault).1.outstanding = 0 ∧
    ((r.tracker.failAll fault).2.map Prod.fst).Nodup ∧
    ∀ who told, (who, told) ∈ (r.tracker.failAll fault).2 ↔
      told = .settled (.error fault) ∧ who ∈ r.enqueued ∧ who ∉ r.members .finished

/-- Whoever is gone was either answered once or taken out unanswered. -/
theorem Sound.ending {r : Register α} (sound : r.Sound) (distinct : r.gone.Nodup) {who : α}
    (done : who ∈ r.gone) :
    (r.Answered who ∧ who ∉ r.cancelled) ∨ (who ∈ r.cancelled ∧ r.Unanswered who) := by
  have apart := List.disjoint_of_nodup_append distinct
  rcases List.mem_append.1 done with told | back
  · refine .inl ⟨?_, fun back => apart told back⟩
    obtain ⟨⟨name, answer⟩, mem, rfl⟩ := List.mem_map.1 told
    obtain ⟨outcome, rfl⟩ := sound.settled _ mem
    obtain ⟨early, late, split⟩ := List.append_of_mem mem
    refine ⟨early, outcome, late, split, ?_⟩
    have names : (early.map Prod.fst ++ name :: late.map Prod.fst).Nodup := by
      have once := (List.nodup_append.1 distinct).1
      simpa [split] using once
    have others := (List.nodup_middle.1 names).notMem
    rw [← List.map_append] at others
    rintro x elsewhere rfl
    exact others (List.mem_map_of_mem elsewhere)
  · refine .inr ⟨back, ?_⟩
    rintro x mem rfl
    exact apart (List.mem_map_of_mem mem) back

/-- Whoever has made a request is in exactly one place. -/
theorem Sound.one_place {r : Register α} (sound : r.Sound) (distinct : r.enqueued.Nodup) {who : α}
    (mem : who ∈ r.enqueued) : ∃! place, who ∈ r.members place := by
  obtain ⟨place, here⟩ := sound.mem_enqueued_iff.1 mem
  refine ⟨place, here, ?_⟩
  intro other there
  obtain ⟨_, room, in_room⟩ := mem_members_iff.1 here
  obtain ⟨_, room', in_room'⟩ := mem_members_iff.1 there
  have same := same_room (sound.nodup_rooms distinct) room' room in_room' in_room
  exact congrArg Prod.fst same

/-- Nobody is twice in one place. -/
theorem Sound.nodup_members {r : Register α} (sound : r.Sound) (distinct : r.enqueued.Nodup)
    (place : Place) : (r.members place).Nodup := by
  have each := (List.nodup_flatMap.1 (sound.nodup_rooms distinct)).1
  cases place with
  | queue => exact each (.queue, r.members .queue) (by simp [rooms, members])
  | flight kind id =>
    simp only [members, Tracker.waiting]
    cases found : r.tracker.inflight.get? (kind, id) with
    | none => exact List.nodup_nil
    | some list =>
      have entry := (Table.get?_eq_some_iff _ _ _).1 found
      exact each (.flight kind id, list) (by simp [rooms, entry])
  | slot => exact each (.slot, r.members .slot) (by simp [rooms, members])
  | finished => exact each (.finished, r.gone) (by simp [rooms])

/-- When everybody is failed, those who waited are told the fault, each once, and nobody waits any
more. -/
theorem Sound.failAll {r : Register α} (sound : r.Sound) (distinct : r.enqueued.Nodup)
    (fault : DeliveryFault) :
    (r.tracker.failAll fault).1.outstanding = 0 ∧
      ((r.tracker.failAll fault).2.map Prod.fst).Nodup ∧
      ∀ who told, (who, told) ∈ (r.tracker.failAll fault).2 ↔
        told = .settled (.error fault) ∧ who ∈ r.enqueued ∧ who ∉ r.members .finished := by
  refine ⟨?_, ?_, ?_⟩
  · simp [Tracker.failAll, Tracker.outstanding_eq, Tracker.everyone, Tracker.empty, Table.empty]
  · have names : (r.tracker.failAll fault).2.map Prod.fst = r.tracker.everyone := by
      simp [Tracker.failAll, Function.comp_def]
    rw [names]
    exact (List.nodup_append.1 (sound.balanced.nodup_iff.2 distinct)).2.1
  · intro who told
    have waits : who ∈ r.tracker.everyone ↔ who ∈ r.enqueued ∧ who ∉ r.gone :=
      sound.mem_everyone_iff distinct
    constructor
    · intro mem
      obtain ⟨name, waiting, is⟩ := List.mem_map.1 mem
      cases is
      exact ⟨rfl, waits.1 waiting⟩
    · rintro ⟨rfl, still⟩
      exact List.mem_map.2 ⟨who, waits.2 still, rfl⟩

/-- What a sound register says amounts to the conservation of those who wait. -/
theorem Sound.conserved {r : Register α} (sound : r.Sound) (distinct : r.enqueued.Nodup) :
    r.Conserved := by
  refine ⟨?_, sound.nodup_members distinct, ?_, ?_, ?_, sound.occupied, sound.failAll distinct⟩
  · intro who mem
    exact sound.one_place distinct mem
  · intro place who mem
    exact sound.mem_enqueued_iff.2 ⟨place, mem⟩
  · intro who done
    exact sound.ending (List.nodup_append.1 (sound.balanced.nodup_iff.2 distinct)).1 done
  · have lengths := sound.balanced.length_eq
    simp only [gone, List.length_append, List.length_map] at lengths
    rw [Tracker.outstanding_eq]
    omega

/-- Whatever is enqueued, written out and acknowledged, and in whatever order: everybody who was
enqueued is accounted for at every moment, and whoever is done with is never told anything
again. -/
theorem conserved_follow {early late : List (Event α)}
    (orderly : (empty : Register α).Orderly (early ++ late))
    (distinct : ((empty : Register α).follow (early ++ late)).enqueued.Nodup) :
    ((empty : Register α).follow early).Conserved ∧
      ∃ resolved cancelled,
        ((empty : Register α).follow (early ++ late)).resolved =
          ((empty : Register α).follow early).resolved ++ resolved ∧
        ((empty : Register α).follow (early ++ late)).cancelled =
          ((empty : Register α).follow early).cancelled ++ cancelled ∧
        ∀ who ∈ ((empty : Register α).follow early).members .finished,
          (∀ x ∈ resolved, x.1 ≠ who) ∧ who ∉ cancelled := by
  obtain ⟨before, after⟩ := orderly.of_append
  have now := sound_empty.follow before
  have later := now.follow after
  have whole : (empty : Register α).follow (early ++ late) =
      ((empty : Register α).follow early).follow late := List.foldl_append
  rw [whole] at distinct ⊢
  obtain ⟨⟨resolved, resolved_eq⟩, ⟨cancelled, cancelled_eq⟩, enqueued, enqueued_eq⟩ :=
    follow_extends ((empty : Register α).follow early) late
  have distinct_now : ((empty : Register α).follow early).enqueued.Nodup := by
    rw [enqueued_eq] at distinct
    exact (List.nodup_append.1 distinct).1
  refine ⟨now.conserved distinct_now, resolved, cancelled, resolved_eq, cancelled_eq, ?_⟩
  -- Whoever is done with at both moments must not be listed twice at the later one.
  have ended : (((empty : Register α).follow early).follow late).gone.Nodup :=
    (List.nodup_append.1 (later.balanced.nodup_iff.2 distinct)).1
  simp only [gone, resolved_eq, cancelled_eq, List.map_append] at ended
  have regrouped : (((empty : Register α).follow early).gone ++
      (resolved.map Prod.fst ++ cancelled)).Nodup := by
    refine (List.Perm.nodup_iff ?_).1 ended
    simp only [gone, List.append_assoc]
    exact (List.perm_append_comm_assoc _ _ _).append_left _
  have apart := List.disjoint_of_nodup_append regrouped
  intro who done
  constructor
  · rintro x mem rfl
    exact apart done (List.mem_append_left _ (List.mem_map_of_mem mem))
  · intro mem
    exact apart done (List.mem_append_right _ mem)

/-- A message that is held back until its packet id is free, a request that is taken back, and one
that is lost with the connection: whoever made the second one is never told anything, and is taken
back once. -/
theorem conserved_follow_three :
    let early := [Event.enqueue .publish 1, .sent (.heldBack 7), .enqueue .publish 2, .cancelLast,
      .enqueue .subscribe 3]
    let late := [Event.sent (.publish 7), .sent (.subscribe 8), .received (.pubAck 7),
      .failAll .disconnected]
    let r := (empty : Register Nat).follow early
    let r' := (empty : Register Nat).follow (early ++ late)
    ((empty : Register Nat).Orderly (early ++ late) ∧ r'.enqueued.Nodup) ∧
      r.Conserved ∧ 2 ∈ r.members .finished ∧
      (∀ x ∈ r'.resolved, x.1 ≠ 2) ∧ r'.cancelled.count 2 = 1 := by
  intro early late r r'
  have orderly : (empty : Register Nat).Orderly (early ++ late) :=
    ⟨trivial, rfl, trivial, trivial, trivial, trivial, trivial, trivial, trivial, trivial⟩
  have distinct : r'.enqueued.Nodup := by decide
  have done : 2 ∈ r.members .finished := by decide
  obtain ⟨conserved, resolved, cancelled, told, taken, never⟩ := conserved_follow orderly distinct
  obtain ⟨untold, kept⟩ := never 2 done
  have before : r.resolved = [] ∧ r.cancelled = [2] := ⟨rfl, rfl⟩
  refine ⟨⟨orderly, distinct⟩, conserved, done, ?_, ?_⟩
  · change r'.resolved = r.resolved ++ resolved at told
    rw [told, before.1]
    exact untold
  · change r'.cancelled = r.cancelled ++ cancelled at taken
    rw [taken, before.2, List.count_append, List.count_eq_zero.2 kept]
    rfl

end Register

end Mqtt

end VirtualNode
