import VirtualNode.Proofs.Delivery.Waiters

/-!
# Acknowledgements reach the right caller

A tracker knows packet ids and those who wait under them.  The connection knows requests: they go
out in the order in which they were made, each under an id, and those that went out are acknowledged
in the order in which they went out, as far as kind and id are the same.  A docket keeps account of
the requests in these terms: what has not gone out, the message that is held back, and what went out
and was not acknowledged, in the order in which it went out.

`Docket.Admits` says which reports of the connection can come: the next request goes out with its
own kind and some id, or the message that is held back goes out under the id for which it was held.
Main statement: the tracker answers to every report what the docket says
(`Audience.acknowledged_in_order`), and what somebody hears does not depend on who else has stopped
listening.
-/

set_option autoImplicit false

namespace VirtualNode.Mqtt

variable {α : Type}

/-! ## What reports are about -/

/-- The kind and the id of the request that goes out with a packet. -/
def Outgoing.key? : Outgoing → Option (AckKind × Nat)
  | .publish id => some (.publish, id)
  | .subscribe id => some (.subscribe, id)
  | .unsubscribe id => some (.unsubscribe, id)
  | .heldBack _ | .other => none

/-- The kind and the id of the request that a packet acknowledges. -/
def Incoming.key? : Incoming → Option (AckKind × Nat)
  | .pubAck id | .pubComp id => some (.publish, id)
  | .subAck id _ => some (.subscribe, id)
  | .unsubAck id => some (.unsubscribe, id)
  | .other => none

/-- The outcome of the request that a packet acknowledges: a subscription is refused if one of its
codes is missing. -/
def Incoming.outcome : Incoming → Except DeliveryFault Unit
  | .subAck _ codes =>
    if none ∈ codes then .error (.rejected "subscription refused") else .ok ()
  | _ => .ok ()

/-! ## Events -/

/-- What becomes of a tracker by an event, and of those who wait. -/
def Event.apply (t : Tracker α) : Event α → Tracker α × List (α × Resolution)
  | .enqueue kind who => (t.enqueue kind who, [])
  | .cancelLast => (t.cancelLast.1, t.cancelLast.2.toList.map fun who => (who, .dropped))
  | .sent packet => t.sent packet
  | .received packet => t.received packet
  | .failAll fault => t.failAll fault

/-! ## Dockets -/

/-- The requests since the connection was last lost. -/
structure Docket (α : Type) where
  /-- Requests of which nothing was reported, in the order in which they were made. -/
  unsent : List (AckKind × α)
  /-- The message that is held back, with the id for which it waits. -/
  held : Option (Nat × α)
  /-- Requests that went out and were not acknowledged, in the order in which they went out. -/
  unacknowledged : List ((AckKind × Nat) × α)

namespace Docket

def empty : Docket α := ⟨[], none, []⟩

/-- Of the requests of a kind that went out under an id and were not acknowledged, the one that went
out first. -/
def earliest? (d : Docket α) (key : AckKind × Nat) : Option α :=
  (d.unacknowledged.find? fun r => r.1 = key).map Prod.snd

/-- Whether the message that is held back waits for this id. -/
def holds (d : Docket α) (key : AckKind × Nat) : Prop :=
  key.1 = .publish ∧ d.held.map Prod.fst = some key.2

instance (d : Docket α) (key : AckKind × Nat) : Decidable (d.holds key) :=
  inferInstanceAs (Decidable (_ ∧ _))

/-- The one whose request goes out with this kind and id. -/
def sender? (d : Docket α) (key : AckKind × Nat) : Option α :=
  if d.holds key then d.held.map Prod.snd else d.unsent.head?.map Prod.snd

/-- A request goes out.  If it has no id then nobody will acknowledge it. -/
def goOut (d : Docket α) (key : AckKind × Nat) : Docket α where
  unsent := if d.holds key then d.unsent else d.unsent.tail
  held := if d.holds key then none else d.held
  unacknowledged :=
    if key = (.publish, 0) then d.unacknowledged
    else d.unacknowledged ++ (d.sender? key).toList.map fun who => (key, who)

/-- The docket after an event. -/
def step (d : Docket α) : Event α → Docket α
  | .enqueue kind who => { d with unsent := d.unsent ++ [(kind, who)] }
  | .cancelLast => { d with unsent := d.unsent.dropLast }
  | .sent (.heldBack id) =>
    { d with unsent := d.unsent.tail, held := d.unsent.head?.map fun r => (id, r.2) }
  | .sent packet => match packet.key? with
    | some key => d.goOut key
    | none => d
  | .received packet => match packet.key? with
    | some key => { d with unacknowledged := d.unacknowledged.eraseP fun r => r.1 = key }
    | none => d
  | .failAll _ => empty

def follow (d : Docket α) (events : List (Event α)) : Docket α :=
  events.foldl step d

/-- The kind of the next request. -/
def nextKind? (d : Docket α) : Option AckKind := d.unsent.head?.map Prod.fst

/-- Which events can come.  The next request goes out with its own kind, unless a message that was
held back goes out under the id for which it waited.  Only a message can be held back, and only one
at a time, for the connection takes no request meanwhile. -/
def Admits (d : Docket α) : Event α → Prop
  | .sent (.heldBack _) => d.held = none ∧ d.nextKind? = some .publish
  | .sent packet => ∀ key ∈ packet.key?, d.holds key ∨ d.nextKind? = some key.1
  | _ => True

instance (d : Docket α) : (event : Event α) → Decidable (d.Admits event)
  | .sent (.heldBack _) => inferInstanceAs (Decidable (_ ∧ _))
  | .sent (.publish id) => inferInstanceAs (Decidable (∀ key ∈ (Outgoing.publish id).key?, _))
  | .sent (.subscribe id) => inferInstanceAs (Decidable (∀ key ∈ (Outgoing.subscribe id).key?, _))
  | .sent (.unsubscribe id) =>
    inferInstanceAs (Decidable (∀ key ∈ (Outgoing.unsubscribe id).key?, _))
  | .sent .other | .enqueue _ _ | .cancelLast | .received _ | .failAll _ => isTrue (by simp [Admits, Outgoing.key?])

/-- Whether events can come one after the other. -/
def Lawful (d : Docket α) : List (Event α) → Prop
  | [] => True
  | event :: later => d.Admits event ∧ (d.step event).Lawful later

instance decidableLawful : (d : Docket α) → (events : List (Event α)) → Decidable (d.Lawful events)
  | _, [] => isTrue trivial
  | d, event :: later =>
    have := decidableLawful (d.step event) later
    inferInstanceAs (Decidable (_ ∧ _))

/-- A tracker answers as the docket says. -/
structure Describes (d : Docket α) (t : Tracker α) : Prop where
  /-- An acknowledgement settles, of the requests of its kind that went out under its id and were not
  acknowledged, the one that went out first, and nobody else. -/
  acknowledged : ∀ packet key, packet.key? = some key →
    (t.received packet).2 =
      (d.earliest? key).toList.map fun who => (who, .settled packet.outcome)
  /-- A packet that acknowledges nothing that is known changes nothing. -/
  unknown : ∀ packet, packet.key?.bind d.earliest? = none → t.received packet = (t, [])
  /-- A message without an id is settled when it goes out, and nobody else is settled or dropped by
  what goes out. -/
  sent : ∀ packet, d.Admits (.sent packet) →
    (t.sent packet).2 =
      if packet.key? = some (.publish, 0) then
        (d.sender? (.publish, 0)).toList.map fun who => (who, .settled (.ok ()))
      else []
  /-- Any other packet that is written out changes nothing. -/
  other : t.sent .other = (t, [])

/-- Those whose requests went out with this kind and id and were not acknowledged, in the order in
which the requests went out. -/
def waiting (d : Docket α) (key : AckKind × Nat) : List α :=
  (d.unacknowledged.filter fun r => r.1 = key).map Prod.snd

/-- The first in line for a packet id is the earliest request with that id. -/
theorem head?_waiting (d : Docket α) (key : AckKind × Nat) :
    (d.waiting key).head? = d.earliest? key := by
  rw [waiting, earliest?, List.head?_map, List.head?_filter]

/-- Who waits with a kind and an id after the request that went out first with `key` is done
with. -/
theorem filter_eraseP {key other : AckKind × Nat} (requests : List ((AckKind × Nat) × α)) :
    (requests.eraseP fun r => r.1 = key).filter (fun r => r.1 = other) =
      if key = other then (requests.filter fun r => r.1 = other).tail
      else requests.filter fun r => r.1 = other := by
  induction requests with
  | nil => simp
  | cons r rest ih =>
    by_cases first : r.1 = key
    · by_cases same : key = other
      · simp [first, same]
      · simp [first, same]
    · by_cases counted : r.1 = other
      · have differ : key ≠ other := fun same => first (counted.trans same.symm)
        simp [counted, differ, differ.symm, ih]
      · simp [first, counted, ih]

end Docket

/-! ## Trackers, request by request -/

namespace Tracker

/-- Takes the one whose request goes out. -/
def take (t : Tracker α) : AckKind × Nat → Tracker α × Option α
  | (.publish, id) => t.takeWritten id
  | (kind, _) => t.popQueued kind

/-- A packet with an id that goes out takes its request from the queue, and answers it at once only
if it is a publish that nobody acknowledges. -/
theorem sent_eq_take (t : Tracker α) {packet : Outgoing} {key : AckKind × Nat}
    (about : packet.key? = some key) :
    t.sent packet = match t.take key with
      | (t, none) => (t, [])
      | (t, some who) =>
        if key = (.publish, 0) then (t, [(who, .settled (.ok ()))])
        else (t.bind key.1 key.2 who, []) := by
  cases packet with
  | publish id =>
    cases about
    simp only [Tracker.sent, take]
    rcases t.takeWritten id with ⟨t', _ | who⟩ <;> simp
  | subscribe id =>
    cases about
    simp only [Tracker.sent, Tracker.bindQueued, take]
    rcases t.popQueued .subscribe with ⟨t', _ | who⟩ <;> simp
  | unsubscribe id =>
    cases about
    simp only [Tracker.sent, Tracker.bindQueued, take]
    rcases t.popQueued .unsubscribe with ⟨t', _ | who⟩ <;> simp
  | heldBack id => cases about
  | other => cases about

/-- A packet with an id that comes in answers whoever is first in line for it. -/
theorem received_eq_resolve (t : Tracker α) {packet : Incoming} {key : AckKind × Nat}
    (about : packet.key? = some key) :
    t.received packet = t.resolve key.1 key.2 packet.outcome := by
  cases packet with
  | subAck id codes =>
    cases about
    have same : granted codes = (Incoming.subAck id codes).outcome := by
      have refused : codes.all Option.isSome = true ↔ none ∉ codes := by
        rw [List.all_eq_true]
        constructor
        · intro all absent
          cases all none absent
        · intro complete code mem
          cases code with
          | none => exact absurd mem complete
          | some qos => rfl
      by_cases missing : none ∈ codes
      · simp [granted, Incoming.outcome, missing, refused]
      · simp [granted, Incoming.outcome, missing, refused]
    simp only [Tracker.received, same]
  | pubAck id | pubComp id | unsubAck id =>
    cases about
    rfl
  | other => cases about

/-- Whoever is bound to a packet id comes last in the line for it, and other lines stay. -/
theorem waiting_bind (t : Tracker α) (key other : AckKind × Nat) (who : α) :
    (t.bind key.1 key.2 who).waiting other.1 other.2 =
      if key = other then t.waiting other.1 other.2 ++ [who] else t.waiting other.1 other.2 := by
  by_cases same : key = other
  · simp [Tracker.waiting, bind, Table.get?_insert, same]
  · simp [Tracker.waiting, bind, Table.get?_insert, same]

/-- An answer takes the first out of the line for its packet id, and other lines stay. -/
theorem waiting_resolve (t : Tracker α) (key other : AckKind × Nat)
    (outcome : Except DeliveryFault Unit) :
    (t.resolve key.1 key.2 outcome).1.waiting other.1 other.2 =
      if key = other then (t.waiting other.1 other.2).tail else t.waiting other.1 other.2 := by
  unfold resolve
  split
  · rename_i nobody
    by_cases same : key = other
    · subst same
      simp [nobody]
    · simp [same]
  · rename_i who alone
    by_cases same : key = other
    · subst same
      simp [alone]
      simp [Tracker.waiting, Table.get?_erase]
    · simp [Tracker.waiting, Table.get?_erase, same]
  · rename_i who rest _ several
    by_cases same : key = other
    · subst same
      simp [several]
      simp [Tracker.waiting, Table.get?_insert]
    · simp [Tracker.waiting, Table.get?_insert, same]

/-- Only the first in line is told the outcome. -/
theorem resolve_answer (t : Tracker α) (kind : AckKind) (id : Nat)
    (outcome : Except DeliveryFault Unit) :
    (t.resolve kind id outcome).2 =
      (t.waiting kind id).head?.toList.map fun who => (who, .settled outcome) := by
  unfold resolve
  split <;> rename_i list <;> simp [list]

/-- An answer for which nobody waits changes nothing. -/
theorem resolve_of_nobody {t : Tracker α} {kind : AckKind} {id : Nat}
    (nobody : t.waiting kind id = []) (outcome : Except DeliveryFault Unit) :
    t.resolve kind id outcome = (t, []) := by
  unfold resolve
  rw [nobody]

end Tracker

/-! ## The tracker follows the docket -/

namespace Docket

/-- A tracker keeps what is on the docket. -/
structure Represents (d : Docket α) (t : Tracker α) : Prop where
  queued : t.queued = d.unsent
  held : t.held = d.held
  waiting : ∀ key : AckKind × Nat, t.waiting key.1 key.2 = d.waiting key

/-- The empty docket represents the empty tracker. -/
theorem represents_empty : (empty : Docket α).Represents .empty :=
  ⟨rfl, rfl, fun _ => rfl⟩

/-- What a docket holds back is a publish, under the id with which it is to go out. -/
theorem holds_iff {d : Docket α} {key : AckKind × Nat} :
    d.holds key ↔ ∃ id who, key = (.publish, id) ∧ d.held = some (id, who) := by
  obtain ⟨kind, id⟩ := key
  simp only [holds, Option.map_eq_some_iff, Prod.mk.injEq]
  constructor
  · rintro ⟨rfl, ⟨heldId, who⟩, held, rfl⟩
    exact ⟨_, who, ⟨rfl, rfl⟩, held⟩
  · rintro ⟨_, who, ⟨rfl, rfl⟩, held⟩
    exact ⟨rfl, _, held, rfl⟩

/-- If nothing is held back for an id, the next request is the one that goes out under it. -/
theorem Represents.take_of_not_holds {d : Docket α} {t : Tracker α}
    (represents : d.Represents t) {key : AckKind × Nat} (free : ¬ d.holds key) :
    t.take key = t.popQueued key.1 := by
  obtain ⟨kind, id⟩ := key
  cases kind with
  | subscribe | unsubscribe => rfl
  | publish =>
    simp only [Tracker.take, Tracker.takeWritten, represents.held]
    cases held : d.held with
    | none => rfl
    | some entry =>
      have other : entry.1 ≠ id := by
        rintro rfl
        exact free (holds_iff.2 ⟨entry.1, entry.2, rfl, held⟩)
      simp [other]

/-- The tracker takes the one whose request goes out. -/
theorem Represents.take {d : Docket α} {t : Tracker α} (represents : d.Represents t)
    {key : AckKind × Nat} (admitted : d.holds key ∨ d.nextKind? = some key.1) :
    ∃ t' who, t.take key = (t', some who) ∧ d.sender? key = some who ∧
      t'.queued = (d.goOut key).unsent ∧ t'.held = (d.goOut key).held ∧
      t'.inflight = t.inflight := by
  by_cases holds : d.holds key
  · obtain ⟨id, who, rfl, held⟩ := holds_iff.1 holds
    refine ⟨{ t with held := none }, who, ?_, ?_, ?_, ?_, rfl⟩
    · simp [Tracker.take, Tracker.takeWritten, represents.held, held]
    · simp [sender?, holds, held]
    · simp [goOut, holds, represents.queued]
    · simp [goOut, holds]
  · -- Nothing is held back for this id, so the request is the next one.
    have next := admitted.resolve_left holds
    obtain ⟨⟨kind, who⟩, first, rfl⟩ := Option.map_eq_some_iff.1 next
    obtain ⟨rest, unsent⟩ := List.head?_eq_some_iff.1 first
    have queued := represents.queued.trans unsent
    refine ⟨{ t with queued := rest }, who, ?_, ?_, ?_, ?_, rfl⟩
    · rw [represents.take_of_not_holds holds]
      simp [Tracker.popQueued, queued]
    · simp [sender?, holds, unsent]
    · simp [goOut, holds, unsent]
    · simp [goOut, holds, represents.held]

/-- What the tracker answers to a request that goes out, and what it keeps then. -/
theorem Represents.goOut {d : Docket α} {t : Tracker α} (represents : d.Represents t)
    {packet : Outgoing} {key : AckKind × Nat} (about : packet.key? = some key)
    (admitted : d.holds key ∨ d.nextKind? = some key.1) :
    (d.goOut key).Represents (t.sent packet).1 ∧
      (t.sent packet).2 =
        if key = (.publish, 0) then
          (d.sender? key).toList.map fun who => (who, .settled (.ok ()))
        else [] := by
  obtain ⟨t', who, taken, sender, queued, held, inflight⟩ := represents.take admitted
  have same : ∀ other : AckKind × Nat, t'.waiting other.1 other.2 = d.waiting other := by
    intro other
    rw [← represents.waiting other, Tracker.waiting, Tracker.waiting, inflight]
  rw [t.sent_eq_take about, taken]
  by_cases unnumbered : key = (.publish, 0)
  · subst unnumbered
    refine ⟨⟨?_, ?_, ?_⟩, ?_⟩
    · simpa using queued
    · simpa using held
    · intro other
      simpa [Docket.waiting, Docket.goOut] using same other
    · simp [sender]
  · simp only [unnumbered, if_false, and_true]
    refine ⟨queued, held, ?_⟩
    intro other
    rw [Tracker.waiting_bind, same]
    by_cases mine : key = other
    · subst mine
      simp [Docket.waiting, Docket.goOut, unnumbered, sender]
    · simp [Docket.waiting, Docket.goOut, unnumbered, sender, mine]

/-- What the tracker keeps after an acknowledgement. -/
theorem Represents.acknowledge {d : Docket α} {t : Tracker α} (represents : d.Represents t)
    {packet : Incoming} {key : AckKind × Nat} (about : packet.key? = some key) :
    (d.step (.received packet)).Represents (t.received packet).1 := by
  have after : d.step (.received packet) =
      { d with unacknowledged := d.unacknowledged.eraseP fun r => r.1 = key } := by
    simp only [Docket.step, about]
  rw [t.received_eq_resolve about, after]
  refine ⟨?_, ?_, ?_⟩
  · rw [← represents.queued, Tracker.resolve]
    split <;> rfl
  · rw [← represents.held, Tracker.resolve]
    split <;> rfl
  · intro other
    rw [Tracker.waiting_resolve, represents.waiting]
    simp only [Docket.waiting, filter_eraseP]
    split
    · rw [List.map_tail]
    · rfl

/-- A message is held back until its id is free. -/
theorem Represents.holdBack {d : Docket α} {t : Tracker α} (represents : d.Represents t) {id : Nat}
    (free : d.held = none) (next : d.nextKind? = some .publish) :
    (d.step (.sent (.heldBack id))).Represents (t.sent (.heldBack id)).1 ∧
      (t.sent (.heldBack id)).2 = [] := by
  obtain ⟨⟨kind, who⟩, first, rfl⟩ := Option.map_eq_some_iff.1 next
  obtain ⟨rest, unsent⟩ := List.head?_eq_some_iff.1 first
  have popped : t.popQueued .publish = ({ t with queued := rest }, some who) := by
    simp [Tracker.popQueued, represents.queued, unsent]
  have nobody := represents.held.trans free
  simp only [Tracker.sent, popped, nobody]
  refine ⟨⟨?_, ?_, ?_⟩, rfl⟩
  · simp [Docket.step, unsent]
  · simp [Docket.step, unsent]
  · exact represents.waiting

/-- Every event that can come keeps the tracker and the docket together. -/
theorem Represents.step {d : Docket α} {t : Tracker α} (represents : d.Represents t)
    {event : Event α} (admitted : d.Admits event) :
    (d.step event).Represents (event.apply t).1 := by
  cases event with
  | enqueue kind who =>
    refine ⟨?_, represents.held, represents.waiting⟩
    simp [Event.apply, Tracker.enqueue, Docket.step, represents.queued]
  | cancelLast =>
    refine ⟨?_, represents.held, represents.waiting⟩
    simp [Event.apply, Tracker.cancelLast, Docket.step, represents.queued]
  | sent packet =>
    cases packet with
    | publish id => exact (represents.goOut rfl (admitted _ rfl)).1
    | subscribe id => exact (represents.goOut rfl (admitted _ rfl)).1
    | unsubscribe id => exact (represents.goOut rfl (admitted _ rfl)).1
    | heldBack id => exact (represents.holdBack admitted.1 admitted.2).1
    | other => exact represents
  | received packet =>
    cases about : packet.key? with
    | some key => exact represents.acknowledge about
    | none =>
      have unchanged : d.step (.received packet) = d := by
        simp only [Docket.step, about]
      have other : packet = .other := by
        cases packet <;> first | rfl | cases about
      rw [unchanged, other]
      exact represents
  | failAll fault => exact represents_empty

/-- The docket represents the tracker after any events that the connection can come upon. -/
theorem Represents.follow {d : Docket α} {t : Tracker α} (represents : d.Represents t)
    {events : List (Event α)} (lawful : d.Lawful events) :
    (d.follow events).Represents (events.foldl (fun t event => (event.apply t).1) t) := by
  induction events generalizing d t with
  | nil => exact represents
  | cons event later ih => exact ih (represents.step lawful.1) lawful.2

/-- A docket that represents a tracker says who waits for what, and in which order. -/
theorem Represents.describes {d : Docket α} {t : Tracker α} (represents : d.Represents t) :
    d.Describes t where
  acknowledged packet key about := by
    rw [t.received_eq_resolve about, t.resolve_answer, represents.waiting, head?_waiting]
  unknown packet nobody := by
    cases about : packet.key? with
    | none =>
      cases packet <;> first | rfl | cases about
    | some key =>
      have none_waits : t.waiting key.1 key.2 = [] := by
        rw [represents.waiting, ← List.head?_eq_none_iff, head?_waiting]
        simpa [about] using nobody
      rw [t.received_eq_resolve about, Tracker.resolve_of_nobody none_waits]
  sent packet admitted := by
    cases packet with
    | publish id =>
      rw [(represents.goOut rfl (admitted _ rfl)).2]
      by_cases zero : id = 0 <;> simp [Outgoing.key?, zero]
    | subscribe id => exact (represents.goOut rfl (admitted _ rfl)).2
    | unsubscribe id => exact (represents.goOut rfl (admitted _ rfl)).2
    | heldBack id => exact (represents.holdBack admitted.1 admitted.2).2
    | other => rfl
  other := rfl

end Docket

/-! ## Those who listen -/

/-- What can happen while some of those who wait stop listening. -/
inductive Turn (α : Type) where
  | report (event : Event α)
  | leave (who : α)

/-- What is reported to the tracker. -/
def Turn.event? : Turn α → Option (Event α)
  | .report event => some event
  | .leave _ => none

/-- A tracker, those who have stopped listening, and what the others have heard. -/
structure Audience (α : Type) where
  tracker : Tracker α
  gone : List α
  heard : List (α × Resolution)

namespace Audience

variable [DecidableEq α]

def empty : Audience α := ⟨.empty, [], []⟩

def step (s : Audience α) : Turn α → Audience α
  | .report event =>
    { s with
      tracker := (event.apply s.tracker).1
      heard := s.heard ++ Tracker.heard s.gone (event.apply s.tracker).2 }
  | .leave who => { s with gone := who :: s.gone }

def follow (s : Audience α) (turns : List (Turn α)) : Audience α :=
  turns.foldl step s

/-- What somebody has heard. -/
def heardBy (s : Audience α) (who : α) : List (α × Resolution) :=
  s.heard.filter fun r => r.1 = who

/-- The tracker does not know who listens. -/
theorem tracker_follow (s : Audience α) (turns : List (Turn α)) :
    (s.follow turns).tracker =
      (turns.filterMap Turn.event?).foldl (fun t event => (event.apply t).1) s.tracker := by
  induction turns generalizing s with
  | nil => rfl
  | cons turn later ih =>
    have unfolded : s.follow (turn :: later) = (s.step turn).follow later := rfl
    rw [unfolded, ih]
    cases turn <;> rfl

/-- What the tracker says of somebody while events happen. -/
def toldTo (who : α) (t : Tracker α) : List (Event α) → List (α × Resolution)
  | [] => []
  | event :: later =>
    (event.apply t).2.filter (fun r => r.1 = who) ++ toldTo who (event.apply t).1 later

/-- Somebody who listens hears all that is said of him, whoever else listens. -/
theorem heardBy_follow {s : Audience α} {who : α} (listens : who ∉ s.gone) {turns : List (Turn α)}
    (stays : .leave who ∉ turns) :
    (s.follow turns).heardBy who =
      s.heardBy who ++ toldTo who s.tracker (turns.filterMap Turn.event?) := by
  induction turns generalizing s with
  | nil => simp [follow, toldTo]
  | cons turn later ih =>
    have unfolded : s.follow (turn :: later) = (s.step turn).follow later := rfl
    have stays_later : Turn.leave who ∉ later := fun leaves => stays (List.mem_cons_of_mem _ leaves)
    cases turn with
    | leave other =>
      have differ : who ≠ other := by
        rintro rfl
        exact stays List.mem_cons_self
      have still : who ∉ (s.step (.leave other)).gone := by
        simpa [step, differ] using listens
      rw [unfolded, ih still stays_later]
      rfl
    | report event =>
      have all : (Tracker.heard s.gone (event.apply s.tracker).2).filter (fun r => r.1 = who) =
          (event.apply s.tracker).2.filter fun r => r.1 = who := by
        rw [Tracker.heard, List.filter_filter]
        refine List.filter_congr ?_
        intro r _
        by_cases mine : r.1 = who
        · simp [mine, listens]
        · simp [mine]
      have told : toldTo who s.tracker ((Turn.report event :: later).filterMap Turn.event?) =
          (event.apply s.tracker).2.filter (fun r => r.1 = who) ++
            toldTo who (event.apply s.tracker).1 (later.filterMap Turn.event?) := rfl
      rw [unfolded, ih (s := s.step (.report event)) listens stays_later, told]
      simp [step, heardBy, all]

/-- However requests, acknowledgements, ids that are used again, messages that are held back and
losses of the connection follow each other: the tracker answers as the docket of the requests says,
and somebody who listens hears the same whoever else has stopped listening. -/
theorem acknowledged_in_order (turns : List (Turn α))
    (lawful : (Docket.empty : Docket α).Lawful (turns.filterMap Turn.event?)) :
    (Docket.empty.follow (turns.filterMap Turn.event?)).Describes
        ((empty : Audience α).follow turns).tracker ∧
      ∀ others : List (Turn α), others.filterMap Turn.event? = turns.filterMap Turn.event? →
        ∀ who, .leave who ∉ turns → .leave who ∉ others →
          ((empty : Audience α).follow others).heardBy who =
            ((empty : Audience α).follow turns).heardBy who := by
  constructor
  · rw [tracker_follow]
    exact (Docket.represents_empty.follow lawful).describes
  · intro others same who stays stays'
    have nobody_left : who ∉ (empty : Audience α).gone := List.not_mem_nil
    rw [heardBy_follow nobody_left stays', heardBy_follow nobody_left stays, same]

/-- A message goes out under an id that is still in use, before the first message under this id is
acknowledged.  The acknowledgements come to the two in turn, also if the first one has given up
waiting; the subscription is refused, and the message without an id is done with at once. -/
theorem acknowledged_in_order_reused :
    let turns : List (Turn Nat) :=
      [.report (.enqueue .publish 1), .report (.sent (.publish 7)),
        .report (.enqueue .publish 2), .report (.sent (.heldBack 7)),
        .report (.enqueue .subscribe 3), .report (.enqueue .publish 4),
        .report (.sent (.publish 7)), .report (.sent (.subscribe 7)), .report (.sent (.publish 0)),
        .report (.received (.pubAck 7)), .report (.received (.subAck 7 [none]))]
    let abandoned := turns.take 8 ++ Turn.leave 1 :: turns.drop 8
    (((empty : Audience Nat).follow abandoned).tracker.received (.pubComp 7)).2 =
        [(2, .settled (.ok ()))] ∧
      ((empty : Audience Nat).follow abandoned).heardBy 1 = [] ∧
      ((empty : Audience Nat).follow turns).heardBy 1 = [(1, .settled (.ok ()))] ∧
      ((empty : Audience Nat).follow abandoned).heardBy 3 =
        [(3, .settled (.error (.rejected "subscription refused")))] ∧
      ((empty : Audience Nat).follow abandoned).heardBy 4 = [(4, .settled (.ok ()))] := by
  intro turns abandoned
  have same : turns.filterMap Turn.event? = abandoned.filterMap Turn.event? := rfl
  obtain ⟨describes, heard⟩ := acknowledged_in_order abandoned (by decide)
  refine ⟨(describes.acknowledged (.pubComp 7) (.publish, 7) rfl).trans rfl, rfl, rfl, ?_, ?_⟩
  · exact (heard turns same 3 (by simp [turns, abandoned]) (by simp [turns])).symm.trans rfl
  · exact (heard turns same 4 (by simp [turns, abandoned]) (by simp [turns])).symm.trans rfl

end Audience

end VirtualNode.Mqtt
