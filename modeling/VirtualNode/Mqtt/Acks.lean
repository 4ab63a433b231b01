import VirtualNode.Fault
import VirtualNode.Mqtt.Qos
import VirtualNode.Table

/-!
# Acknowledgements

A request gets its packet id only when it is written out, and is settled when the broker
acknowledges that id.  The tracker keeps those who wait in the order of their requests until they
can be bound to an id, and then under their id until the acknowledgement comes.  Ids are used
again, so several may wait under one id; the one that came first is settled first.

A publish whose id is still in use is held back by the connection; the one who waits for it is
kept apart until the publish is written out.
-/

set_option autoImplicit false

namespace VirtualNode.Mqtt

/-- The kinds of requests that are acknowledged. -/
inductive AckKind where
  | publish
  | subscribe
  | unsubscribe
  deriving DecidableEq, Repr, Inhabited

/-- What the connection reports about packets that it writes out. -/
inductive Outgoing where
  /-- A message is written out; its id is zero if nobody acknowledges it. -/
  | publish (id : Nat)
  | subscribe (id : Nat)
  | unsubscribe (id : Nat)
  /-- A message is held back because its id is still in use. -/
  | heldBack (id : Nat)
  /-- Any other packet. -/
  | other
  deriving DecidableEq, Repr, Inhabited

/-- What the connection reports about packets that arrive. -/
inductive Incoming where
  | pubAck (id : Nat)
  | pubComp (id : Nat)
  /-- A subscription is granted or, where a code is missing, refused. -/
  | subAck (id : Nat) (codes : List (Option Qos))
  | unsubAck (id : Nat)
  /-- Any other packet. -/
  | other
  deriving DecidableEq, Repr, Inhabited

/-- What becomes of one who waits. -/
inductive Resolution where
  | settled (outcome : Except DeliveryFault Unit)
  /-- Nobody will ever settle the request. -/
  | dropped

/-- Those who wait for acknowledgements. -/
structure Tracker (α : Type) where
  /-- Those whose requests have not been written out, oldest first. -/
  queued : List (AckKind × α)
  /-- Those whose requests have been written out, by kind and id, oldest first. -/
  inflight : Table (AckKind × Nat) (List α)
  /-- The one whose message is held back. -/
  held : Option (Nat × α)

namespace Tracker

variable {α : Type}

/-- Nobody waits. -/
def empty : Tracker α := ⟨[], Table.empty, none⟩

instance : Inhabited (Tracker α) := ⟨empty⟩

/-- The number of those who wait. -/
def outstanding (t : Tracker α) : Nat :=
  t.queued.length + (t.inflight.entries.flatMap Prod.snd).length
    + (if t.held.isSome then 1 else 0)

/-- Someone waits for a request that has just been made. -/
def enqueue (t : Tracker α) (kind : AckKind) (who : α) : Tracker α :=
  { t with queued := t.queued ++ [(kind, who)] }

/-- Lets go of the one who came last, because the request could not be made. -/
def cancelLast (t : Tracker α) : Tracker α × Option α :=
  ({ t with queued := t.queued.dropLast }, t.queued.getLast?.map Prod.snd)

/-- Takes the one who has waited longest, if for a request of this kind. -/
def popQueued (t : Tracker α) (kind : AckKind) : Tracker α × Option α :=
  match t.queued with
  | (k, who) :: rest => if k = kind then ({ t with queued := rest }, some who) else (t, none)
  | [] => (t, none)

/-- Those who wait under a kind and an id. -/
def waiting (t : Tracker α) (kind : AckKind) (id : Nat) : List α :=
  (t.inflight.get? (kind, id)).getD []

/-- Lets someone wait under a kind and an id. -/
def bind (t : Tracker α) (kind : AckKind) (id : Nat) (who : α) : Tracker α :=
  { t with inflight := t.inflight.insert (kind, id) (t.waiting kind id ++ [who]) }

/-- Settles the one who has waited longest under a kind and an id. -/
def resolve (t : Tracker α) (kind : AckKind) (id : Nat) (outcome : Except DeliveryFault Unit) :
    Tracker α × List (α × Resolution) :=
  match t.waiting kind id with
  | [] => (t, [])
  | [who] => ({ t with inflight := t.inflight.erase (kind, id) }, [(who, .settled outcome)])
  | who :: rest =>
    ({ t with inflight := t.inflight.insert (kind, id) rest }, [(who, .settled outcome)])

/-- Binds the one who has waited longest, if for a request of this kind. -/
def bindQueued (t : Tracker α) (kind : AckKind) (id : Nat) : Tracker α :=
  match t.popQueued kind with
  | (t, some who) => t.bind kind id who
  | (t, none) => t

/-- The one whose message is written out under an id: the one held back for this id, else the one
who has waited longest. -/
def takeWritten (t : Tracker α) (id : Nat) : Tracker α × Option α :=
  match t.held with
  | some (heldId, who) =>
    if heldId = id then ({ t with held := none }, some who) else t.popQueued .publish
  | none => t.popQueued .publish

/-- Takes note of a packet that is written out.  A message without acknowledgement is settled when
it is written out. -/
def sent (t : Tracker α) : Outgoing → Tracker α × List (α × Resolution)
  | .publish id =>
    match t.takeWritten id with
    | (t, none) => (t, [])
    | (t, some who) =>
      if id = 0 then (t, [(who, .settled (.ok ()))]) else (t.bind .publish id who, [])
  | .subscribe id => (t.bindQueued .subscribe id, [])
  | .unsubscribe id => (t.bindQueued .unsubscribe id, [])
  | .heldBack id =>
    match t.popQueued .publish with
    | (t, none) => (t, [])
    | (t, some who) =>
      ({ t with held := some (id, who) }, t.held.toList.map fun h => (h.2, .dropped))
  | .other => (t, [])

/-- The outcome that the codes of a subscription tell. -/
def granted (codes : List (Option Qos)) : Except DeliveryFault Unit :=
  if codes.all Option.isSome then .ok () else .error (.rejected "subscription refused")

/-- Takes note of a packet that has arrived. -/
def received (t : Tracker α) : Incoming → Tracker α × List (α × Resolution)
  | .pubAck id => t.resolve .publish id (.ok ())
  | .pubComp id => t.resolve .publish id (.ok ())
  | .subAck id codes => t.resolve .subscribe id (granted codes)
  | .unsubAck id => t.resolve .unsubscribe id (.ok ())
  | .other => (t, [])

/-- All who wait. -/
def everyone (t : Tracker α) : List α :=
  t.queued.map Prod.snd ++ t.inflight.entries.flatMap Prod.snd ++ t.held.toList.map Prod.snd

/-- Settles all who wait with a fault. -/
def failAll (t : Tracker α) (fault : DeliveryFault) : Tracker α × List (α × Resolution) :=
  (empty, t.everyone.map fun who => (who, .settled (.error fault)))

/-- Of those who are settled or dropped, the ones who still listen. -/
def heard [DecidableEq α] (gone : List α) (resolved : List (α × Resolution)) :
    List (α × Resolution) :=
  resolved.filter fun r => !gone.contains r.1

end Tracker

end VirtualNode.Mqtt
