import VirtualNode.Proofs.Interleaving.Turns
import VirtualNode.Proofs.Rounds

/-!
# Chronicles of a running controller

`System.react` says what a controller does when something happens.  A chronicle keeps account of it:
the calls that were answered, each with its answer and with the desk at the time of the call, and
what the transport came upon when it last connected anew.  The environment is silent, so an answer
comes by a happening of its own or not at all, and anything may happen between a call and its
answer.

A statement about `Chronicle.follow happenings (.fresh settings origin)` for all `happenings` is a
statement about every moment of every run.
-/

set_option autoImplicit false

namespace VirtualNode.Controller

/-- What a new connect of the transport came upon. -/
structure Connect where
  /-- The calls that were open. -/
  calls : Strand → Option Call
  desk : Desk

/-- What a controller knows, what it was told, and what the last connect came upon. -/
structure Affairs where
  desk : Desk
  /-- The calls that were answered, the oldest answer first. -/
  record : List Moment
  /-- What the transport came upon when it last connected anew. -/
  lastConnect : Connect

namespace Affairs

/-- The affairs with another desk. -/
def withDesk (i : Affairs) (d : Desk) : Affairs := { i with desk := d }

/-- The affairs after a call was answered. -/
def note (i : Affairs) (moment : Moment) : Affairs :=
  { i with record := i.record ++ [moment] }

/-- The affairs after the transport has connected anew, while some calls were open. -/
def connected (i : Affairs) (calls : Strand → Option Call) : Affairs where
  desk := { i.desk with sessions := i.desk.sessions + 1 }
  record := i.record
  lastConnect := ⟨calls, i.desk⟩

/-- The desk is the one that was put in place. -/
@[simp] theorem desk_withDesk (i : Affairs) (d : Desk) : (i.withDesk d).desk = d := rfl

/-- Another desk leaves the record as it was. -/
@[simp] theorem record_withDesk (i : Affairs) (d : Desk) : (i.withDesk d).record = i.record := rfl

/-- A connect leaves the record as it was. -/
@[simp] theorem record_connected (i : Affairs) (calls : Strand → Option Call) :
    (i.connected calls).record = i.record := rfl

/-- What is noted comes last in the record. -/
@[simp] theorem record_note (i : Affairs) (moment : Moment) :
    (i.note moment).record = i.record ++ [moment] := rfl

end Affairs

/-- A system with an account of its calls. -/
structure Chronicle where
  system : System
  /-- The calls that were answered, the oldest answer first. -/
  record : List Moment
  /-- What the transport came upon when it last connected anew. -/
  lastConnect : Connect
  /-- The desks at the times of the open calls. -/
  asked : Strand → Desk

namespace Chronicle

/-- The chronicle of a controller that has not been started. -/
def fresh (settings : Settings) (origin : Time.Stamp) : Chronicle :=
  ⟨.fresh settings origin, [], ⟨fun _ => none, .fresh settings origin⟩,
    fun _ => .fresh settings origin⟩

/-- What the statements about a chronicle are about. -/
def affairs (c : Chronicle) : Affairs := ⟨c.system.desk, c.record, c.lastConnect⟩

/-- The call that is answered by a happening. -/
def answered? (c : Chronicle) : Happening → Option Moment
  | .stimulus (.answer strand reply) =>
    (c.system.openCall? strand).map fun call => ⟨⟨call, reply call⟩, c.asked strand⟩
  | _ => none

/-- The chronicle after something has happened. -/
def step (c : Chronicle) (h : Happening) : Chronicle where
  system := c.system.meet h
  record := match c.answered? h with
    | some moment => c.record ++ [moment]
    | none => c.record
  lastConnect := match h with
    | .stimulus .connect => ⟨c.system.openCall?, c.system.desk⟩
    | _ => c.lastConnect
  asked strand :=
    if h.answered? = some strand ∨ c.system.openCall? strand = none then (c.system.meet h).desk
    else c.asked strand

/-- The chronicle after some things have happened. -/
def follow (c : Chronicle) (happenings : List Happening) : Chronicle :=
  happenings.foldl step c

variable {c : Chronicle} {h : Happening}

/-- What happens later is added to what has happened. -/
theorem follow_append (c : Chronicle) (early late : List Happening) :
    c.follow (early ++ late) = (c.follow early).follow late :=
  List.foldl_append

/-- A happening takes nothing off the record. -/
theorem record_prefix_step (c : Chronicle) (h : Happening) : c.record <+: (c.step h).record := by
  unfold step
  dsimp only
  split
  · exact List.prefix_append _ _
  · exact List.prefix_rfl

/-- What was answered stays on record. -/
theorem record_prefix_follow (c : Chronicle) (happenings : List Happening) :
    c.record <+: (c.follow happenings).record := by
  induction happenings generalizing c with
  | nil => exact List.prefix_rfl
  | cons h later ih => exact (c.record_prefix_step h).trans (ih (c.step h))

/-! ## Answers and questions -/

/-- An answer to an open call goes on record, with the desk at the time of the call. -/
theorem answered?_of_open {strand : Strand} {call : Call} (reply : Reply)
    (waits : c.system.openCall? strand = some call) :
    c.answered? (.stimulus (.answer strand reply)) =
      some ⟨⟨call, reply call⟩, c.asked strand⟩ := by
  simp [answered?, waits]

/-- What answers nobody adds nothing to the record. -/
theorem answered?_of_silent (silent : h.answered? = none) : c.answered? h = none := by
  cases h with
  | start => rfl
  | stimulus stimulus =>
    cases stimulus with
    | answer strand reply => cases silent
    | _ => rfl

/-- Nothing is answered if whoever is answered waits for nothing. -/
theorem answered?_of_closed
    (closed : ∀ strand, h.answered? = some strand → c.system.openCall? strand = none) :
    c.answered? h = none := by
  cases h with
  | start => rfl
  | stimulus stimulus =>
    cases stimulus with
    | answer strand reply => simp [answered?, closed strand rfl]
    | _ => rfl

/-- What brings nothing from outside leaves the last connect what it was. -/
theorem affairs_step_of_inner (inner : h.isOutside = false) : (c.step h).affairs =
    ⟨(c.system.meet h).desk, (c.step h).record, c.lastConnect⟩ := by
  cases h with
  | start => rfl
  | stimulus stimulus =>
    cases stimulus with
    | connect => cases inner
    | _ => rfl

/-- A strand that waits, and is not answered, still waits with the same question. -/
theorem asked_step_of_waits {strand : Strand} (waits : c.system.openCall? strand ≠ none)
    (unanswered : h.answered? ≠ some strand) : (c.step h).asked strand = c.asked strand := by
  simp [step, unanswered, waits]

/-- A strand that was answered, or waited for nothing, may ask on the desk as it is now. -/
theorem asked_step_of_free {strand : Strand}
    (free : h.answered? = some strand ∨ c.system.openCall? strand = none) :
    (c.step h).asked strand = (c.step h).system.desk :=
  if_pos free

end Chronicle

/-! ## Rehearsed answers -/

/-- Answers of a broker and of a cluster to which nothing works. -/
def refusing : Reply
  | .probe _ | .command _ _ _ | .subscribe _ => .error .disconnected
  | .unsubscribe _ => none
  | .turn | .noting | .disconnect => ()
  | .listPods => none
  | .register _ | .reportNode _ | .reportPod _ _ _ | .deletePod _ _ | .deleteNode => none

/-- A strand gets the answer that its call has worked. -/
def granted (strand : Strand) : Happening :=
  .stimulus (.answer strand (prepared [] fun _ => true))

/-- A strand gets the answer that its call has failed. -/
def refused (strand : Strand) : Happening := .stimulus (.answer strand refusing)

end VirtualNode.Controller
