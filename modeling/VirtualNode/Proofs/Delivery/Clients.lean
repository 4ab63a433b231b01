import VirtualNode.Mqtt.Client
import VirtualNode.Proofs.Delivery.Waiters
import VirtualNode.Proofs.Topics.Routing

/-!
# What becomes of a client

A client is a tracker of those who wait and a table of routes, and whatever happens to the client
comes to some events of the one (`Client.events`) and some changes of the other
(`Incident.reroutings`).  A `Dossier` keeps account of both.  It fits the client before anything has
happened and after every incident (`Dossier.Fits.step`), so what is known of trackers and of routes
is known of clients (`accounts_follow`).
-/

set_option autoImplicit false

namespace VirtualNode.Mqtt

variable {α η : Type} {c : Client α η} {i : Incident α η}

/-! ## Requests -/

/-- A request that is taken back as soon as it was made leaves no trace. -/
theorem Tracker.cancelLast_enqueue (t : Tracker α) (kind : AckKind) (who : α) :
    (t.enqueue kind who).cancelLast.1 = t := by
  simp [enqueue, cancelLast]

namespace Client

/-- A request is made just if the client takes it. -/
theorem request_eq_ok_iff (c : Client α η) (who : α) (r : Request η) :
    (c.request who r).2 = .ok () ↔ c.takes r = true := by
  unfold request
  split
  · simp [*]
  · simp [*]

/-- A request that is not taken leaves those who wait as they were. -/
theorem tracker_request_of_refused {who : α} {r : Request η} (refused : c.takes r = false) :
    (c.request who r).1.tracker = c.tracker := by
  rw [request, if_neg (by simp [refused])]
  exact c.tracker.cancelLast_enqueue r.kind who

/-- A subscription is asked for just if the client is open and the filter is well formed. -/
theorem takes_subscribe_iff {filter : String} {qos : Qos} {handler : η} :
    c.takes (.subscribe filter qos handler) = true ↔
      c.isOpen = true ∧ filter ≠ "" ∧ Topic.Valid filter := by
  rw [takes, Bool.and_eq_true]
  exact and_congr_right fun _ => Request.isFilter_iff

end Client

/-! ## What an incident comes to -/

/-- What an incident is to the tracker of a client. -/
def Client.events (c : Client α η) : Incident α η → List (Event α)
  | .request who r =>
    if c.takes r then [.enqueue r.kind who] else [.enqueue r.kind who, .cancelLast]
  | .sent packet => [.sent packet]
  | .received packet => [.received packet]
  | .lost | .closed => [.failAll .disconnected]
  | .concluded _ _ | .reconnected => []

namespace Incident

/-- What an incident is to the routes of a client. -/
def reroutings : Incident α η → List (Rerouting η)
  | .request _ (.subscribe filter _ handler) => [.set filter handler]
  | .request _ (.unsubscribe filter) => [.remove filter]
  | .concluded filter (.error (.rejected _)) => [.remove filter]
  | _ => []

/-- Who makes a request. -/
def requester? : Incident α η → Option α
  | .request who _ => some who
  | _ => none

/-- Whether the client has connected anew. -/
def isConnect : Incident α η → Bool
  | .reconnected => true
  | _ => false

end Incident

/-- The connection of a client takes no request while it holds a message back. -/
def Client.Admits (c : Client α η) : Incident α η → Prop
  | .sent (.heldBack _) => c.tracker.held = none
  | _ => True

/-! ## Dossiers -/

/-- A client with an account of what has happened to its tracker and to its routes. -/
structure Dossier (α η : Type) where
  client : Client α η
  register : Register α
  changes : List (Rerouting η)
  /-- Who was told what by the client. -/
  told : List (α × Resolution)

namespace Dossier

/-- The dossier of a client that has just connected. -/
def opened (connection : Connection) : Dossier α η := ⟨.opened connection, .empty, [], []⟩

/-- Something happens to the client. -/
def step (d : Dossier α η) (i : Incident α η) : Dossier α η where
  client := (d.client.meet i).1
  register := d.register.follow (d.client.events i)
  changes := d.changes ++ i.reroutings
  told := d.told ++ (d.client.meet i).2

/-- Things happen to the client one after the other. -/
def follow (d : Dossier α η) (incidents : List (Incident α η)) : Dossier α η :=
  incidents.foldl step d

/-- Whether the connection of the client can come upon the incidents one after the other. -/
def Orderly (d : Dossier α η) : List (Incident α η) → Prop
  | [] => True
  | i :: later => d.client.Admits i ∧ (d.step i).Orderly later

/-- The account of a dossier is right. -/
structure Fits (d : Dossier α η) : Prop where
  tracker : d.register.tracker = d.client.tracker
  told : d.register.resolved = d.told
  routes : Reflects d.changes d.client.routes
  sound : d.register.Sound

variable {d : Dossier α η}

/-- The account of a client that has just connected is right. -/
theorem fits_opened (connection : Connection) : (opened connection : Dossier α η).Fits :=
  ⟨rfl, rfl, reflects_empty, Register.sound_empty⟩

/-- The tracker does what it does with the events of the incident. -/
theorem Fits.tracker_step (fits : d.Fits) (i : Incident α η) :
    (d.step i).register.tracker = (d.step i).client.tracker ∧
      (d.step i).register.resolved = (d.step i).told := by
  obtain ⟨tracker, told, -, -⟩ := fits
  unfold step
  dsimp only
  rw [← told]
  cases i with
  | request who r =>
    -- a request that is not taken leaves the tracker alone, and is one that the register drops
    cases taken : d.client.takes r <;>
      simp [Client.events, Client.meet, Client.request, taken, Register.follow, Register.step,
        tracker]
  | sent packet =>
    simp [Client.events, Client.meet, Client.sent, Register.follow, Register.step, Register.note,
      tracker]
  | received packet =>
    simp [Client.events, Client.meet, Client.received, Register.follow, Register.step,
      Register.note, tracker]
  | concluded filter outcome =>
    refine ⟨tracker.trans ?_, (List.append_nil _).symm⟩
    dsimp only [Client.meet, Client.concludeSubscribe]
    split
    · rfl
    · rfl
  | lost =>
    simp [Client.events, Client.meet, Client.lose, Register.follow, Register.step, Register.note,
      tracker]
  | reconnected => exact ⟨tracker, (List.append_nil _).symm⟩
  | closed =>
    simp [Client.events, Client.meet, Client.close, Client.lose, Register.follow, Register.step,
      Register.note, tracker]

/-- The routes are changed by the changes of the incident. -/
theorem Fits.routes_step (fits : d.Fits) (i : Incident α η) :
    Reflects (d.step i).changes (d.step i).client.routes := by
  have kept : Reflects (d.changes ++ []) d.client.routes := by
    rw [List.append_nil]
    exact fits.routes
  unfold step
  dsimp only
  cases i with
  | request who r =>
    have routes : (d.client.request who r).1.routes = (d.client.adjustRoutes r).routes := by
      unfold Client.request
      split
      · rfl
      · rfl
    rw [Client.meet, routes]
    cases r with
    | publish topic qos retained payload => exact kept
    | subscribe filter qos handler => exact fits.routes.set filter handler
    | unsubscribe filter => exact fits.routes.remove filter
  | concluded filter outcome =>
    cases outcome with
    | ok _ => exact kept
    | error fault =>
      cases fault with
      | rejected reason => exact fits.routes.remove filter
      | _ => exact kept
  | _ => exact kept

/-- What the connection may come upon, the tracker may come upon. -/
theorem Fits.orderly (fits : d.Fits) (admits : d.client.Admits i) :
    d.register.Orderly (d.client.events i) := by
  cases i with
  | request who r =>
    dsimp only [Client.events]
    split
    · exact ⟨trivial, trivial⟩
    · exact ⟨trivial, trivial, trivial⟩
  | sent packet =>
    refine ⟨?_, trivial⟩
    cases packet with
    | heldBack id => exact (congrArg Tracker.held fits.tracker).trans admits
    | _ => trivial
  | concluded filter outcome => trivial
  | reconnected => trivial
  | _ => exact ⟨trivial, trivial⟩

/-- The account stays right, whatever happens. -/
theorem Fits.step (fits : d.Fits) (admits : d.client.Admits i) : (d.step i).Fits where
  tracker := (fits.tracker_step i).1
  told := (fits.tracker_step i).2
  routes := fits.routes_step i
  sound := fits.sound.follow (fits.orderly admits)

/-- The account is right after whatever has happened. -/
theorem Fits.follow {incidents : List (Incident α η)} (fits : d.Fits)
    (orderly : d.Orderly incidents) : (d.follow incidents).Fits := by
  induction incidents generalizing d with
  | nil => exact fits
  | cons i later ih => exact ih (fits.step orderly.1) orderly.2

/-- Who makes a request is in the register. -/
theorem enqueued_step (d : Dossier α η) (i : Incident α η) :
    (d.step i).register.enqueued = d.register.enqueued ++ i.requester?.toList := by
  unfold step
  dsimp only
  cases i with
  | request who r =>
    dsimp only [Client.events]
    split
    · rfl
    · rfl
  | _ => exact (List.append_nil _).symm

/-- In the register are those who have made requests. -/
theorem enqueued_follow (d : Dossier α η) (incidents : List (Incident α η)) :
    (d.follow incidents).register.enqueued =
      d.register.enqueued ++ incidents.filterMap Incident.requester? := by
  induction incidents generalizing d with
  | nil => exact (List.append_nil _).symm
  | cons i later ih =>
    refine (ih (d.step i)).trans ?_
    rw [enqueued_step, List.append_assoc, List.filterMap_cons]
    cases i.requester? <;> rfl

/-- Sessions are counted by connects. -/
theorem sessions_step (d : Dossier α η) (i : Incident α η) :
    (d.step i).client.sessions = d.client.sessions + [i].countP Incident.isConnect := by
  unfold step
  dsimp only
  cases i with
  | request who r =>
    cases taken : d.client.takes r <;> cases r <;>
      simp [Client.meet, Client.request, Client.adjustRoutes, taken, Incident.isConnect]
  | concluded filter outcome =>
    dsimp only [Client.meet, Client.concludeSubscribe]
    split
    · rfl
    · rfl
  | _ => rfl

/-- A client counts how often it has connected. -/
theorem sessions_follow (d : Dossier α η) (incidents : List (Incident α η)) :
    (d.follow incidents).client.sessions =
      d.client.sessions + incidents.countP Incident.isConnect := by
  induction incidents generalizing d with
  | nil => rfl
  | cons i later ih =>
    refine (ih (d.step i)).trans ?_
    rw [sessions_step, Nat.add_assoc, ← List.countP_append, List.singleton_append]

/-- Whatever happens to a client: everybody who has made a request is accounted for, and has been
told what the tracker has told; every message goes to the handler that was given last to the eldest
filter that matches; and the sessions are counted. -/
theorem accounts_follow {connection : Connection} {incidents : List (Incident α η)}
    (orderly : (opened connection).Orderly incidents)
    (distinct : (incidents.filterMap Incident.requester?).Nodup) :
    let d := (opened connection).follow incidents
    (d.register.tracker = d.client.tracker ∧ d.register.resolved = d.told ∧
      d.register.enqueued = incidents.filterMap Incident.requester? ∧ d.register.Conserved) ∧
    (∀ fallback topic handler, d.client.dispatch fallback topic = handler ↔
      (∃ filter, Eldest d.changes topic filter ∧ latest? filter d.changes = some handler) ∨
        (NoneMatches d.changes topic ∧ fallback = handler)) ∧
    d.client.sessions = 1 + incidents.countP Incident.isConnect := by
  intro d
  have fits : d.Fits := (fits_opened connection).follow orderly
  have enqueued : d.register.enqueued = incidents.filterMap Incident.requester? :=
    enqueued_follow _ _
  rw [← enqueued] at distinct
  refine ⟨⟨fits.tracker, fits.told, enqueued, fits.sound.conserved distinct⟩, ?_,
    sessions_follow _ _⟩
  intro fallback topic handler
  exact fits.routes.dispatch_eq_iff

end Dossier

end VirtualNode.Mqtt
