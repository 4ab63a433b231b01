import VirtualNode.Kube.Cluster

/-!
# Requests that are cut short

What a server does with a request and what is heard of it are two things: a request may be carried
out and the reply come too late, or not at all.  `attempt` makes an exchange that has to be over at a
deadline, given the fate of each of its requests, and keeps account of the requests that were
sent.  A statement about all lists of fates is one about all behaviours of the server.

A node is registered in three stages: it is looked up, it is created or replaced, and its status is
written.  A request of a later stage is sent only if the one before was answered as it should be
(`along_registerNode`).  So a registration that fails may have stored the node all the same, and
`stored_iff` says when.
-/

set_option autoImplicit false

namespace VirtualNode.Kube.Cluster

open Rest

/-! ## Attempts -/

/-- What becomes of a request. -/
structure Fate where
  /-- Whether the server carries the request out. -/
  carriedOut : Bool
  /-- The reply, if it comes before the deadline. -/
  reply : Option Reply

/-- A request that was sent. -/
structure Dispatch extends Fate where
  request : Request

/-- What comes of an exchange that has to be over at a deadline. -/
structure Attempt (α : Type) where
  /-- The result, unless the deadline comes first. -/
  result : Option α
  /-- The requests that were sent, in their order. -/
  sent : List Dispatch

/-- Makes an exchange with a deadline.  If there are no fates left, the deadline comes before the next
request is sent. -/
def attempt {α : Type} : Exchange α → List Fate → Attempt α
  | .done a, _ => ⟨some a, []⟩
  | .read next, fates => attempt (next ()) fates
  | .write _ next, fates => attempt next fates
  | .ask _ _, [] => ⟨none, []⟩
  | .ask request next, fate :: fates =>
    match fate.reply with
    | none => ⟨none, [⟨fate, request⟩]⟩
    | some reply =>
      let rest := attempt (next reply) fates
      ⟨rest.result, ⟨fate, request⟩ :: rest.sent⟩

/-- Whether an attempt has come to a result, and that is not a fault. -/
def Attempt.works {ε α : Type} (a : Attempt (Except ε α)) : Bool :=
  match a.result with
  | some (.ok _) => true
  | _ => false

/-- An attempt that does not work has no result that is fine. -/
theorem Attempt.result_ne_ok {ε α : Type} {a : Attempt (Except ε α)} (failed : a.works = false)
    (value : α) : a.result ≠ some (.ok value) := by
  intro works
  simp [Attempt.works, works] at failed

section Bind

variable {α β : Type}

/-- An attempt at a sequence is one at its first part, and if that is over in time one at the second
part. -/
theorem attempt_bind (d : Exchange α) (f : α → Exchange β) (fates : List Fate) :
    attempt (d.bind f) fates =
      match attempt d fates with
      | ⟨none, sent⟩ => ⟨none, sent⟩
      | ⟨some a, sent⟩ =>
        let rest := attempt (f a) (fates.drop sent.length)
        ⟨rest.result, sent ++ rest.sent⟩ := by
  induction d generalizing fates with
  | done a => rfl
  | read next ih => exact ih () fates
  | write s next ih => exact ih fates
  | ask request next ih =>
    cases fates with
    | nil => rfl
    | cons fate fates =>
      simp only [Dialogue.bind_ask, attempt]
      cases fate.reply with
      | none => rfl
      | some reply =>
        simp only [ih reply fates]
        rcases attempt (next reply) fates with ⟨_ | a, sent⟩ <;> rfl

/-- Reading a result sends nothing. -/
theorem attempt_bind_done (d : Exchange α) (g : α → β) (fates : List Fate) :
    attempt (d.bind fun a => .done (g a)) fates =
      ⟨(attempt d fates).result.map g, (attempt d fates).sent⟩ := by
  rw [attempt_bind]
  rcases attempt d fates with ⟨_ | a, sent⟩
  · rfl
  · simp [attempt]

end Bind

/-! ## Stages -/

/-- A stage of an exchange: a request, and a reply with which the exchange goes on. -/
structure Step where
  verbs : List Verb
  suits : Reply → Bool

/-- Whether a request was answered as the stage wants it. -/
def Dispatch.meets (d : Dispatch) (step : Step) : Bool := d.reply.any step.suits

/-- The requests are those of the steps in their order, each sent only if the one before was answered
as it should be.  It has worked if the last one was, too. -/
def Along : List Step → List Dispatch → Bool → Prop
  | [], sent, works => sent = [] ∧ works = true
  | step :: steps, sent, works => (sent = [] ∧ works = false) ∨
      ∃ d rest, sent = d :: rest ∧ d.request.verb ∈ step.verbs ∧
        if d.meets step then Along steps rest works else rest = [] ∧ works = false

namespace Along

variable {steps steps' : List Step} {sent sent' : List Dispatch} {works : Bool}

/-- Where an exchange fails no further steps are taken. -/
theorem failed (along : Along steps sent false) (steps' : List Step) :
    Along (steps ++ steps') sent false := by
  induction steps generalizing sent with
  | nil => cases along.2
  | cons step steps ih =>
    rcases along with unsent | ⟨d, rest, rfl, verb, going⟩
    · exact .inl unsent
    · refine .inr ⟨d, rest, rfl, verb, ?_⟩
      split at going
      · rename_i meets
        rw [if_pos meets]
        exact ih going
      · rename_i fails
        rwa [if_neg fails]

/-- Stages may follow when all those before were answered as they should be. -/
theorem append (along : Along steps sent true) (later : Along steps' sent' works) :
    Along (steps ++ steps') (sent ++ sent') works := by
  induction steps generalizing sent with
  | nil =>
    obtain ⟨rfl, -⟩ := along
    exact later
  | cons step steps ih =>
    rcases along with ⟨-, failed⟩ | ⟨d, rest, rfl, verb, going⟩
    · cases failed
    · refine .inr ⟨d, rest ++ sent', rfl, verb, ?_⟩
      split at going
      · rename_i meets
        rw [if_pos meets]
        exact ih going
      · cases going.2

variable {ε ε' α β : Type} {d : Exchange (Except ε α)} {f : Except ε α → Exchange (Except ε' β)}

/-- An exchange that ends with a fault if its first part does takes the steps of both parts. -/
theorem bind (first : ∀ fates, Along steps (attempt d fates).sent (attempt d fates).works)
    (stops : ∀ e, ∃ e', f (.error e) = .done (.error e'))
    (second : ∀ a fates, Along steps' (attempt (f (.ok a)) fates).sent
      (attempt (f (.ok a)) fates).works) (fates : List Fate) :
    Along (steps ++ steps') (attempt (d.bind f) fates).sent (attempt (d.bind f) fates).works := by
  have along := first fates
  rw [attempt_bind]
  rcases attempted : attempt d fates with ⟨_ | _ | a, sent⟩ <;> rw [attempted] at along
  · exact along.failed steps'
  · rename_i e
    obtain ⟨e', stop⟩ := stops e
    simp only [stop, attempt, List.append_nil]
    exact along.failed steps'
  · exact along.append (second a _)

end Along

/-! ## Single requests -/

section Single

variable {ε α β : Type} {verb : Verb} {f : String → Option α} {d : Exchange (Except RestError α)}

/-- The exchange is one request, unless it cannot be sent. -/
def IsRequest (verb : Verb) (f : String → Option α) (d : Exchange (Except RestError α)) : Prop :=
  ∀ fates, ((attempt d fates).sent = [] ∧
      ((attempt d fates).result = none ∨ (attempt d fates).result = some (.error .unusable))) ∨
    ∃ only, (attempt d fates).sent = [only] ∧ only.request.verb = verb ∧
      (attempt d fates).result = only.reply.map (·.read f)

/-- To send a request and read the reply is one request. -/
theorem isRequest_send (url : String) (body : Option Json.Value) :
    IsRequest verb f (send verb url body f) := by
  intro fates
  unfold send
  split
  · exact .inl ⟨rfl, .inr rfl⟩
  · rename_i uri _
    cases fates with
    | nil => exact .inl ⟨rfl, .inl rfl⟩
    | cons fate fates =>
      refine .inr ⟨⟨fate, ⟨verb, uri.target, body⟩⟩, ?_⟩
      cases replied : fate.reply <;> simp [attempt, replied]

/-- To send a request about a named object is one request, unless the name is empty. -/
theorem isRequest_sendNamed (name url : String) (body : Option Json.Value) :
    IsRequest verb f (sendNamed verb name url body f) := by
  unfold sendNamed
  split
  · exact fun _ => .inl ⟨rfl, .inr rfl⟩
  · exact isRequest_send url body

/-- One request is one step. -/
theorem IsRequest.along (single : IsRequest verb f d) (step : Step)
    (g : Except RestError α → Except ε β) {e : ε} (verbs : verb ∈ step.verbs)
    (suits : ∀ reply, step.suits reply = (g (reply.read f)).isOk)
    (unusable : g (.error .unusable) = .error e) (fates : List Fate) :
    Along [step] (attempt (d.bind fun outcome => .done (g outcome)) fates).sent
      (attempt (d.bind fun outcome => .done (g outcome)) fates).works := by
  rw [attempt_bind_done]
  rcases single fates with ⟨sent, nothing | unsendable⟩ | ⟨only, sent, rfl, result⟩
  · exact .inl ⟨sent, by simp [Attempt.works, nothing]⟩
  · exact .inl ⟨sent, by simp [Attempt.works, unsendable, unusable]⟩
  · refine .inr ⟨only, [], sent, verbs, ?_⟩
    rw [result]
    cases replied : only.reply with
    | none => simp [Dispatch.meets, Attempt.works, replied]
    | some reply =>
      have suits := suits reply
      cases outcome : g (reply.read f) with
      | ok b =>
        have meets : only.meets step = true := by simp [Dispatch.meets, replied, suits, outcome]; rfl
        simp [Attempt.works, Along, meets, outcome]
      | error e =>
        have fails : only.meets step = false := by simp [Dispatch.meets, replied, suits, outcome]; rfl
        simp [Attempt.works, fails, outcome]

end Single

/-! ## Registration -/

/-- The reply tells whether there is a node: it shows the node, or says that there is none. -/
def tellsOfNode (reply : Reply) : Bool :=
  match reply.read Node.read? with
  | .ok _ => true
  | .error (.refused refusal) => refusal.reason = "NotFound"
  | .error _ => false

/-- The reply shows the node that was written. -/
def showsNode (reply : Reply) : Bool := (reply.read Node.read?).isOk

/-- It is looked up whether there is a node of the name. -/
def lookUp : Step := ⟨[.get], tellsOfNode⟩

/-- The node is created or replaced. -/
def store : Step := ⟨[.post, .put], showsNode⟩

/-- The status of the node is written. -/
def writeStatus : Step := ⟨[.patch], showsNode⟩

/-- What the outcome of a look-up tells. -/
def found : Except RestError Node → Except RestError (Option Node)
  | .ok node => .ok (some node)
  | .error (.refused refusal) =>
    if refusal.reason = "NotFound" then .ok none else .error (.refused refusal)
  | .error e => .error e

/-- To find a node is to ask for it, and to take its absence for an answer. -/
theorem findNode_eq (name : String) : findNode name =
    (sendNamed .get name (objectUrl nodesUrl name) none Node.read?).bind fun outcome =>
      .done (found outcome) := by
  refine congrArg (Dialogue.bind _) (funext fun outcome => ?_)
  rcases outcome with (_ | refusal | _) | node <;> rfl

/-- A reply tells of the node just if it is read without a fault. -/
theorem isOk_found (reply : Reply) :
    tellsOfNode reply = (found (reply.read Node.read?)).isOk := by
  unfold tellsOfNode
  rcases reply.read Node.read? with (_ | refusal | _) | node
  · rfl
  · by_cases absent : refusal.reason = "NotFound" <;> simp [found, absent, Except.isOk, Except.toBool]
  · rfl
  · rfl

/-- To find a node is the stage of looking it up. -/
theorem along_findNode (name : String) (fates : List Fate) :
    Along [lookUp] (attempt (findNode name) fates).sent (attempt (findNode name) fates).works := by
  rw [findNode_eq]
  refine (isRequest_sendNamed name _ none).along lookUp found ?_ isOk_found rfl fates
  exact List.mem_singleton_self _

/-- To store a node is one request, to create it or to replace it. -/
theorem isRequest_storeNode (node : Node) (name : String) (existing : Option Node) :
    ∃ verb ∈ store.verbs, IsRequest verb Node.read? (storeNode node name existing) := by
  unfold storeNode
  cases existing with
  | some old => exact ⟨.put, by decide, isRequest_sendNamed name _ _⟩
  | none => exact ⟨.post, by decide, isRequest_send _ _⟩

/-- To store a node is the stage of storing. -/
theorem along_storeNode (node : Node) (name : String) (existing : Option Node) (fates : List Fate) :
    Along [store] (attempt (storeNode node name existing) fates).sent
      (attempt (storeNode node name existing) fates).works := by
  obtain ⟨verb, verbs, single⟩ := isRequest_storeNode node name existing
  rw [← Dialogue.bind_pure (storeNode node name existing)]
  exact single.along store id verbs (fun _ => rfl) rfl fates

/-- To write the status of a node is the stage of that. -/
theorem along_updateNodeStatus (node : Node) (fates : List Fate) :
    Along [writeStatus] (attempt (updateNodeStatus node) fates).sent
      (attempt (updateNodeStatus node) fates).works := by
  unfold updateNodeStatus
  cases node.name with
  | none => exact .inl ⟨rfl, rfl⟩
  | some name =>
    refine (isRequest_sendNamed name _ _).along writeStatus
      (fun outcome => orFault (outcome.map fun _ => ())) (List.mem_singleton_self _) ?_ rfl fates
    intro reply
    unfold writeStatus showsNode
    dsimp only
    cases reply.read Node.read? <;> rfl

/-- A node is looked up, stored, and then its status is written, as far as all goes well. -/
theorem along_registerNode (node : Node) (fates : List Fate) :
    Along [lookUp, store, writeStatus] (attempt (registerNode node) fates).sent
      (attempt (registerNode node) fates).works := by
  unfold registerNode
  cases node.name with
  | none => exact .inl ⟨rfl, rfl⟩
  | some name =>
    show Along ([lookUp] ++ ([store] ++ [writeStatus])) _ _
    refine Along.bind (along_findNode name) ?_ ?_ fates
    · exact fun _ => ⟨_, rfl⟩
    · intro existing fates
      refine Along.bind (along_storeNode node name existing) ?_ ?_ fates
      · exact fun _ => ⟨_, rfl⟩
      · exact fun _ fates => along_updateNodeStatus node fates

/-- The server has carried out a request that creates or replaces the node. -/
def Stored (sent : List Dispatch) : Prop :=
  ∃ d ∈ sent, d.request.verb ∈ store.verbs ∧ d.carriedOut = true

section Stored

variable {d : Dispatch} {sent : List Dispatch}

/-- Without a request nothing is stored. -/
@[simp] theorem not_stored_nil : ¬ Stored [] := by simp [Stored]

/-- Something is stored by the first request or by a later one. -/
theorem stored_cons_iff : Stored (d :: sent) ↔
    (d.request.verb ∈ store.verbs ∧ d.carriedOut = true) ∨ Stored sent := by
  simp [Stored]

/-- Neither a look-up nor the writing of a status stores the node. -/
theorem not_stores {verb : Verb} (other : verb ∈ lookUp.verbs ∨ verb ∈ writeStatus.verbs) :
    verb ∉ store.verbs := by
  revert other
  cases verb <;> decide

/-- If the status could not be written, no request was sent for it, or its request was not answered
as it should be. -/
theorem Along.unwritten (along : Along [writeStatus] sent false) : ¬ Stored sent ∧
    (sent = [] ∨ ∃ d, sent = [d] ∧ d.meets writeStatus = false) := by
  rcases along with ⟨rfl, -⟩ | ⟨d, rest, rfl, writes, going⟩
  · exact ⟨not_stored_nil, .inl rfl⟩
  · split at going
    · cases going.2
    · rename_i fails
      obtain ⟨rfl, -⟩ := going
      refine ⟨?_, .inr ⟨d, rfl, by simpa using fails⟩⟩
      simp [stored_cons_iff, not_stores (.inr writes)]

/-- A registration that fails has stored the node exactly if the look-up was answered as it should be
and the request after it was carried out.  Then that request was the last one, or the status could
not be written. -/
theorem stored_iff {node : Node} {fates : List Fate}
    (failed : (attempt (registerNode node) fates).works = false) :
    Stored (attempt (registerNode node) fates).sent ↔
      ∃ first second rest, (attempt (registerNode node) fates).sent = first :: second :: rest ∧
        first.meets lookUp = true ∧ second.carriedOut = true ∧
        (rest = [] ∨ ∃ third, rest = [third] ∧ third.meets writeStatus = false) := by
  have along := along_registerNode node fates
  rw [failed] at along
  generalize (attempt (registerNode node) fates).sent = sent at along
  rcases along with ⟨rfl, -⟩ | ⟨first, later, rfl, looks, going⟩
  · simp
  have idle : first.request.verb ∉ store.verbs := not_stores (.inl looks)
  split at going
  · rename_i looked_up
    rcases going with ⟨rfl, -⟩ | ⟨second, rest, rfl, stores, going⟩
    · simp [stored_cons_iff, idle]
    obtain ⟨unstored, ending⟩ : ¬ Stored rest ∧
        (rest = [] ∨ ∃ third, rest = [third] ∧ third.meets writeStatus = false) := by
      split at going
      · exact going.unwritten
      · obtain ⟨rfl, -⟩ := going
        exact ⟨not_stored_nil, .inl rfl⟩
    -- what is stored is stored by the second request, which is the only one that can
    have by_second : Stored (first :: second :: rest) ↔ second.carriedOut = true := by
      simp [stored_cons_iff, idle, stores, unstored]
    rw [by_second]
    constructor
    · intro carried
      exact ⟨first, second, rest, rfl, looked_up, carried, ending⟩
    · rintro ⟨_, _, _, same, -, carried, -⟩
      cases same
      exact carried
  · obtain ⟨rfl, -⟩ := going
    simp [stored_cons_iff, idle]

end Stored

end VirtualNode.Kube.Cluster
