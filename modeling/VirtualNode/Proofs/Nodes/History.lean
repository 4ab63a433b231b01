import VirtualNode.Kube.NodeOfBase
import Mathlib.Data.List.Basic

/-!
# The history of a node

The controller changes a node in three ways: it builds it, it marks it as ready and it marks it as
not ready.  What the node tells afterwards is a matter of the marks since it was built last.  The
last of them says whether the node is ready, and the last that changed readiness gave the condition
its time of transition; where none did, that time is the one of the first mark.

Main definitions: `NodeStep` is one change, `recentMarks` reads the marks since the last building
off a list of changes, and `changing` picks the marks that change readiness.  Main statements:
`Node.Tells.mark` is what one mark adds to what a node tells, `Node.Tells.follow` carries it along
a list of changes, and `Node.history_of_changes` says for every list of changes that begins with a
building what the node tells and what it keeps of the node it was made from.
-/

set_option autoImplicit false

namespace VirtualNode.Kube

/-! ## Changes -/

/-- A change of a node. -/
inductive NodeStep where
  | build (info : BaseInfo)
  | markReady (now : Time.Stamp)
  | markNotReady (message : String) (now : Time.Stamp)
  deriving DecidableEq, Repr

/-- The readiness that a mark sets, with the time of the mark. -/
structure Mark where
  ready : Bool
  time : Time.Stamp
  deriving DecidableEq, Repr

namespace NodeStep

/-- The node after a change. -/
def apply (n : Node) : NodeStep → Node
  | build info => n.build info
  | markReady now => (n.markReady now).1
  | markNotReady message now => (n.markNotReady message now).1

/-- The mark that a change sets; a building sets none. -/
def mark? : NodeStep → Option Mark
  | build _ => none
  | markReady now => some ⟨true, now⟩
  | markNotReady _ now => some ⟨false, now⟩

end NodeStep

/-- The node after some changes. -/
def Node.follow (n : Node) (steps : List NodeStep) : Node := steps.foldl NodeStep.apply n

/-! ## Marks -/

/-- The marks since the last building, when `marks` were set before the changes. -/
def marksAfter (marks : List Mark) : List NodeStep → List Mark
  | [] => marks
  | step :: steps =>
    match step.mark? with
    | some m => marksAfter (marks ++ [m]) steps
    | none => marksAfter [] steps

/-- The marks since the last building. -/
def recentMarks (steps : List NodeStep) : List Mark := marksAfter [] steps

/-- The readiness that some marks leave, where it was `was` before them. -/
def readinessAfter (was : Bool) (marks : List Mark) : Bool :=
  (marks.getLast?.map Mark.ready).getD was

/-- The marks that change readiness, where it was `was` before them. -/
def changing (was : Bool) : List Mark → List Mark
  | [] => []
  | m :: ms => if m.ready = was then changing m.ready ms else m :: changing m.ready ms

/-- The time of transition after some marks on a node that was not ready: that of the last mark
which changed readiness, or that of the first mark where none did. -/
def transitionTime (marks : List Mark) : Option Time.Stamp :=
  ((changing false marks).getLast?.or marks.head?).map Mark.time

/-- The time of the last mark. -/
def heartbeatTime (marks : List Mark) : Option Time.Stamp := marks.getLast?.map Mark.time

/-- The first mark counts as the readiness before the later ones. -/
theorem readinessAfter_cons (was : Bool) (m : Mark) (ms : List Mark) :
    readinessAfter was (m :: ms) = readinessAfter m.ready ms := by
  rw [readinessAfter, readinessAfter, List.getLast?_cons]
  cases ms.getLast? <;> rfl

/-- The last mark says what the readiness is. -/
@[simp] theorem readinessAfter_append_one (was : Bool) (ms : List Mark) (m : Mark) :
    readinessAfter was (ms ++ [m]) = m.ready := by
  simp [readinessAfter]

/-- The last mark says when the heartbeat was. -/
@[simp] theorem heartbeatTime_append_one (ms : List Mark) (m : Mark) :
    heartbeatTime (ms ++ [m]) = some m.time := by
  simp [heartbeatTime]

/-- One more mark is a changing one exactly if it differs from what the marks before it left. -/
theorem changing_append_one (was : Bool) (ms : List Mark) (m : Mark) :
    changing was (ms ++ [m]) =
      changing was ms ++ if m.ready = readinessAfter was ms then [] else [m] := by
  induction ms generalizing was with
  | nil => by_cases same : m.ready = was <;> simp [changing, readinessAfter, same]
  | cons first ms ih =>
    simp only [List.cons_append, changing, readinessAfter_cons, ih]
    by_cases same : first.ready = was <;> simp [same]

/-- A node has a time of transition from its first mark on. -/
theorem transitionTime_isSome (m : Mark) (ms : List Mark) :
    (transitionTime (m :: ms)).isSome := by
  simp [transitionTime]

/-- A mark gives its time to the transition if it changes readiness or is the first one. -/
theorem transitionTime_append_one (ms : List Mark) (m : Mark) :
    transitionTime (ms ++ [m]) =
      if readinessAfter false ms != m.ready || (transitionTime ms).isNone then some m.time
      else transitionTime ms := by
  rw [transitionTime, changing_append_one]
  by_cases same : m.ready = readinessAfter false ms
  · -- a mark that changes nothing counts only as the first one
    cases ms with
    | nil => simp [same, transitionTime, changing]
    | cons first ms =>
      have known : (transitionTime (first :: ms)).isNone = false := by
        simpa using transitionTime_isSome first ms
      rw [if_pos same, if_neg (by simp [same, known]), List.append_nil, transitionTime]
      rfl
  · rw [if_neg same, if_pos (by simp [Ne.symm same])]
    simp

example : transitionTime [⟨false, ⟨0, 0⟩⟩, ⟨true, ⟨1, 0⟩⟩, ⟨true, ⟨2, 0⟩⟩] = some ⟨1, 0⟩ := by decide

example : transitionTime [⟨false, ⟨0, 0⟩⟩, ⟨false, ⟨1, 0⟩⟩] = some ⟨0, 0⟩ := by decide

/-! ## Conditions -/

/-- The condition that a mark begins with where there was none. -/
def blankReady : NodeCondition := ⟨readyType, "", none, none, none, none⟩

/-- A mark does not change the type of a condition. -/
@[simp] theorem type_marked (c : NodeCondition) (ready flipped : Bool) (message : String)
    (now : Time.Stamp) : (Node.marked c ready flipped message now).type = c.type := rfl

namespace Node

/-- The ready condition after an update is the one before it, updated. -/
theorem find?_updateReady (f : NodeCondition → NodeCondition) (keeps : ∀ c, (f c).type = c.type)
    (cs : List NodeCondition) :
    (updateReady f cs).find? (fun c => c.type = readyType) =
      some (f ((cs.find? fun c => c.type = readyType).getD blankReady)) := by
  induction cs with
  | nil => simp [updateReady, blankReady, keeps]
  | cons c cs ih =>
    by_cases ready : c.type = readyType
    · simp [updateReady, ready, keeps]
    · simpa [updateReady, ready] using ih

/-- A mark updates the ready condition, and notes a transition if readiness has changed. -/
theorem conditions_mark (ready : Bool) (message : String) (now : Time.Stamp) (n : Node) :
    (n.mark ready message now).1.conditions =
      updateReady (fun c => marked c ready (n.isReady != ready) message now) n.conditions := by
  rcases n with ⟨_, _, _, _, _, _ | status⟩ <;> rfl

/-- The ready condition after a mark is the one before it, marked. -/
theorem readyCondition?_mark (ready : Bool) (message : String) (now : Time.Stamp) (n : Node) :
    (n.mark ready message now).1.readyCondition? =
      some (marked (n.readyCondition?.getD blankReady) ready (n.isReady != ready) message now) := by
  rw [readyCondition?, conditions_mark]
  exact find?_updateReady (fun c => marked c ready (n.isReady != ready) message now)
    (fun _ => rfl) n.conditions

/-- A mark leaves the readiness that it sets, whatever the node was like. -/
@[simp] theorem isReady_mark (ready : Bool) (message : String) (now : Time.Stamp) (n : Node) :
    (n.mark ready message now).1.isReady = ready := by
  simp only [isReady, readyCondition?_mark]
  cases ready <;> simp [marked]

/-- A mark sets the phase that goes with readiness. -/
@[simp] theorem phase_mark (ready : Bool) (message : String) (now : Time.Stamp) (n : Node) :
    (n.mark ready message now).1.phase = some (if ready then "Running" else "Pending") := rfl

/-- What a node shows of its readiness. -/
structure Shows (n : Node) (ready : Bool) : Prop where
  phase : n.phase = some (if ready then "Running" else "Pending")
  condition : ∃ c, n.readyCondition? = some c ∧ c.status = if ready then "True" else "False"

/-- A node shows the readiness of its last mark. -/
theorem shows_mark (ready : Bool) (message : String) (now : Time.Stamp) (n : Node) :
    (n.mark ready message now).1.Shows ready :=
  ⟨phase_mark .., _, readyCondition?_mark .., rfl⟩

/-- The answer to a mark says whether readiness changed. -/
theorem mark_answer (ready : Bool) (message : String) (now : Time.Stamp) (n : Node) :
    (n.mark ready message now).2 = true ↔ (n.mark ready message now).1.isReady ≠ n.isReady := by
  rw [isReady_mark, ne_comm]
  exact bne_iff_ne

/-! ## What a node tells -/

/-- The taints of a node. -/
def taints (n : Node) : List Taint := (n.spec.bind NodeSpec.taints).getD []

/-- A node which tells the marks since it was built: its only condition does, and its phase goes
with them. -/
structure Tells (marks : List Mark) (n : Node) : Prop where
  taints : n.taints = [virtualTaint]
  phase : n.phase = some (if readinessAfter false marks then "Running" else "Pending")
  condition : ∃ c, n.conditions = [c] ∧ c.type = readyType
    ∧ c.status = (if readinessAfter false marks then "True" else "False")
    ∧ c.lastTransition = transitionTime marks ∧ c.lastHeartbeat = heartbeatTime marks

/-- A node that was just built tells no mark. -/
theorem tells_build (info : BaseInfo) (n : Node) : (n.build info).Tells [] where
  taints := rfl
  phase := rfl
  condition := ⟨unheardCondition, rfl, rfl, rfl, rfl, rfl⟩

/-- A node that tells of some marks is as ready as they leave it. -/
theorem Tells.isReady_eq {marks : List Mark} {n : Node} (tells : n.Tells marks) :
    n.isReady = readinessAfter false marks := by
  obtain ⟨c, conditions, type, status, -⟩ := tells.condition
  simp only [isReady, readyCondition?, conditions, List.find?_cons, type, decide_true, status]
  cases readinessAfter false marks <;> rfl

/-- A mark is told after those that were told before. -/
theorem Tells.mark {marks : List Mark} {n : Node} (tells : n.Tells marks) (ready : Bool)
    (message : String) (now : Time.Stamp) :
    (n.mark ready message now).1.Tells (marks ++ [⟨ready, now⟩]) where
  taints := tells.taints
  phase := by simp
  condition := by
    obtain ⟨c, conditions, type, -, transition, -⟩ := tells.condition
    refine ⟨marked c ready (n.isReady != ready) message now, ?_, type, ?_, ?_, by simp [marked]⟩
    · simp [conditions_mark, conditions, updateReady, type]
    · simp [marked]
    · simp only [marked, transitionTime_append_one, tells.isReady_eq, transition]

/-- A node goes on telling of the marks, whatever changes are made. -/
theorem Tells.follow {marks : List Mark} {n : Node} (tells : n.Tells marks)
    (steps : List NodeStep) : (n.follow steps).Tells (marksAfter marks steps) := by
  induction steps generalizing marks n with
  | nil => exact tells
  | cons step steps ih =>
    cases step with
    | build info => exact ih (tells_build info n)
    | markReady now => exact ih (tells.mark true _ now)
    | markNotReady message now => exact ih (tells.mark false message now)

/-! ## What a node keeps -/

/-- The names of the labels that belong to the controller. -/
def ownLabels : List String :=
  ["type", "kubernetes.io/role", "base.koupleless.io/name", "base.koupleless.io/stack",
    "base.koupleless.io/version"]

/-- The labels of a node that do not belong to the controller. -/
def foreignLabels (n : Node) : List (String × String) :=
  (n.labels.getD []).filter fun l => l.1 ∉ ownLabels

/-- A node that differs from another one in nothing but what belongs to the controller. -/
structure Keeps (origin n : Node) : Prop where
  name : ∀ name, origin.name = some name → n.name = some name
  version : n.resourceVersion = origin.resourceVersion
  labels : n.foreignLabels = origin.foreignLabels
  metadata : n.others = origin.others
  spec : (n.spec.getD .empty).others = (origin.spec.getD .empty).others
  status : (n.status.getD .empty).others = (origin.status.getD .empty).others

/-- A node keeps what is its own when nothing is changed. -/
theorem Keeps.refl (n : Node) : n.Keeps n := ⟨fun _ h => h, rfl, rfl, rfl, rfl, rfl⟩

/-- What is kept twice is kept. -/
theorem Keeps.trans {n m l : Node} (first : n.Keeps m) (second : m.Keeps l) : n.Keeps l where
  name name given := second.name name (first.name name given)
  version := second.version.trans first.version
  labels := second.labels.trans first.labels
  metadata := second.metadata.trans first.metadata
  spec := second.spec.trans first.spec
  status := second.status.trans first.status

/-- Labels with names of their own, set one after the other, stand behind all others. -/
theorem foldl_setLabel (news ls : List (String × String)) (distinct : (news.map Prod.fst).Nodup) :
    news.foldl (fun ls l => setLabel ls l.1 l.2) ls =
      ls.filter (fun l => l.1 ∉ news.map Prod.fst) ++ news := by
  induction news generalizing ls with
  | nil => simp
  | cons new news ih =>
    obtain ⟨fresh, distinct⟩ := List.nodup_cons.mp distinct
    have kept : [new].filter (fun l => l.1 ∉ news.map Prod.fst) = [new] := by
      simpa using fresh
    rw [List.foldl_cons, ih _ distinct, setLabel, List.filter_append, kept, List.filter_filter,
      List.append_assoc, List.singleton_append]
    congr 1
    refine List.filter_congr fun l _ => ?_
    simp only [List.map_cons, List.mem_cons, not_or, Bool.decide_and, Bool.and_comm]

/-- The labels of a node that was built: the foreign ones, then those of the controller. -/
theorem labels_build (info : BaseInfo) (n : Node) :
    (n.build info).labels = some (n.foreignLabels ++ virtualLabels info) :=
  have distinct : ((virtualLabels info).map Prod.fst).Nodup :=
    show ownLabels.Nodup by decide
  congrArg some (foldl_setLabel (virtualLabels info) _ distinct)

/-- Building a node leaves the labels of others alone. -/
theorem foreignLabels_build (info : BaseInfo) (n : Node) :
    (n.build info).foreignLabels = n.foreignLabels := by
  rw [foreignLabels, labels_build, Option.getD_some, List.filter_append]
  simp [foreignLabels, virtualLabels, ownLabels]

/-- Building a node keeps what the builder does not set. -/
theorem keeps_build (info : BaseInfo) (n : Node) : n.Keeps (n.build info) where
  name _ given := by simp [build, given]
  version := rfl
  labels := foreignLabels_build info n
  metadata := rfl
  spec := rfl
  status := rfl

/-- A mark keeps what the builder does not set. -/
theorem keeps_mark (ready : Bool) (message : String) (now : Time.Stamp) (n : Node) :
    n.Keeps (n.mark ready message now).1 where
  name _ given := given
  version := rfl
  labels := rfl
  metadata := rfl
  spec := rfl
  status := rfl

/-- Whatever changes are made, a node keeps what the builder does not set. -/
theorem keeps_follow (n : Node) (steps : List NodeStep) : n.Keeps (n.follow steps) := by
  induction steps generalizing n with
  | nil => exact .refl n
  | cons step steps ih =>
    have first : n.Keeps (step.apply n) := by
      cases step with
      | build info => exact keeps_build info n
      | markReady now => exact keeps_mark true _ now n
      | markNotReady message now => exact keeps_mark false message now n
    exact first.trans (ih _)

/-- Building a node once more with the same base changes nothing. -/
theorem build_build (info : BaseInfo) (n : Node) : (n.build info).build info = n.build info := by
  have labels : ((n.build info).build info).labels = (n.build info).labels := by
    rw [labels_build, labels_build, foreignLabels_build]
  calc (n.build info).build info
      = { n.build info with labels := ((n.build info).build info).labels } := rfl
    _ = n.build info := by rw [labels]

/-! ## The history -/

/-- What a node that was made from `origin` by some changes tells and keeps. -/
structure History (origin : Node) (steps : List NodeStep) (n : Node) : Prop where
  taint : n.taints = [virtualTaint]
  /-- There is one condition which follows the base, and the phase goes with it. -/
  condition : ∃ c, n.conditions.filter (fun c => c.type = readyType) = [c]
    ∧ (n.phase = some "Running" ↔ c.status = "True")
    ∧ c.lastTransition = transitionTime (recentMarks steps)
    ∧ c.lastHeartbeat = heartbeatTime (recentMarks steps)
  ready : n.isReady ↔ ∃ m, (recentMarks steps).getLast? = some m ∧ m.ready = true
  /-- A mark answers whether it changed readiness. -/
  answers : (∀ now, (n.markReady now).2 = true ↔ (n.markReady now).1.isReady ≠ n.isReady)
    ∧ ∀ message now,
      (n.markNotReady message now).2 = true ↔ (n.markNotReady message now).1.isReady ≠ n.isReady
  keeps : origin.Keeps n

/-- What the history of a node is after a building and any further changes, and that building it
twice is building it once. -/
theorem history_of_changes (origin : Node) (info : BaseInfo) (later : List NodeStep) :
    History origin (.build info :: later) (origin.follow (.build info :: later))
      ∧ (origin.build info).build info = origin.build info := by
  have tells : (origin.follow (.build info :: later)).Tells (recentMarks (.build info :: later)) :=
    (tells_build info origin).follow later
  refine ⟨?_, build_build info origin⟩
  constructor
  case taint => exact tells.taints
  case condition =>
    obtain ⟨c, conditions, type, status, transition, heartbeat⟩ := tells.condition
    refine ⟨c, by simp [conditions, type], ?_, transition, heartbeat⟩
    rw [tells.phase, status]
    cases readinessAfter false (recentMarks (.build info :: later)) <;> decide
  case ready =>
    rw [tells.isReady_eq, readinessAfter]
    cases (recentMarks (.build info :: later)).getLast? <;> simp
  case answers => exact ⟨fun now => mark_answer _ _ _ _, fun message now => mark_answer _ _ _ _⟩
  case keeps => exact keeps_follow origin _

end Node

end VirtualNode.Kube
