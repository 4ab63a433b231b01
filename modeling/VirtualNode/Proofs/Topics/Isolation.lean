import VirtualNode.Controller.Settings
import VirtualNode.Proofs.Topics.Filters

/-!
# Topics of different nodes

The topics of a node are told apart by its id and by what they are for: a node id that is accepted
holds no slash, so the slash after it is where every topic of the node is cut.  It holds no wildcard
either, so a topic of a node that is taken for a filter matches no other topic.

Main statement: `topics_isolated`.
-/

set_option autoImplicit false

namespace VirtualNode

namespace Topic

/-- Each purpose has its own suffix. -/
theorem suffix_inj {p q : Purpose} (same : p.suffix = q.suffix) : p = q := by
  cases p <;> cases q <;> first | rfl | exact absurd same (by decide)

/-- The suffix of a purpose has no wildcards. -/
theorem plain_suffix (p : Purpose) : Plain p.suffix := by
  cases p <;> decide

/-- The id of a node is one part of its topics. -/
theorem parts_name {id : String} (uncut : '/' ∉ id.toList) (p : Purpose) :
    parts (name id p) = "koupleless".toList :: id.toList :: parts p.suffix := by
  have root : '/' ∉ "koupleless".toList := by decide
  have text : (name id p).toList =
      "koupleless".toList ++ '/' :: (id.toList ++ '/' :: p.suffix.toList) := by
    simp [name]
  rw [parts, text, List.splitOn_append_cons_self_of_not_mem root,
    List.splitOn_append_cons_self_of_not_mem uncut, ← parts]

/-- Topics are the same just if ids and purposes are, where no id has a slash. -/
theorem name_eq_iff {id id' : String} {p q : Purpose} (uncut : '/' ∉ id.toList)
    (uncut' : '/' ∉ id'.toList) : name id p = name id' q ↔ id = id' ∧ p = q := by
  rw [← parts_inj, parts_name uncut, parts_name uncut', List.cons_inj_right, List.cons.injEq,
    String.toList_inj, parts_inj]
  exact and_congr_right fun _ => ⟨suffix_inj, congrArg Purpose.suffix⟩

/-- The topics of a plain id have no wildcards. -/
theorem plain_name {id : String} (plain : Plain id) (p : Purpose) : Plain (name id p) := by
  have root : Plain "koupleless/" := by decide
  have slash : Plain "/" := by decide
  have suffix := plain_suffix p
  unfold Plain name at *
  simp only [String.toList_append, List.mem_append, not_or]
  exact ⟨⟨⟨⟨root.1, plain.1⟩, slash.1⟩, suffix.1⟩, ⟨⟨root.2, plain.2⟩, slash.2⟩, suffix.2⟩

end Topic

namespace Controller

open Topic (Plain)

namespace Settings

/-- Settings are accepted if the id of the node is not blank and holds no character that has a
meaning of its own in topics, and neither a time nor a threshold that must not be zero is. -/
theorem validate_eq_ok_iff {s : Settings} :
    s.validate = .ok () ↔ Text.blank s.nodeId = false ∧
      (∀ c ∈ s.nodeId.toList, isTopicMark c = false) ∧ s.firstZero? = none ∧
      s.maxHeartbeatFailures ≠ 0 ∧ s.maxClusterFailures ≠ 0 := by
  unfold validate
  split
  · grind
  · split
    · grind
    · split
      · grind
      · split
        · grind
        · grind

/-- An id that is accepted has neither slashes nor wildcards. -/
theorem accepted_id {s : Settings} (accepted : s.validate = .ok ()) :
    '/' ∉ s.nodeId.toList ∧ Plain s.nodeId := by
  obtain ⟨-, unmarked, -⟩ := validate_eq_ok_iff.1 accepted
  have absent {c : Char} (mark : isTopicMark c = true) : c ∉ s.nodeId.toList := by
    intro here
    rw [unmarked c here] at mark
    cases mark
  exact ⟨absent rfl, absent rfl, absent rfl⟩

end Settings

/-- No topic of one accepted id is that of another, or is matched by one. -/
theorem topics_isolated {s : Settings} (accepted : s.validate = .ok ()) :
    (∀ purpose topic, Topic.filterMatches (s.topic purpose) topic = true ↔
        topic = s.topic purpose) ∧
      ∀ s' : Settings, s'.validate = .ok () → s'.nodeId ≠ s.nodeId → ∀ p q,
        s.topic p ≠ s'.topic q ∧ Topic.filterMatches (s.topic p) (s'.topic q) = false ∧
          Topic.filterMatches (s'.topic q) (s.topic p) = false := by
  obtain ⟨uncut, plain⟩ := Settings.accepted_id accepted
  have alone : ∀ purpose topic, Topic.filterMatches (s.topic purpose) topic = true ↔
      topic = s.topic purpose :=
    fun purpose _ => Topic.filterMatches_iff_eq_of_plain (Topic.plain_name plain purpose)
  refine ⟨alone, ?_⟩
  intro s' accepted' other p q
  obtain ⟨uncut', plain'⟩ := Settings.accepted_id accepted'
  have differ : s.topic p ≠ s'.topic q := by
    intro same
    exact other ((Topic.name_eq_iff uncut uncut').1 same).1.symm
  refine ⟨differ, ?_, ?_⟩
  · rw [← Bool.not_eq_true, alone]
    exact differ.symm
  · rw [← Bool.not_eq_true, Settings.topic,
      Topic.filterMatches_iff_eq_of_plain (Topic.plain_name plain' q)]
    exact differ

/-- Settings that are standard but for the id of the node. -/
def settingsOf (nodeId : String) : Settings := .standard ⟨nodeId, "", "", "", ""⟩

/-- Two ids that differ in a blank at their end are the ids of two nodes. -/
theorem topics_isolated_blank :
    ((settingsOf "n1").validate = .ok () ∧ (settingsOf "n1 ").validate = .ok () ∧
        (settingsOf "n1 ").nodeId ≠ (settingsOf "n1").nodeId) ∧
      Topic.filterMatches ((settingsOf "n1").topic .bizState) ((settingsOf "n1 ").topic .bizState) =
        false := by
  have accepted : (settingsOf "n1").validate = .ok () := by rfl
  have accepted' : (settingsOf "n1 ").validate = .ok () := by rfl
  have other : (settingsOf "n1 ").nodeId ≠ (settingsOf "n1").nodeId := by decide
  obtain ⟨-, isolated⟩ := topics_isolated accepted
  obtain ⟨-, unmatched, -⟩ := isolated _ accepted' other .bizState .bizState
  exact ⟨⟨accepted, accepted', other⟩, unmatched⟩

end Controller

end VirtualNode
