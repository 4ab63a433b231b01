import VirtualNode.Proofs.Ledger.Convergence
import VirtualNode.Proofs.Reports.Histories

/-!
# Modules of one identity

The identity of a module is its name and its version with a colon between them.  A colon may also
stand in the name or in the version, and then the identity does not tell where the name ends: two
modules have one identity exactly if they are the same or the name of one of them goes on with a
colon and with what the version of the other one begins with (`CutLater`).  Names without a colon
rule that out.

Where no modules collide like this, it makes no difference whether they are compared by identity, as
in the sightings and among the pods that want a module, or by name and version, as among the claims.

Main statements: `identities_agree`, and `exists_shared_identity` for what happens else.
-/

set_option autoImplicit false

namespace VirtualNode

namespace Biz

/-! ## Identities -/

/-- The second name and version cut the same identity at a later colon than the first ones. -/
def CutLater (name version name' version' : String) : Prop :=
  ∃ text, name' = name ++ ":" ++ text ∧ version = text ++ ":" ++ version'

/-- Two modules whose identity is the same text, but cut at different colons. -/
def Collide (name version name' version' : String) : Prop :=
  CutLater name version name' version' ∨ CutLater name' version' name version

/-- A text without a colon in it. -/
def Uncut (text : String) : Prop := ':' ∉ text.toList

/-- A colon is one character. -/
theorem colon_toList : (":" : String).toList = [':'] := rfl

/-- An identity is a name, a colon and a version, character by character. -/
theorem toList_identityOf (name version : String) :
    (identityOf name version).toList = name.toList ++ ':' :: version.toList := by
  simp [identityOf, colon_toList]

section Cuts

variable {name version name' version' : String}

/-- A text that is cut at two colons is the same identity twice. -/
theorem CutLater.identity (later : CutLater name version name' version') :
    identityOf name version = identityOf name' version' := by
  obtain ⟨text, rfl, rfl⟩ := later
  simp only [identityOf, String.append_assoc]

/-- Cut at different colons, the names differ. -/
theorem CutLater.ne (later : CutLater name version name' version') : name ≠ name' := by
  obtain ⟨text, rfl, -⟩ := later
  intro same
  have lengths := congrArg (List.length ∘ String.toList) same
  simp [colon_toList] at lengths

/-- The name that goes on has a colon, and so has the version that is cut short. -/
theorem CutLater.colons (later : CutLater name version name' version') :
    ¬ Uncut name' ∧ ¬ Uncut version := by
  obtain ⟨text, rfl, rfl⟩ := later
  simp [Uncut, colon_toList]

/-- Modules whose identities collide have different names. -/
theorem Collide.ne (collide : Collide name version name' version') : name ≠ name' := by
  rcases collide with later | later
  · exact later.ne
  · exact later.ne.symm

/-- Identities with too few colons do not collide. -/
theorem not_collide (plain : Uncut name ∨ Uncut version') (plain' : Uncut name' ∨ Uncut version) :
    ¬ Collide name version name' version' := by
  rintro (later | later)
  · exact plain'.elim later.colons.1 later.colons.2
  · exact plain.elim later.colons.1 later.colons.2

/-- Of two names that begin one text, one of which goes on longer than the other, the longer one
goes on with a colon. -/
theorem cutLater_of_append {more : List Char} (goes_on : name'.toList = name.toList ++ more)
    (rest : ':' :: version.toList = more ++ ':' :: version'.toList) :
    (name = name' ∧ version = version') ∨ CutLater name version name' version' := by
  cases more with
  | nil =>
    obtain ⟨-, versions⟩ := List.cons.inj rest
    rw [List.append_nil] at goes_on
    exact .inl ⟨String.toList_inj.1 goes_on.symm, String.toList_inj.1 versions⟩
  | cons c text =>
    obtain ⟨rfl, versions⟩ := List.cons.inj rest
    refine .inr ⟨String.ofList text, String.toList_inj.1 ?_, String.toList_inj.1 ?_⟩
    · simp [goes_on, colon_toList]
    · simp [versions, colon_toList]

/-- Identities are the same just if names and versions are, or if they collide. -/
theorem identityOf_eq_iff :
    identityOf name version = identityOf name' version' ↔
      (name = name' ∧ version = version') ∨ Collide name version name' version' := by
  constructor
  · intro same
    have texts := congrArg String.toList same
    rw [toList_identityOf, toList_identityOf] at texts
    -- both names begin the one text, so that one of them begins the other
    rcases List.append_eq_append_iff.1 texts with ⟨more, goes_on, rest⟩ | ⟨more, goes_on, rest⟩
    · exact (cutLater_of_append goes_on rest).imp_right .inl
    · rcases cutLater_of_append goes_on rest with ⟨rfl, rfl⟩ | later
      · exact .inl ⟨rfl, rfl⟩
      · exact .inr (.inr later)
  · rintro (⟨rfl, rfl⟩ | later | later)
    · rfl
    · exact later.identity
    · exact later.identity.symm

/-- Where nothing collides, identities are the same just if names and versions are. -/
theorem identityOf_eq_iff_of_apart (apart : ¬ Collide name version name' version') :
    identityOf name version = identityOf name' version' ↔ name = name' ∧ version = version' := by
  rw [identityOf_eq_iff, or_iff_left apart]

end Cuts

/-- Where nothing collides, modules of the same identity are the same. -/
theorem Descriptor.identity_eq_iff_of_apart {d e : Descriptor}
    (apart : ¬ Collide d.name d.version e.name e.version) :
    d.identity = e.identity ↔ d.same e = true :=
  (identityOf_eq_iff_of_apart apart).trans same_iff.symm

/-! ## Sightings -/

/-- The reports of a module were made, and have its identity. -/
theorem mem_reportsOf {identity : String} {updates : List Update} {r : Report × Time.Stamp}
    (mem : r ∈ reportsOf identity updates) :
    .report r.1 r.2 ∈ updates ∧ r.1.identity = identity := by
  obtain ⟨u, kept, told⟩ := List.mem_filterMap.1 mem
  have own := (List.rtakeWhile_suffix _ _).subset kept
  obtain ⟨among, identical⟩ := List.mem_filter.1 own
  cases u with
  | report r' now =>
    obtain rfl : (r', now) = r := by simpa [Update.report?] using told
    exact ⟨among, of_decide_eq_true identical⟩
  | forget => simp [Update.report?] at told

/-- What is known under an identity was reported of a module with that identity. -/
theorem Sightings.reported {updates : List Update} {identity : String} {seen : Sighting}
    (known : (empty.follow updates).get? identity = some seen) :
    (∃ now, .report seen.report now ∈ updates) ∧ seen.report.identity = identity := by
  rw [get?_follow] at known
  have some_report : reportsOf identity updates ≠ [] := by
    intro nobody
    rw [nobody] at known
    cases known
  obtain ⟨last, first, ends, -, made⟩ := sighting?_of_ne_nil some_report
  rw [made] at known
  cases known
  obtain ⟨among, identical⟩ := mem_reportsOf (List.mem_of_getLast? ends)
  exact ⟨⟨last.2, among⟩, identical⟩

/-- No report among some updates collides with a module. -/
def ReportsApart (updates : List Update) (name version : String) : Prop :=
  ∀ r now, .report r now ∈ updates → ¬ Collide r.name r.version name version

/-- Where nothing collides, what is known under an identity was reported of that module. -/
theorem Sightings.same_of_reported {updates : List Update} {name version : String}
    (apart : ReportsApart updates name version) {seen : Sighting}
    (known : (empty.follow updates).get? (identityOf name version) = some seen) :
    seen.report.name = name ∧ seen.report.version = version := by
  obtain ⟨⟨now, among⟩, identical⟩ := reported known
  exact (identityOf_eq_iff_of_apart (apart _ now among)).1 identical

end Biz

namespace Controller

open Biz
open Kube (Pod Container)

/-! ## Comparisons -/

section Comparisons

variable {listing : List Pod} {ledger : Ledger} {inbox : Inbox} {key : String} {d : Descriptor}

/-- Where nothing collides, a module that is wanted elsewhere is the same as one in another pod. -/
theorem wantedElsewhere_iff_of_apart
    (apart : ∀ pod ∈ listing, ∀ e ∈ pod.descriptors, ¬ Collide e.name e.version d.name d.version) :
    wantedElsewhere listing key d = true ↔
      ∃ pod ∈ listing, pod.isTerminating = false ∧ pod.key ≠ key ∧
        ∃ e ∈ pod.descriptors, e.same d = true := by
  rw [wantedElsewhere_iff]
  refine exists_congr fun pod => and_congr_right fun mem => ?_
  refine and_congr_right fun _ => and_congr_right fun _ => ?_
  refine exists_congr fun e => and_congr_right fun wants => ?_
  exact Descriptor.identity_eq_iff_of_apart (apart pod mem e wants)

/-- Where nothing collides, a module that is held elsewhere is in the claims of another key. -/
theorem heldElsewhere_iff_of_apart
    (apart : ∀ e ∈ ledger.claims.entries, ∀ held ∈ e.2,
      ¬ Collide held.name held.version d.name d.version) :
    ledger.heldElsewhere key d = true ↔
      ∃ e ∈ ledger.claims.entries, e.1 ≠ key ∧ ∃ held ∈ e.2, held.identity = d.identity := by
  simp only [Ledger.heldElsewhere, List.any_eq_true, Bool.and_eq_true, decide_eq_true_eq]
  refine exists_congr fun e => and_congr_right fun mem => and_congr_right fun _ => ?_
  refine exists_congr fun held => and_congr_right fun holds => ?_
  exact (Descriptor.identity_eq_iff_of_apart (apart e mem held holds)).symm

/-- Where nothing collides, a module that is already there was itself reported. -/
theorem alreadyThere_iff_of_apart {updates : List Update}
    (sightings : inbox.sightings = Sightings.empty.follow updates)
    (apart : ReportsApart updates d.name d.version) :
    inbox.alreadyThere d = true ↔
      ∃ seen, inbox.sightings.get? d.identity = some seen ∧ seen.report.name = d.name ∧
        seen.report.version = d.version ∧ seen.report.state ≠ .deactivated := by
  unfold Inbox.alreadyThere
  cases known : inbox.sightings.get? d.identity with
  | none => simp
  | some seen =>
    rw [sightings] at known
    obtain ⟨name, version⟩ := Sightings.same_of_reported apart known
    simp [name, version]

end Comparisons

/-- How the two ways to compare modules agree. -/
structure IdentitiesAgree : Prop where
  same : ∀ d e : Descriptor, d.same e = true ↔ d.name = e.name ∧ d.version = e.version
  /-- A module has one identity, which it shares only with the modules that it collides with. -/
  key : ∀ name version name' version', identityOf name version = identityOf name' version' ↔
    (name = name' ∧ version = version') ∨ Collide name version name' version'
  different : ∀ name version name' version', Collide name version name' version' → name ≠ name'
  /-- Colons are needed for modules to collide, in the name of one and the version of the other. -/
  uncut : ∀ name version name' version', Uncut name ∨ Uncut version' →
    Uncut name' ∨ Uncut version → ¬ Collide name version name' version'
  /-- The sighting under the identity of a module is of that module or of one that collides. -/
  record : ∀ updates name version seen,
    (Sightings.empty.follow updates).get? (identityOf name version) = some seen →
      (seen.report.name = name ∧ seen.report.version = version) ∨
        Collide seen.report.name seen.report.version name version
  own_record : ∀ updates name version seen, ReportsApart updates name version →
    (Sightings.empty.follow updates).get? (identityOf name version) = some seen →
      seen.report.name = name ∧ seen.report.version = version
  wanted : ∀ listing key (d : Descriptor),
    (∀ pod ∈ listing, ∀ e ∈ pod.descriptors, ¬ Collide e.name e.version d.name d.version) →
    (wantedElsewhere listing key d = true ↔
      ∃ pod ∈ listing, pod.isTerminating = false ∧ pod.key ≠ key ∧
        ∃ e ∈ pod.descriptors, e.same d = true)
  held : ∀ (ledger : Ledger) key (d : Descriptor),
    (∀ e ∈ ledger.claims.entries, ∀ held ∈ e.2,
      ¬ Collide held.name held.version d.name d.version) →
    (ledger.heldElsewhere key d = true ↔
      ∃ e ∈ ledger.claims.entries, e.1 ≠ key ∧ ∃ held ∈ e.2, held.identity = d.identity)
  there : ∀ (inbox : Inbox) updates (d : Descriptor),
    inbox.sightings = Sightings.empty.follow updates → ReportsApart updates d.name d.version →
    (inbox.alreadyThere d = true ↔
      ∃ seen, inbox.sightings.get? d.identity = some seen ∧ seen.report.name = d.name ∧
        seen.report.version = d.version ∧ seen.report.state ≠ .deactivated)

/-- Identities tell apart what names and versions tell apart, but for modules that collide. -/
theorem identities_agree : IdentitiesAgree where
  same _ _ := Descriptor.same_iff
  key _ _ _ _ := identityOf_eq_iff
  different _ _ _ _ := Collide.ne
  uncut _ _ _ _ := not_collide
  record _ _ _ _ known := identityOf_eq_iff.1 (Sightings.reported known).2
  own_record _ _ _ _ apart := Sightings.same_of_reported apart
  wanted _ _ _ := wantedElsewhere_iff_of_apart
  held _ _ _ := heldElsewhere_iff_of_apart
  there _ _ _ := alreadyThere_iff_of_apart

/-- Two pods with a container of one name, and a base that reports its module. -/
theorem identities_agree_shared :
    let listing := [podOf "a" ["m"], podOf "b" ["m"]]
    let r : Report := ⟨"m", "", .activated, "", ""⟩
    let known := Sightings.empty.follow [.report r ⟨5, 0⟩]
    (∃ pod ∈ listing, pod.isTerminating = false ∧ pod.key ≠ "default/a" ∧
        ∃ e ∈ pod.descriptors, e.same (moduleOf "m") = true) ∧
      ∃ seen, known.get? (moduleOf "m").identity = some seen ∧ seen.report.name = "m" ∧
        seen.report.version = "" ∧ seen.report.state ≠ .deactivated := by
  intro listing r known
  have plain : PlainNames listing := by decide
  have named : Uncut "m" := by simp [Uncut]
  constructor
  · refine (identities_agree.wanted listing "default/a" (moduleOf "m") fun pod mem e wants => ?_).1
      (by decide)
    exact identities_agree.uncut _ _ _ _ (.inl (plain pod mem e wants)) (.inl named)
  · have there := identities_agree.there { Inbox.empty default with sightings := known }
      [.report r ⟨5, 0⟩] (moduleOf "m") rfl
    refine (there fun r' now mem => ?_).1 (by decide)
    obtain ⟨rfl, -⟩ := Update.report.inj (List.mem_singleton.1 mem)
    exact identities_agree.uncut _ _ _ _ (.inl named) (.inl named)

/-- A pod with one container, whose module has the version `c`. -/
def colonPod : Pod :=
  { podOf "b" [] with containers := [⟨"a:b", none, [⟨Kube.versionVariable, some "c"⟩]⟩] }

/-- Modules that differ in name and version may have one identity.  They share one sighting, in
which a report about the one is a change of state of the other, and a pod that wants one of them is
taken for one that wants the other. -/
theorem exists_shared_identity :
    (¬ ∀ d e : Descriptor, d.identity = e.identity ↔ d.same e = true) ∧
      let one : Report := ⟨"a:b", "c", .resolved, "", ""⟩
      let other : Report := ⟨"a", "b:c", .activated, "", ""⟩
      let first := (Sightings.empty.apply one ⟨0, 0⟩).1
      let second := first.apply other ⟨5, 0⟩
      let d : Descriptor := ⟨"a", "b:c", ""⟩
      (second.1.size = 1 ∧ second.2 = .changed (some .resolved)) ∧
        ({ Inbox.empty default with sightings := first }.alreadyThere d = true ∧
          ¬ ∃ seen, first.get? d.identity = some seen ∧ seen.report.name = d.name) ∧
        wantedElsewhere [colonPod] "default/a" d = true ∧
          ∀ e ∈ colonPod.descriptors, e.same d = false := by
  refine ⟨fun agree => ?_, by decide, ⟨by decide, ?_⟩, by decide, by decide⟩
  · have same := (agree ⟨"a:b", "c", ""⟩ ⟨"a", "b:c", ""⟩).1 rfl
    revert same
    decide
  · rintro ⟨seen, known, name⟩
    obtain rfl := Option.some.inj known
    revert name
    decide

end Controller

end VirtualNode
