import VirtualNode.Proofs.Ledger.Passes
import VirtualNode.Proofs.Statuses.Pushes

/-!
# Which statuses a pass forgets

A pod that comes back under the name of one that went away needs a status, even if it is the status
that was written last under the key.  For this a pass forgets the last status of a pod that is being
deleted, and of a pod that is gone and has claims (`Desk.Forgets`).  It does not forget the last
status of a pod that is gone and has no claims.

A pass prepares and concludes (`reconcile_eq_prepare`), and with the conclusion the push of statuses
begins.  `Refreshed` says what a pass over a listing has made of the cache and of the last statuses
by then.  Main statement: `Round.Goes.refreshed`.
-/

set_option autoImplicit false

namespace VirtualNode.Controller

open Dialogue (Course within_mono within_update_bind)
open Dialogue.Course (bind_iff state_iff update_iff request_iff done_iff)
open Kube (Pod)

variable {still : Prop} {listing : List Pod} {key : String} {pod : Pod} {s s' t f : Desk}
  {calls : List Moment} {touched forgotten : List String}

/-! ## What a course spares -/

namespace Desk.Spares

/-- A ledger spares itself. -/
theorem refl (d : Desk) : d.Spares touched forgotten d :=
  ⟨fun _ => rfl, fun _ _ => rfl, fun _ => .inl rfl⟩

/-- What is spared twice is spared. -/
theorem trans (first : s.Spares touched forgotten s') (second : s'.Spares touched forgotten t) :
    s.Spares touched forgotten t := by
  refine ⟨?_, ?_, ?_⟩
  · intro key
    rw [second.pods, first.pods]
  · intro key untouched
    rw [second.claims key untouched, first.claims key untouched]
  · intro key
    rcases second.written key with same | gone
    · rw [same]
      exact first.written key
    · exact .inr gone

/-- What the others do meanwhile spares the whole ledger. -/
theorem of_aside (meanwhile : s.Aside still t) : s.Spares touched forgotten t :=
  ⟨meanwhile.pods, fun key _ => meanwhile.claims key, fun key => .inl (meanwhile.written key)⟩

/-- A key that is not forgotten has the status that was written last for it. -/
theorem written_same (spares : s.Spares touched forgotten t) (remembered : key ∉ forgotten) :
    t.ledger.written.get? key = s.ledger.written.get? key :=
  (spares.written key).resolve_right fun gone => remembered gone.1

/-- A key without a status does not come to have one. -/
theorem written_none (spares : s.Spares touched forgotten t)
    (gone : s.ledger.written.get? key = none) : t.ledger.written.get? key = none := by
  rcases spares.written key with same | ⟨-, gone⟩
  · rw [same, gone]
  · exact gone

/-- What is restrained to such changes, and writes no status, keeps to them in all its courses. -/
theorem of_course {α : Type} {task : Activity α} {R : Desk → Desk → Prop} {a : α}
    (course : Course (Desk.Aside still) task s calls a t)
    (within : task.Within R (¬ Call.WritesStatus ·) s)
    (spares : ∀ d e, R d e → d.Spares touched forgotten e) :
    s.Spares touched forgotten t ∧ ∀ moment ∈ calls, moment.statusWrite? = none := by
  have kept := course.within within (P := s.Spares touched forgotten)
    (fun _ _ meanwhile so_far => so_far.trans (of_aside meanwhile))
    (fun d e change so_far => so_far.trans (spares d e change)) (refl s)
  refine ⟨kept.1, ?_⟩
  rintro ⟨⟨call, answer⟩, d⟩ mem
  exact statusWrite?_eq_none (kept.2 _ mem).1 answer d

end Desk.Spares

/-! ## What a pass forgets -/

/-- Whether a pass over a listing forgets the last status of a key. -/
def Desk.Forgets (d : Desk) (listing : List Pod) (key : String) : Prop :=
  key ∈ dying listing ∨ (Gone listing key ∧ d.ledger.claims.get? key ≠ none)

instance (listing : List Pod) (key : String) : Decidable (Gone listing key) :=
  inferInstanceAs (Decidable (∀ pod ∈ listing, pod.isTerminating = false → pod.key ≠ key))

instance (d : Desk) (listing : List Pod) (key : String) : Decidable (d.Forgets listing key) :=
  inferInstanceAs (Decidable (_ ∨ _))

/-- What is forgotten first is not there at the end. -/
theorem written_none_of_forget {α : Type} {next : Unit → Activity α} {a : α}
    (course : Course (Desk.Aside still)
      ((Dialogue.update (·.updateLedger (·.forgetStatus key))).bind next) s calls a t)
    (within : Dialogue.Within (Desk.Tours touched forgotten) (¬ Call.WritesStatus ·)
      ((Dialogue.update (·.updateLedger (·.forgetStatus key))).bind next) s) :
    t.ledger.written.get? key = none := by
  simp only [bind_iff, update_iff] at course
  obtain ⟨_, _, _, _, rfl, ⟨rfl, s₁, m₁, rfl⟩, rest⟩ := course
  have later := (within_update_bind.1 within s₁).2
  refine (Desk.Spares.of_course rest later fun _ _ => Desk.Tours.toSpares).1.written_none ?_
  simp [Desk.updateLedger, Ledger.forgetStatus, Table.get?_erase]

/-- A pod that is being deleted has no status after it was gone to. -/
theorem dismissPod_forgets {a : Unit}
    (course : Course (Desk.Aside still) (dismissPod listing pod) s calls a t) :
    t.ledger.written.get? pod.key = none :=
  written_none_of_forget course (dismissPod_within listing pod)

/-- Of the pods that were visited, those that are being deleted have no status. -/
theorem visitPods_forgets {rest : List Pod} {live live' : Table String Pod}
    (course : Course (Desk.Aside still) (visitPods listing rest live) s calls live' t)
    (dies : key ∈ dying rest) : t.ledger.written.get? key = none := by
  induction rest generalizing s calls live with
  | nil => simp [dying] at dies
  | cons pod rest ih =>
    rw [visitPods] at course
    cases terminating : pod.isTerminating with
    | true =>
      rw [if_pos terminating] at course
      obtain ⟨_, _, s₁, _, rfl, dismissed, course⟩ := bind_iff.1 course
      by_cases is : key = pod.key
      · have spares := Desk.Spares.of_course course (visitPods_within listing rest live)
          fun _ _ => Desk.Tours.toSpares
        rw [is]
        exact spares.1.written_none (dismissPod_forgets dismissed)
      · have later : key ∈ dying rest := by simpa [dying, terminating, is] using dies
        exact ih course later
    | false =>
      rw [if_neg (by simp [terminating])] at course
      obtain ⟨_, _, s₁, _, rfl, -, course⟩ := bind_iff.1 course
      have later : key ∈ dying rest := by simpa [dying, terminating] using dies
      exact ih course later

/-- The keys that have vanished have no status. -/
theorem releaseVanished_forgets {keys : List String} {a : Unit}
    (course : Course (Desk.Aside still) (releaseVanished listing keys) s calls a t)
    (vanished : key ∈ keys) : t.ledger.written.get? key = none := by
  induction keys generalizing s calls with
  | nil => cases vanished
  | cons first rest ih =>
    by_cases is : key = first
    · rw [is]
      exact written_none_of_forget course (releaseVanished_within listing (first :: rest))
    · have later : key ∈ rest := (List.mem_cons.1 vanished).resolve_left is
      simp only [releaseVanished, Dialogue.bind_eq, bind_iff] at course
      obtain ⟨_, _, _, _, rfl, -, _, _, _, _, rfl, -, course⟩ := course
      exact ih course later

/-! ## The cache after a pass -/

/-- A key is gone from a listing if the first pod is not alive under it and it is gone from the
rest. -/
theorem gone_cons {rest : List Pod} : Gone (pod :: rest) key ↔
    (pod.isTerminating = false → pod.key ≠ key) ∧ Gone rest key :=
  List.forall_mem_cons

/-- The pods that are noted in the visits are those that are not being deleted, the last one of each
key. -/
theorem visitPods_live {rest : List Pod} {live live' : Table String Pod}
    (course : Course (Desk.Aside still) (visitPods listing rest live) s calls live' t) :
    (∀ key pod, live'.get? key = some pod → live.get? key = some pod ∨
      (pod ∈ rest ∧ pod.isTerminating = false ∧ pod.key = key)) ∧
    ∀ key, live'.get? key = none → live.get? key = none ∧ Gone rest key := by
  induction rest generalizing s calls live with
  | nil =>
    obtain ⟨-, rfl, -⟩ := done_iff.1 course
    exact ⟨fun _ _ => .inl, fun _ absent => ⟨absent, by simp [Gone]⟩⟩
  | cons pod rest ih =>
    rw [visitPods] at course
    cases terminating : pod.isTerminating with
    | true =>
      rw [if_pos terminating] at course
      obtain ⟨_, _, s₁, _, rfl, -, course⟩ := bind_iff.1 course
      obtain ⟨sound, complete⟩ := ih course
      constructor
      · intro key other cached
        refine (sound key other cached).imp_right ?_
        rintro ⟨mem, alive, is⟩
        exact ⟨List.mem_cons_of_mem _ mem, alive, is⟩
      · intro key absent
        obtain ⟨before, gone⟩ := complete key absent
        exact ⟨before, gone_cons.2 ⟨by simp [terminating], gone⟩⟩
    | false =>
      rw [if_neg (by simp [terminating])] at course
      obtain ⟨_, _, s₁, _, rfl, -, course⟩ := bind_iff.1 course
      obtain ⟨sound, complete⟩ := ih course
      simp only [Table.get?_insert] at sound complete
      constructor
      · intro key other cached
        rcases sound key other cached with before | ⟨mem, alive, is⟩
        · by_cases is : pod.key = key
          · rw [if_pos is] at before
            obtain rfl := Option.some.inj before
            exact .inr ⟨List.mem_cons_self, terminating, is⟩
          · rw [if_neg is] at before
            exact .inl before
        · exact .inr ⟨List.mem_cons_of_mem _ mem, alive, is⟩
      · intro key absent
        obtain ⟨before, gone⟩ := complete key absent
        have differ : pod.key ≠ key := by
          intro is
          rw [if_pos is] at before
          cases before
        rw [if_neg differ] at before
        exact ⟨before, gone_cons.2 ⟨fun _ => differ, gone⟩⟩

/-- What a pass over a listing has made of the cache and of the last statuses when it comes to
push. -/
structure Refreshed (listing : List Pod) (d e : Desk) : Prop where
  cached : ∀ key pod, e.ledger.pods.get? key = some pod →
    pod ∈ listing ∧ pod.isTerminating = false ∧ pod.key = key
  covers : ∀ key, e.ledger.pods.get? key = none → Gone listing key
  forgotten : ∀ key, d.Forgets listing key → e.ledger.written.get? key = none
  kept : ∀ key, ¬ d.Forgets listing key →
    e.ledger.written.get? key = d.ledger.written.get? key

/-- A key that is gone is not in the cache after a pass. -/
theorem Refreshed.uncached (refreshed : Refreshed listing s t) (gone : Gone listing key) :
    t.ledger.pods.get? key = none := by
  cases cached : t.ledger.pods.get? key with
  | none => rfl
  | some pod =>
    obtain ⟨mem, alive, is⟩ := refreshed.cached key pod cached
    exact absurd is (gone pod mem alive)

/-- What spares the whole ledger may come before a pass. -/
theorem Refreshed.of_spares (spares : s.Spares [] [] s') (refreshed : Refreshed listing s' t) :
    Refreshed listing s t := by
  have claims : s'.ledger.claims.get? = s.ledger.claims.get? :=
    funext fun key => spares.claims key (by simp)
  have forgets : ∀ key, s'.Forgets listing key ↔ s.Forgets listing key := by
    simp [Desk.Forgets, claims]
  refine ⟨refreshed.cached, refreshed.covers, ?_, ?_⟩
  · intro key forgot
    exact refreshed.forgotten key ((forgets key).2 forgot)
  · intro key remembers
    rw [refreshed.kept key fun forgot => remembers ((forgets key).1 forgot)]
    exact spares.written_same (by simp)

/-- A key that is gone and not being deleted is not listed at all. -/
theorem Gone.not_listed (gone : Gone listing key) (lives : key ∉ dying listing) :
    key ∉ listing.map Pod.key := by
  rw [List.mem_map]
  rintro ⟨pod, mem, is⟩
  cases terminating : pod.isTerminating with
  | true =>
    refine lives (List.mem_map.2 ⟨pod, ?_, is⟩)
    exact List.mem_filter.2 ⟨mem, terminating⟩
  | false => exact gone pod mem terminating is

/-- After the visits the keys of live pods are noted, and no others. -/
theorem visitPods_contains {live : Table String Pod}
    (course : Course (Desk.Aside still) (visitPods listing listing Table.empty) s calls live t)
    (key : String) : live.contains key = false ↔ Gone listing key := by
  obtain ⟨sound, complete⟩ := visitPods_live course
  rw [Table.contains, Option.isSome_eq_false_iff, Option.isNone_iff_eq_none]
  constructor
  · exact fun absent => (complete key absent).2
  · intro gone
    cases cached : live.get? key with
    | none => rfl
    | some pod =>
      rcases sound key pod cached with before | ⟨mem, alive, is⟩
      · cases before
      · exact absurd is (gone pod mem alive)

/-- When the listed pods have been visited and those that are gone have been let go of, a last
status is forgotten or it is what it was. -/
theorem released_written {live : Table String Pod} {first second : List Moment} {s₁ s₂ : Desk}
    {a : Unit}
    (visited : Course (Desk.Aside still) (visitPods listing listing Table.empty) s first live s₁)
    (meanwhile : s₁.Aside still s₂)
    (released : Course (Desk.Aside still) (releaseVanished listing
      (s₂.ledger.claims.keys.filter fun key => !live.contains key)) s₂ second a t) (key : String) :
    (s.Forgets listing key → t.ledger.written.get? key = none) ∧
      (¬ s.Forgets listing key → t.ledger.written.get? key = s.ledger.written.get? key) := by
  have spares := (Desk.Spares.of_course visited (visitPods_within listing listing _)
    fun _ _ => Desk.Tours.toSpares).1
  have spares' := (Desk.Spares.of_course released (releaseVanished_within listing _)
    fun _ _ => Desk.Tours.toSpares).1
  have vanished : key ∈ s₂.ledger.claims.keys.filter (fun key => !live.contains key) ↔
      s₁.ledger.claims.get? key ≠ none ∧ Gone listing key := by
    rw [List.mem_filter, Table.mem_keys_iff, meanwhile.claims, Bool.not_eq_true',
      visitPods_contains visited]
  by_cases dies : key ∈ dying listing
  · have forgotten := visitPods_forgets visited dies
    refine ⟨fun _ => ?_, fun remembers => absurd (.inl dies) remembers⟩
    exact spares'.written_none ((meanwhile.written key).trans forgotten)
  · -- the visits have left the key alone, so it has the claims that it had before
    have claims : Gone listing key →
        s₁.ledger.claims.get? key = s.ledger.claims.get? key :=
      fun gone => spares.claims key (gone.not_listed dies)
    constructor
    · intro forgets
      obtain ⟨gone, held⟩ := forgets.resolve_left dies
      rw [← claims gone] at held
      exact releaseVanished_forgets released (vanished.2 ⟨held, gone⟩)
    · intro remembers
      have stays : key ∉ s₂.ledger.claims.keys.filter fun key => !live.contains key := by
        rw [vanished]
        rintro ⟨held, gone⟩
        rw [claims gone] at held
        exact remembers (.inr ⟨gone, held⟩)
      calc t.ledger.written.get? key
        _ = s₂.ledger.written.get? key := spares'.written_same stays
        _ = s₁.ledger.written.get? key := meanwhile.written key
        _ = s.ledger.written.get? key := spares.written_same dies

/-- What is done about a listing before statuses are pushed. -/
def tidy (listing : List Pod) : Activity Unit := do
  let live ← visitPods listing listing Table.empty
  let state ← Activity.desk
  releaseVanished listing (state.ledger.claims.keys.filter fun key => !live.contains key)
  Activity.change (·.updateLedger fun l => { l with pods := live })

/-- After its listing a pass tidies up, and writes the statuses that are due. -/
theorem followListing_eq (listing : List Pod) :
    followListing listing = (tidy listing).bind fun _ => pushStatuses := by
  simp only [followListing, tidy, Dialogue.bind_eq, Dialogue.bind_assoc]

/-- While a pass tidies up it writes no status, and it refreshes the cache. -/
theorem tidy_refreshed {a : Unit}
    (course : Course (Desk.Aside still) (tidy listing) s calls a t) :
    (∀ moment ∈ calls, moment.statusWrite? = none) ∧ Refreshed listing s t := by
  simp only [tidy, Activity.desk, Activity.change, Dialogue.bind_eq, bind_iff, state_iff,
    update_iff] at course
  obtain ⟨first, live, s₁, _, rfl, visited, _, s₂, _, _, rfl, ⟨rfl, m₁, rfl⟩, second, _, s₃, _, rfl,
    released, rfl, s₄, m₂, rfl⟩ := course
  obtain ⟨sound, complete⟩ := visitPods_live visited
  have written := released_written visited m₁ released
  have unwritten := (Desk.Spares.of_course visited (visitPods_within listing listing _)
    fun _ _ => Desk.Tours.toSpares).2
  have unwritten' := (Desk.Spares.of_course released (releaseVanished_within listing _)
    fun _ _ => Desk.Tours.toSpares).2
  refine ⟨?_, ?_, ?_, ?_, ?_⟩
  · simpa [or_imp, forall_and] using And.intro unwritten unwritten'
  · intro key pod cached
    exact (sound key pod cached).resolve_left (by simp)
  · intro key absent
    exact (complete key absent).2
  · intro key forgets
    exact (m₂.written key).trans ((written key).1 forgets)
  · intro key remembers
    exact (m₂.written key).trans ((written key).2 remembers)

/-- What a pass does before statuses are pushed.  If the pods are listed it comes to the reading of
the clock at its beginning. -/
def prepare : Activity (Option Nat) := do
  let started := (← Activity.desk).clock
  ensureSubscribed
  let answer ← Activity.call .listPods
  let limit := (← Activity.desk).settings.operationTimeout
  match bounded Call.listPods.what limit answer with
  | .error e =>
    Activity.change (·.listingFailed e)
    return none
  | .ok listing =>
    Activity.change (·.listingSucceeded listing.length)
    tidy listing
    return some started

/-- What a pass does when the listing has been followed. -/
def conclude (started : Nat) : Activity Unit := do
  pushStatuses
  Activity.change fun d => d.measure (·.observeLatency (secondsBetween started d.clock))

/-- A pass prepares, and concludes if its listing has come. -/
theorem reconcile_eq_prepare : reconcile =
    prepare.bind fun started => started.elim (.done ()) conclude := by
  simp only [reconcile, prepare, Dialogue.bind_eq, Dialogue.bind_assoc]
  congr! 8 with begun _ answer asked
  cases bounded Call.listPods.what asked.settings.operationTimeout answer with
  | error e => rfl
  | ok listing => simp [followListing_eq, conclude, Dialogue.bind_assoc]

/-- At its end a pass goes over all entries of the cache. -/
theorem conclude_pushed {started : Nat} {a : Unit}
    (course : Course (Desk.Aside still) (conclude started) s calls a t) :
    ∃ entries, (∀ key pod, (key, pod) ∈ entries ↔ s.ledger.pods.get? key = some pod) ∧
      Pushed still entries s calls t := by
  simp only [conclude, Activity.change, Dialogue.bind_eq, bind_iff, update_iff] at course
  obtain ⟨late, _, s₁, _, rfl, pushes, rfl, s₂, m₁, rfl⟩ := course
  obtain ⟨entries, cached, pushed⟩ := pushStatuses_pushed pushes
  rw [List.append_nil]
  exact ⟨entries, cached, pushed.surround (.refl still s) (m₁.steady.trans (.of_eq rfl rfl rfl))⟩

/-! ## Rounds -/

/-- Whether the status of a pod was tried to be written in a round. -/
def Round.Writes (pod : Pod) (r : Round) : Prop :=
  ∃ moment ∈ r.record, moment.Writes pod

instance (pod : Pod) (r : Round) : Decidable (r.Writes pod) :=
  inferInstanceAs (Decidable (∃ moment ∈ r.record, moment.Writes pod))

/-- Whether the last status of a key was forgotten in a round. -/
def Round.Forgets (key : String) (r : Round) : Prop :=
  r.listing?.isSome = true ∧ r.before.Forgets r.listing key

instance (key : String) (r : Round) : Decidable (r.Forgets key) :=
  inferInstanceAs (Decidable (_ ∧ _))

/-- A round forgets the statuses that a pass over its listing forgets. -/
theorem Round.forgets_iff {r : Round} (listed : r.listing? = some listing) :
    r.Forgets key ↔ r.before.Forgets listing key := by
  simp [Round.Forgets, listed, Round.listing_eq listed]

/-- No status is written until the cache is that of a listing.  Then the cache is pushed. -/
abbrev PushedAfresh (still : Prop) (listing : List Pod) (f : Desk) (record : List Moment)
    (t : Desk) : Prop :=
  ∃ s early late entries, record = early ++ late ∧
    (∀ moment ∈ early, moment.statusWrite? = none) ∧ Refreshed listing f s ∧
    (∀ key pod, (key, pod) ∈ entries ↔ s.ledger.pods.get? key = some pod) ∧
    Pushed still entries s late t

/-- When a pass is about to push, the cache is that of the listing.  Without a listing nothing has
become of it. -/
theorem prepare_refreshed {started : Option Nat}
    (course : Course (Desk.Aside still) prepare f calls started s) :
    (∀ moment ∈ calls, moment.statusWrite? = none) ∧
      ((started = none ∧ calls.findSome? Moment.listing? = none ∧ f.Spares [] [] s) ∨
        ∃ begun listing, started = some begun ∧ calls.findSome? Moment.listing? = some listing ∧
          Refreshed listing f s) := by
  simp only [prepare, Activity.desk, Activity.call, Dialogue.bind_eq, bind_iff, state_iff,
    request_iff] at course
  obtain ⟨_, s₀, _, _, rfl, ⟨rfl, m₀, rfl⟩, early, _, s₁, _, rfl, subscribed, _, answer, s₂, _, rfl,
    ⟨rfl, m₁⟩, _, s₃, _, late, rfl, ⟨rfl, m₂, rfl⟩, course⟩ := course
  have idle := (ensureSubscribed_course subscribed).1
  obtain ⟨keeps, unwritten⟩ : s₀.Spares [] [] s₁ ∧
      ∀ moment ∈ early, Moment.statusWrite? moment = none :=
    Desk.Spares.of_course subscribed
      (within_mono ensureSubscribed_within (fun _ _ => id) fun _ => Call.Distant.not_writesStatus)
      fun _ _ outlook => .of_ledger (congrArg Outlook.ledger outlook)
  have opened : f.Spares [] [] s₃ :=
    ((Desk.Spares.of_aside m₀).trans keeps).trans (.of_aside (m₁.trans m₂))
  split at course
  · rename_i e failed
    simp only [Activity.change, Dialogue.pure_eq, bind_iff, update_iff, done_iff] at course
    obtain ⟨_, _, _, _, rfl, ⟨rfl, s₄, m₃, rfl⟩, rfl, rfl, rfl⟩ := course
    have ledger := s₄.ledger_listingFailed e
    refine ⟨?_, .inl ⟨rfl, ?_, (opened.trans (.of_aside m₃)).trans ?_⟩⟩
    · simp only [List.nil_append, List.append_nil, List.forall_mem_append,
        List.forall_mem_singleton]
      exact ⟨unwritten, rfl⟩
    · exact (findSome?_listing idle (.inl rfl)).trans (listing?_of_error failed s₁)
    · exact ⟨fun _ => by rw [ledger], fun _ _ => by rw [ledger], fun _ => .inl (by rw [ledger])⟩
  · rename_i listing listed
    obtain rfl := answer_of_ok listed
    simp only [Activity.change, Dialogue.pure_eq, bind_iff, update_iff, done_iff] at course
    obtain ⟨_, _, _, _, rfl, ⟨rfl, s₄, m₃, rfl⟩, middle, _, s₅, _, rfl, tidied, rfl, rfl, rfl⟩ :=
      course
    obtain ⟨unwritten', refreshed⟩ := tidy_refreshed tidied
    have begun : f.Spares [] [] (s₄.listingSucceeded listing.length) :=
      (opened.trans (.of_aside m₃)).trans ⟨fun _ => rfl, fun _ _ => rfl, fun _ => .inl rfl⟩
    refine ⟨?_, .inr ⟨_, listing, rfl, findSome?_listing idle (.inr rfl), ?_⟩⟩
    · simp only [List.nil_append, List.append_nil, List.forall_mem_append,
        List.forall_mem_singleton]
      exact ⟨unwritten, rfl, unwritten'⟩
    · exact refreshed.of_spares begun

/-- A pass with a listing refreshes the cache and writes what is due, and one without spares the
ledger. -/
theorem reconcile_refreshed {record : List Moment} {a : Unit}
    (course : Course (Desk.Aside still) reconcile f record a t) :
    (∃ listing, record.findSome? Moment.listing? = some listing ∧
      PushedAfresh still listing f record t) ∨
    (record.findSome? Moment.listing? = none ∧ f.Spares [] [] t) := by
  rw [reconcile_eq_prepare] at course
  obtain ⟨early, started, s, late, rfl, prepared, course⟩ := bind_iff.1 course
  obtain ⟨unwritten, ⟨rfl, unlisted, spares⟩ | ⟨begun, listing, rfl, listed, refreshed⟩⟩ :=
    prepare_refreshed prepared
  · obtain ⟨rfl, -, rfl⟩ := done_iff.1 course
    exact .inr ⟨by simpa using unlisted, spares⟩
  · obtain ⟨entries, cached, pushed⟩ := conclude_pushed course
    refine .inl ⟨listing, ?_, s, early, late, entries, rfl, unwritten, refreshed, cached, pushed⟩
    simp [List.findSome?_append, listed]

namespace Round.Goes

variable {r : Round}

/-- A round whose listing came refreshes the cache and writes what is due. -/
theorem refreshed (goes : r.Goes still) (listed : r.listing? = some listing) :
    PushedAfresh still listing r.before r.record r.after := by
  obtain ⟨task, before, record, after⟩ := r
  cases task with
  | pass =>
    rcases reconcile_refreshed goes with ⟨listing', listed', pushed⟩ | ⟨unlisted, -⟩
    · obtain rfl : listing' = listing := Option.some.inj (listed'.symm.trans listed)
      exact pushed
    · cases unlisted.symm.trans listed
  | push =>
    have idle := (pushStatuses_course goes).1
    cases (listing?_of_idle idle).symm.trans listed

/-- A round without a listing does not touch the status of a key that is not cached. -/
theorem unlisted (goes : r.Goes still) (unlisted : r.listing? = none)
    (uncached : r.before.ledger.pods.get? key = none) :
    r.after.ledger.pods.get? key = none ∧
      r.after.ledger.written.get? key = r.before.ledger.written.get? key := by
  obtain ⟨task, before, record, after⟩ := r
  cases task with
  | pass =>
    rcases reconcile_refreshed goes with ⟨listing, listed, -⟩ | ⟨-, spares⟩
    · cases listed.symm.trans unlisted
    · exact ⟨(spares.pods key).trans uncached, spares.written_same (by simp)⟩
  | push =>
    obtain ⟨entries, cached, pushed⟩ := pushStatuses_pushed goes
    exact ⟨(pushed.pods key).trans uncached, pushed.kept_uncached cached uncached⟩

end Round.Goes

end VirtualNode.Controller
