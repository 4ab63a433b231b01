import VirtualNode.Proofs.Statuses.Forgotten

/-!
# The status of a pod that comes back

The statuses that were written last are followed through the rounds in which a key is away
(`Lapses`), up to the turn of the pod that is listed under it again (`Turn`).  Whether a status is
written then depends on whether the last one was forgotten meanwhile (`returned_written`), and so a
pod that comes back may be left without a status (`exists_unwritten`).
-/

set_option autoImplicit false

namespace VirtualNode.Controller

open Kube (Pod)

variable {still : Prop} {key : String} {pod : Pod} {s s' t : Desk}

/-! ## Keys that are away -/

/-- What becomes of the last status of a key in rounds in which the key is away. -/
structure Lapses (key : String) (rounds : List Round) (d e : Desk) : Prop where
  uncached : e.ledger.pods.get? key = none
  forgotten : (∃ r ∈ rounds, r.Forgets key) → e.ledger.written.get? key = none
  kept : (¬ ∃ r ∈ rounds, r.Forgets key) →
    e.ledger.written.get? key = d.ledger.written.get? key

/-- A key that lapses in a round and in the later ones lapses in all of them. -/
theorem Lapses.cons {r : Round} {rounds : List Round} (first : Lapses key [r] s s')
    (later : Lapses key rounds s' t) : Lapses key (r :: rounds) s t := by
  refine ⟨later.uncached, ?_, ?_⟩
  · intro forgotten
    by_cases again : ∃ q ∈ rounds, q.Forgets key
    · exact later.forgotten again
    · have here : r.Forgets key := by simpa [again] using forgotten
      rw [later.kept again]
      exact first.forgotten ⟨r, List.mem_singleton_self r, here⟩
  · intro remembered
    have here : ¬ r.Forgets key := fun forgets => remembered ⟨r, List.mem_cons_self, forgets⟩
    have later_too : ¬ ∃ q ∈ rounds, q.Forgets key := fun ⟨q, mem, forgets⟩ =>
      remembered ⟨q, List.mem_cons_of_mem r mem, forgets⟩
    rw [later.kept later_too]
    exact first.kept (by simpa using here)

/-- What the others do meanwhile may come before a lapse. -/
theorem Lapses.of_aside {rounds : List Round} (meanwhile : s.Aside still s')
    (lapses : Lapses key rounds s' t) : Lapses key rounds s t :=
  ⟨lapses.uncached, lapses.forgotten,
    fun remembered => (lapses.kept remembered).trans (meanwhile.written key)⟩

/-- In a round over a listing without the key, its last status is forgotten or kept. -/
theorem Round.Goes.lapses_listed {r : Round} (goes : r.Goes still)
    (listed : r.listing?.isSome = true) (gone : Gone r.listing key) :
    Lapses key [r] r.before r.after := by
  obtain ⟨listing, is⟩ := Option.isSome_iff_exists.1 listed
  rw [Round.listing_eq is] at gone
  obtain ⟨s, early, late, entries, -, -, refreshed, cached, pushed⟩ := goes.refreshed is
  have uncached : s.ledger.pods.get? key = none := refreshed.uncached gone
  have pushed_over := pushed.kept_uncached cached uncached
  refine ⟨(pushed.pods key).trans uncached, ?_, ?_⟩
  · intro forgotten
    have forgets : r.Forgets key := by simpa using forgotten
    rw [pushed_over]
    exact refreshed.forgotten key ((Round.forgets_iff is).1 forgets)
  · intro remembered
    have remembers : ¬ r.Forgets key := by simpa using remembered
    rw [pushed_over]
    exact refreshed.kept key fun forgets => remembers ((Round.forgets_iff is).2 forgets)

/-- A key that is gone and not cached lapses in the round. -/
theorem Round.Goes.lapses {r : Round} (goes : r.Goes still)
    (uncached : r.before.ledger.pods.get? key = none) (gone : Gone r.listing key) :
    Lapses key [r] r.before r.after := by
  cases listed : r.listing? with
  | some listing => exact goes.lapses_listed (by simp [listed]) gone
  | none =>
    obtain ⟨uncached', same⟩ := goes.unlisted listed uncached
    have remembers : ¬ r.Forgets key := by simp [Round.Forgets, listed]
    exact ⟨uncached', fun forgotten => absurd (by simpa using forgotten) remembers, fun _ => same⟩

/-- A key that is gone from all listings and not cached lapses all the time. -/
theorem Run.lapses {first : Desk} {rounds : List Round} (run : Run first rounds)
    (uncached : first.ledger.pods.get? key = none) (gone : ∀ r ∈ rounds, Gone r.listing key) :
    Lapses key rounds first (lastDesk first rounds) := by
  induction rounds generalizing first with
  | nil => exact ⟨uncached, by simp, fun _ => rfl⟩
  | cons r rest ih =>
    obtain ⟨meanwhile, goes, later⟩ := run
    rw [List.forall_mem_cons] at gone
    have here := goes.lapses ((meanwhile.pods key).trans uncached) gone.1
    exact .of_aside meanwhile (here.cons (ih later here.uncached gone.2))

/-! ## Pods that come back -/

/-- The key of a pod that names its namespace is its address. -/
theorem key_eq_address (named : pod.spaceName.isSome = true) :
    pod.key = pod.addressSpace ++ "/" ++ pod.addressName := by
  obtain ⟨space, is⟩ := Option.isSome_iff_exists.1 named
  simp [Pod.key, Pod.addressSpace, Pod.addressName, is]

/-- Pods that name their spaces and are addressed by the same write have the same key. -/
theorem key_eq_of_addresses {write : StatusWrite} {other : Pod}
    (named : pod.spaceName.isSome = true) (named' : other.spaceName.isSome = true)
    (addressed : write.Addresses pod) (addressed' : write.Addresses other) :
    pod.key = other.key := by
  rw [key_eq_address named, key_eq_address named', ← addressed.1, ← addressed'.1, ← addressed.2,
    ← addressed'.2]

/-- The turn of a pod in the push of a pass over a listing with its key. -/
structure Turn (still : Prop) (r : Round) (key : String) (pod : Pod) (s : Desk) : Prop where
  listed : pod ∈ r.listing ∧ pod.isTerminating = false ∧ pod.key = key
  cached : r.after.ledger.pods.get? key = some pod
  alike : s.Alike still r.after
  forgotten : r.Forgets key → s.ledger.written.get? key = none
  kept : ¬ r.Forgets key → s.ledger.written.get? key = r.before.ledger.written.get? key
  complete : ∃ u : Desk, s.Alike still u ∧
    (s.ledger.written.get? key = some (u.statusOf pod) ∨ r.Writes pod)
  sound : (∀ other ∈ r.listing, other.spaceName.isSome = true) → r.Writes pod →
    ∃ u : Desk, s.Alike still u ∧ s.ledger.written.get? key ≠ some (u.statusOf pod)

/-- A pod that is listed alive has its turn in the round. -/
theorem Round.Goes.turn {r : Round} (goes : r.Goes still) (back : ¬ Gone r.listing key) :
    ∃ pod s, Turn still r key pod s := by
  cases is : r.listing? with
  | none => exact absurd (by simp [Round.listing, is, Gone]) back
  | some listing =>
    have whole : r.listing = listing := Round.listing_eq is
    rw [whole] at back
    obtain ⟨s, early, late, entries, record, unwritten, refreshed, cached, pushed⟩ :=
      goes.refreshed is
    cases here : s.ledger.pods.get? key with
    | none => exact absurd (refreshed.covers key here) back
    | some pod =>
      have listed := refreshed.cached key pod here
      refine ⟨pod, s, ?_, (pushed.pods key).trans here, pushed.alike, ?_, ?_, ?_, ?_⟩
      · rwa [whole]
      · exact fun forgets => refreshed.forgotten key ((Round.forgets_iff is).1 forgets)
      · exact fun remembers => refreshed.kept key fun forgets =>
          remembers ((Round.forgets_iff is).2 forgets)
      · obtain ⟨u, alike, turn⟩ := pushed.complete (key, pod) ((cached key pod).2 here)
        refine ⟨u, alike, turn.imp_right ?_⟩
        rintro ⟨moment, mem, writes⟩
        exact ⟨moment, by simp [record, mem], writes⟩
      · rw [whole]
        rintro named ⟨moment, mem, write, wrote, addressed⟩
        rw [record, List.mem_append] at mem
        rcases mem with mem | mem
        · rw [unwritten moment mem] at wrote
          cases wrote
        · obtain ⟨⟨key', pod'⟩, entry, addressed', alike, due⟩ :=
            pushed.sound moment mem write wrote
          obtain ⟨mem', -, is'⟩ := refreshed.cached key' pod' ((cached key' pod').1 entry)
          have same : key' = key :=
            is'.symm.trans ((key_eq_of_addresses (named pod' mem') (named pod listed.1) addressed'
              addressed).trans listed.2.2)
          subst same
          obtain rfl : pod' = pod := Option.some.inj (((cached key' pod').1 entry).symm.trans here)
          exact ⟨moment.state, alike, due⟩

/-- At its turn the last status of a key is forgotten, or it is what it was before the key went
away. -/
theorem Turn.lapsed {r : Round} {rounds : List Round} {d e : Desk} (turn : Turn still r key pod s)
    (lapses : Lapses key rounds d e) (meanwhile : e.Aside False r.before) :
    ((∃ p ∈ rounds ++ [r], p.Forgets key) → s.ledger.written.get? key = none) ∧
      ((¬ ∃ p ∈ rounds ++ [r], p.Forgets key) →
        s.ledger.written.get? key = d.ledger.written.get? key) := by
  have before : (∃ p ∈ rounds ++ [r], p.Forgets key) ↔
      (∃ p ∈ rounds, p.Forgets key) ∨ r.Forgets key := by
    simp [or_and_right, exists_or]
  rw [before]
  constructor
  · intro forgotten
    by_cases now : r.Forgets key
    · exact turn.forgotten now
    · rw [turn.kept now, meanwhile.written]
      exact lapses.forgotten (forgotten.resolve_right now)
  · rw [not_or]
    rintro ⟨early, now⟩
    rw [turn.kept now, meanwhile.written]
    exact lapses.kept early

/-- If the last status of a key that went away was forgotten before it is listed again, then a
status is written for the pod that is listed.  If it was not, and nobody reports on modules during
the pass, then a status is written just if it differs from the one that was written last before the
key went away. -/
theorem returned_written {first : Desk} {q r : Round} {away : List Round}
    (run : Run first (q :: away ++ [r])) (listed : q.listing?.isSome = true)
    (gone : ∀ p ∈ q :: away, Gone p.listing key) (back : ¬ Gone r.listing key) :
    ∃ pod ∈ r.listing, pod.isTerminating = false ∧ pod.key = key ∧
      r.after.ledger.pods.get? key = some pod ∧
      ((∃ p ∈ q :: away ++ [r], p.Forgets key) → r.Writes pod) ∧
      (r.Goes True → (∀ other ∈ r.listing, other.spaceName.isSome = true) →
        (r.Writes pod ↔ (∃ p ∈ q :: away ++ [r], p.Forgets key) ∨
          q.before.ledger.written.get? key ≠ some (r.after.statusOf pod))) := by
  rw [run_append] at run
  obtain ⟨⟨-, left, later⟩, meanwhile, goes, -⟩ := run
  rw [List.forall_mem_cons] at gone
  have start : Lapses key [q] q.before q.after := left.lapses_listed listed gone.1
  have lapses : Lapses key (q :: away) q.before (lastDesk first (q :: away)) :=
    start.cons (later.lapses start.uncached gone.2)
  obtain ⟨pod, s, turn⟩ := goes.turn back
  obtain ⟨mem, alive, is⟩ := turn.listed
  refine ⟨pod, mem, alive, is, turn.cached, ?_, ?_⟩
  · intro forgotten
    obtain ⟨u, -, written | writes⟩ := turn.complete
    · cases ((turn.lapsed lapses meanwhile).1 forgotten).symm.trans written
    · exact writes
  · intro quiet named
    obtain ⟨pod', s', turn'⟩ := quiet.turn back
    obtain rfl : pod' = pod := Option.some.inj (turn'.cached.symm.trans turn.cached)
    obtain ⟨forgets, keeps⟩ := turn'.lapsed lapses meanwhile
    -- at its turn the pod has the status that it has after the pass
    have status : ∀ u : Desk, s'.Alike True u → u.statusOf pod' = r.after.statusOf pod' := by
      intro u alike
      rw [alike trivial, turn'.alike trivial]
    constructor
    · intro writes
      obtain ⟨u, alike, due⟩ := turn'.sound named writes
      by_cases forgotten : ∃ p ∈ q :: away ++ [r], p.Forgets key
      · exact .inl forgotten
      · rw [keeps forgotten, status u alike] at due
        exact .inr due
    · intro due
      obtain ⟨u, alike, written | writes⟩ := turn'.complete
      · rw [status u alike] at written
        by_cases forgotten : ∃ p ∈ q :: away ++ [r], p.Forgets key
        · cases (forgets forgotten).symm.trans written
        · rw [keeps forgotten] at written
          exact absurd written (due.resolve_left forgotten)
      · exact writes

/-- The answers of a cluster that lists the given pods and does all that it is asked to do, and of a
broker that acknowledges everything. -/
def obliging (listing : List Pod) : (c : Call) → c.Answer
  | .reportPod _ _ _ => some (.ok ())
  | c => prepared listing (fun _ => true) c

/-- The passes in which an obliging cluster lists the given pods one after the other. -/
def obligingPasses (before : Desk) : List (List Pod) → List Round
  | [] => []
  | listing :: rest =>
    let r := Round.rehearsed .pass (obliging listing) before
    r :: obligingPasses r.after rest

/-- Passes in which everything is acknowledged are a run. -/
theorem run_obligingPasses (first : Desk) (listings : List (List Pod)) :
    Run first (obligingPasses first listings) := by
  induction listings generalizing first with
  | nil => trivial
  | cons listing rest ih => exact ⟨.refl False first, Round.goes_rehearsed False _ _ _, ih _⟩

/-- A pod is listed, is gone, and is listed again. -/
def comeback (modules : List String) : List Round :=
  obligingPasses (Desk.fresh default default)
    [[podOf "p" modules], [], [podOf "p" modules]]

/-- The passes between which the pod goes and comes back are a run. -/
theorem run_comeback (modules : List String) :
    Run (Desk.fresh default default) (comeback modules) :=
  run_obligingPasses _ _

/-- A pod with a module gets a status again when it comes back.  A pod without modules does not. -/
theorem returned_written_modules :
    (comeback ["m"])[2].Writes (podOf "p" ["m"]) ∧ ¬ (comeback [])[2].Writes (podOf "p" []) := by
  constructor
  · have run : Run (comeback ["m"])[0].after ((comeback ["m"])[1] :: [] ++ [(comeback ["m"])[2]]) :=
      (run_comeback ["m"]).2.2
    have gone : ∀ r ∈ [(comeback ["m"])[1]], Gone r.listing "default/p" := by decide
    have forgotten : ∃ r ∈ (comeback ["m"])[1] :: [] ++ [(comeback ["m"])[2]],
        r.Forgets "default/p" := by decide
    obtain ⟨pod, -, -, -, cached, written, -⟩ :=
      returned_written run (by decide) gone (by decide)
    have is : (comeback ["m"])[2].after.ledger.pods.get? "default/p" = some (podOf "p" ["m"]) := by
      decide
    obtain rfl : pod = podOf "p" ["m"] := Option.some.inj (cached.symm.trans is)
    exact written forgotten
  · have run : Run (comeback [])[0].after ((comeback [])[1] :: [] ++ [(comeback [])[2]]) :=
      (run_comeback []).2.2
    have quiet : (comeback [])[2].Goes True := Round.goes_rehearsed _ _ _ _
    have gone : ∀ r ∈ [(comeback [])[1]], Gone r.listing "default/p" := by decide
    have same : ¬ ((∃ r ∈ (comeback [])[1] :: [] ++ [(comeback [])[2]], r.Forgets "default/p") ∨
        (comeback [])[1].before.ledger.written.get? "default/p" ≠
          some ((comeback [])[2].after.statusOf (podOf "p" []))) := by decide
    obtain ⟨pod, -, -, -, cached, -, written⟩ :=
      returned_written run (by decide) gone (by decide)
    have is : (comeback [])[2].after.ledger.pods.get? "default/p" = some (podOf "p" []) := by
      decide
    obtain rfl : pod = podOf "p" [] := Option.some.inj (cached.symm.trans is)
    rw [written quiet (by decide)]
    exact same

/-- So it is not true that from an empty ledger on a status is written for every pod that is listed
again after its key was gone. -/
theorem exists_unwritten :
    ¬ ∀ (first : Desk) (early : List Round) (q r : Round) (pod : Pod),
      first.ledger = .empty → Run first (early ++ [q, r]) →
      q.listing?.isSome = true → Gone q.listing pod.key → Distinct r.listing →
      pod ∈ r.listing → pod.isTerminating = false → r.Writes pod := by
  intro h
  have run : Run (Desk.fresh default default)
      ([(comeback [])[0]] ++ [(comeback [])[1], (comeback [])[2]]) := run_comeback []
  have said := h _ _ _ _ (podOf "p" []) rfl run (by decide) (by decide) (by decide) (by decide)
    (by decide)
  revert said
  decide

end VirtualNode.Controller
