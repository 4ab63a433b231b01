import VirtualNode.Proofs.Ledger.Attempts

/-!
# Why claims change

In a pass a key loses a claim only by letting go of it, and gains one only by taking it up.  Both
are episodes of the pass: the one ends with the module being used elsewhere or with an uninstall
that was acknowledged, and the other one with the module being reported or held elsewhere or with an
install that was acknowledged.  A claim whose uninstall failed stays, unless the same pass has tried
again and succeeded; and whatever is done on behalf of one key leaves the claims of all others
alone.

Main statement: `claims_accounted`, for every pass that follows a run from an empty ledger on.
-/

set_option autoImplicit false

namespace VirtualNode.Controller

open Biz (Descriptor)
open Dialogue (Course IsEpisode Passage)
open Dialogue.Course (bind_iff done_iff)
open Kube (Pod)

variable {still : Prop} {listing : List Pod} {s t : Desk} {record : List Moment} {key : String}
  {e : Descriptor}

/-! ## Letting go and taking up -/

/-- An episode in which a key lets go of a claim: in the end the module is used elsewhere, or an
uninstall was acknowledged. -/
structure LetsGo (still : Prop) (listing : List Pod) (key : String) (e : Descriptor) {α : Type}
    (whole : Passage Call Call.Answer Desk α) (part : Passage Call Call.Answer Desk Bool) : Prop where
  task : part.task = release listing key e
  result : part.result = true
  episode : IsEpisode (Desk.Aside still) part whole
  why : UsedElsewhere listing part.after key e ∨
    part.record.filterMap Moment.command? = [⟨.uninstall, key, e, true⟩]

/-- An episode in which a key takes up a claim: in the end the base reports the module or another
key holds it, or an install was acknowledged. -/
structure TakesUp (still : Prop) (key : String) (e : Descriptor) {α : Type}
    (whole : Passage Call Call.Answer Desk α) (part : Passage Call Call.Answer Desk Bool) : Prop where
  task : part.task = acquire key e
  result : part.result = true
  episode : IsEpisode (Desk.Aside still) part whole
  why : part.after.books.Reports e ∨ part.after.books.HeldElsewhere key e ∨
    part.record.filterMap Moment.command? = [⟨.install, key, e, true⟩]

section Episodes

variable {α β : Type} {whole : Passage Call Call.Answer Desk α}
  {outer : Passage Call Call.Answer Desk β} {part : Passage Call Call.Answer Desk Bool}

/-- What is let go of in an episode is let go of in the whole. -/
theorem LetsGo.trans (lets_go : LetsGo still listing key e whole part)
    (inside : IsEpisode (Desk.Aside still) whole outer) :
    LetsGo still listing key e outer part :=
  ⟨lets_go.task, lets_go.result, lets_go.episode.trans inside, lets_go.why⟩

/-- What is taken up in an episode is taken up in the whole. -/
theorem TakesUp.trans (takes_up : TakesUp still key e whole part)
    (inside : IsEpisode (Desk.Aside still) whole outer) : TakesUp still key e outer part :=
  ⟨takes_up.task, takes_up.result, takes_up.episode.trans inside, takes_up.why⟩

/-- A release that succeeds lets go of the module, for a good reason. -/
theorem letsGo_of_release
    (course : Course (Desk.Aside still) (release listing key e) s record true t) :
    LetsGo still listing key e ⟨release listing key e, s, record, true, t⟩
      ⟨release listing key e, s, record, true, t⟩ := by
  refine ⟨rfl, rfl, .self course, ?_⟩
  rcases release_ways course with ⟨used, -, -⟩ | ⟨-, commands⟩
  · refine .inl ?_
    have claims := fun other => (claims_of_tours course (release_within listing key e)
      (List.not_mem_nil (a := other))).1
    rwa [usedElsewhere_of_frame fun other _ => claims other]
  · exact .inr commands

/-- An acquisition that succeeds takes the module up, for a good reason. -/
theorem takesUp_of_acquire (course : Course (Desk.Aside still) (acquire key e) s record true t) :
    TakesUp still key e ⟨acquire key e, s, record, true, t⟩
      ⟨acquire key e, s, record, true, t⟩ := by
  refine ⟨rfl, rfl, .self course, ?_⟩
  rcases acquire_ways course with ⟨present, -, -⟩ | commands
  · exact present.imp_right .inl
  · exact .inr (.inr commands)

end Episodes

/-! ## What changes in a visit -/

/-- A claim that is not retained is not desired and was let go of. -/
theorem letsGo_of_retain {desired : List Descriptor}
    (course : Course (Desk.Aside still) (retain listing key desired e) s record false t) :
    desired.any (·.same e) = false ∧ ∃ part, LetsGo still listing key e
      ⟨retain listing key desired e, s, record, false, t⟩ part := by
  rw [retain] at course ⊢
  split at course
  · obtain ⟨-, impossible, -⟩ := done_iff.1 course
    simp at impossible
  · rename_i unwished
    rw [if_neg unwished]
    obtain ⟨early, gone, s₁, late, rfl, given_up, answered⟩ := bind_iff.1 course
    obtain ⟨rfl, answer, rfl⟩ := done_iff.1 answered
    obtain rfl : gone = true := by simpa using answer
    exact ⟨by simpa using unwished, _,
      (letsGo_of_release given_up).trans (.bind_left (.self given_up) answered)⟩

/-- A claim that is missing after a sweep is not desired and was let go of. -/
theorem releaseUndesired_lost {desired previous held : List Descriptor}
    (course : Course (Desk.Aside still) (releaseUndesired listing key desired previous) s record
      held t) (mem : e ∈ previous) (lost : e ∉ held) :
    desired.any (·.same e) = false ∧ ∃ part, LetsGo still listing key e
      ⟨releaseUndesired listing key desired previous, s, record, held, t⟩ part := by
  induction previous generalizing s record held with
  | nil => simp at mem
  | cons d rest ih =>
    obtain ⟨early, kept, s₁, _, rfl, retained, course₁⟩ := bind_iff.1 course
    obtain ⟨late, held', s₂, _, rfl, released, ended⟩ := bind_iff.1 course₁
    obtain ⟨rfl, rfl, rfl⟩ := done_iff.1 ended
    have lost' : e ∉ held' := by
      intro mem'
      cases kept <;> simp [mem'] at lost
    rcases List.mem_cons.1 mem with rfl | mem
    · obtain rfl : kept = false := by
        cases kept <;> simp at lost ⊢
      obtain ⟨unwished, part, lets_go⟩ := letsGo_of_retain retained
      exact ⟨unwished, part, lets_go.trans (.bind_left (.self retained) course₁)⟩
    · obtain ⟨unwished, part, lets_go⟩ := ih released mem lost'
      exact ⟨unwished, part,
        lets_go.trans (.bind_right retained (.bind_left (.self released) ended))⟩

/-- A claim that is new after a fetch was missing and was taken up. -/
theorem acquireMissing_gained {held missing result : List Descriptor}
    (course : Course (Desk.Aside still) (acquireMissing key held missing) s record result t)
    (mem : e ∈ result) (new : e ∉ held) :
    e ∈ missing ∧ ∃ part, TakesUp still key e
      ⟨acquireMissing key held missing, s, record, result, t⟩ part := by
  induction missing generalizing s record held with
  | nil =>
    obtain ⟨rfl, rfl, -⟩ := done_iff.1 course
    exact absurd mem new
  | cons d rest ih =>
    rw [acquireMissing] at course ⊢
    split at course
    · rename_i present
      rw [if_pos present]
      obtain ⟨missed, part, takes_up⟩ := ih course new
      exact ⟨List.mem_cons_of_mem _ missed, part, takes_up⟩
    · rename_i absent
      rw [if_neg absent]
      obtain ⟨early, stands, s₁, late, rfl, acquired, course₁⟩ := bind_iff.1 course
      by_cases at_once : e ∈ if stands then held ++ [d] else held
      · obtain ⟨rfl, rfl⟩ : stands = true ∧ e = d := by
          cases stands <;> simp_all
        exact ⟨List.mem_cons_self, _,
          (takesUp_of_acquire acquired).trans (.bind_left (.self acquired) course₁)⟩
      · obtain ⟨missed, part, takes_up⟩ := ih course₁ at_once
        exact ⟨List.mem_cons_of_mem _ missed, part,
          takes_up.trans (.bind_right acquired (.self course₁))⟩

section Visits

variable {v : Visit}

/-- A claim that a visit loses is for no module that is desired, and was let go of. -/
theorem Visit.Goes.lost (goes : v.Goes still listing) (mem : e ∈ v.before.books.claims v.key)
    (lost : e ∉ v.after.books.claims v.key) :
    v.desired.any (·.same e) = false ∧
      ∃ part, LetsGo still listing v.key e (v.passage listing) part := by
  obtain ⟨swept, fetched, kept, served⟩ := goes.served
  obtain ⟨⟨_, s₁, early, swept_held, s₂⟩, fetch, stages⟩ := goes.stages
  obtain ⟨sweeping, fetching, first, second, -, -, held, -, -⟩ := stages
  dsimp only at sweeping fetching
  subst sweeping
  have fetched : Course (Desk.Aside still) fetch.task _ _ _ _ := second.goes
  rw [fetching] at fetched
  -- a fetch only adds, so that what is missing in the end was missing after the sweep
  have lost' : e ∉ swept_held := by
    intro mem'
    have still_held := (acquireMissing_fetch fetched).subset mem'
    rw [held, ← served.held] at still_held
    exact lost still_held
  obtain ⟨unwished, part, lets_go⟩ := releaseUndesired_lost first.goes mem lost'
  exact ⟨unwished, part, lets_go.trans first⟩

/-- A claim that a visit gains is for a module that is desired, and was taken up. -/
theorem Visit.Goes.gained (goes : v.Goes still listing) (new : e ∉ v.before.books.claims v.key)
    (mem : e ∈ v.after.books.claims v.key) :
    e ∈ v.desired ∧ ∃ part, TakesUp still v.key e (v.passage listing) part := by
  obtain ⟨swept, fetched, kept, served⟩ := goes.served
  obtain ⟨sweep, ⟨_, s₁, late, result, s₂⟩, stages⟩ := goes.stages
  obtain ⟨sweeping, fetching, first, second, -, -, held, -, -⟩ := stages
  dsimp only at fetching held
  subst fetching held
  have swept : Course (Desk.Aside still) sweep.task _ _ _ _ := first.goes
  rw [sweeping] at swept
  have new' : e ∉ sweep.result := fun mem' => new ((releaseUndesired_sweep swept).sublist.subset mem')
  rw [served.held] at mem
  obtain ⟨missed, part, takes_up⟩ := acquireMissing_gained second.goes mem new'
  exact ⟨missed, part, takes_up.trans second⟩

end Visits

/-! ## What changes in a pass -/

/-- A round as a passage of the controller's work. -/
def Round.passage (r : Round) : Passage Call Call.Answer Desk Unit :=
  ⟨r.task.activity, r.before, r.record, (), r.after⟩

/-- What changes of the claims of a key changes in a visit of the key. -/
theorem Chain.exists_change {visits : List Visit} (chain : Chain still listing s visits t)
    {P : List Descriptor → Prop} (before : P (s.books.claims key))
    (after : ¬ P (t.books.claims key)) :
    ∃ v ∈ visits, v.key = key ∧ P (v.before.books.claims key) ∧ ¬ P (v.after.books.claims key) := by
  induction chain with
  | last keeps => exact absurd before (books_claims_of_get? (keeps.claims key) ▸ after)
  | @next s t v visits keeps goes _ ih =>
    have before' : P (v.before.books.claims key) := by
      rwa [books_claims_of_get? (keeps.claims key)]
    -- either it has not happened yet, or it was this visit, and so a visit of the key
    by_cases still_so : P (v.after.books.claims key)
    · obtain ⟨w, mem, changed⟩ := ih still_so after
      exact ⟨w, List.mem_cons_of_mem _ mem, changed⟩
    · refine ⟨v, List.mem_cons_self, ?_, before', still_so⟩
      by_contra other
      obtain ⟨swept, fetched, kept, served⟩ := goes.served
      rw [books_claims_of_get? (served.frame key (Ne.symm other))] at still_so
      exact still_so before'

section Pass

variable {r : Round}

/-- A claim that is lost in a round with a listing is not wanted and was let go of. -/
theorem Round.Goes.lost (goes : r.Goes still) (listed : r.listing? = some listing)
    (distinct : Distinct listing) (mem : e ∈ r.before.books.claims key)
    (lost : e ∉ r.after.books.claims key) :
    ¬ WantedBy listing key e ∧ ∃ part, LetsGo still listing key e r.passage part := by
  obtain ⟨first, middle, later, itinerary, tour⟩ := goes.itinerary listed
  have chain := itinerary.chain.append itinerary.chain'
  obtain ⟨v, visited, rfl, mem', lost'⟩ := chain.exists_change (P := (e ∈ ·)) mem lost
  have went := chain.goes v visited
  obtain ⟨unwished, part, lets_go⟩ := went.lost mem' lost'
  refine ⟨?_, part, lets_go.trans (tour.isEpisode visited)⟩
  rcases List.mem_append.1 visited with mem | mem
  · obtain ⟨pod, here, mine, desired⟩ := itinerary.desired mem
    rw [mine, distinct.wantedBy_iff here, Pod.not_wants_iff, ← desired]
    exact unwished
  · exact (itinerary.gone v mem).1.not_wantedBy e

/-- A claim that is gained in a round with a listing is wanted and was taken up. -/
theorem Round.Goes.gained (goes : r.Goes still) (listed : r.listing? = some listing)
    (new : e ∉ r.before.books.claims key) (mem : e ∈ r.after.books.claims key) :
    WantedBy listing key e ∧ ∃ part, TakesUp still key e r.passage part := by
  obtain ⟨first, middle, later, itinerary, tour⟩ := goes.itinerary listed
  have chain := itinerary.chain.append itinerary.chain'
  obtain ⟨v, visited, rfl, new', mem'⟩ := chain.exists_change (P := (e ∉ ·)) new (not_not_intro mem)
  have went := chain.goes v visited
  obtain ⟨wished, part, takes_up⟩ := went.gained new' (not_not.1 mem')
  refine ⟨?_, part, takes_up.trans (tour.isEpisode visited)⟩
  rcases List.mem_append.1 visited with mem | mem
  · obtain ⟨pod, here, mine, desired⟩ := itinerary.desired mem
    exact ⟨pod, here, mine.symm, Pod.wants_iff.2 ⟨e, desired ▸ wished, e.same_self⟩⟩
  · simp [(itinerary.gone v mem).2] at wished

/-- A second uninstall decides on the claim of a pod that is being deleted. -/
theorem Dying.claimed {d : Descriptor} {early late : List Command}
    (dying : Dying key d t (early ++ ⟨.uninstall, key, e, false⟩ :: late))
    (never : ⟨.uninstall, key, e, true⟩ ∉ late) : e ∈ t.books.claims key := by
  generalize whole : early ++ ⟨.uninstall, key, e, false⟩ :: late = tried at dying
  cases dying with
  | untried => simp at whole
  | delivered x =>
    obtain ⟨-, is, -⟩ := append_cons_eq_singleton whole
    cases is
  | again x delivered kept =>
    cases early with
    | nil =>
      obtain ⟨is, rfl⟩ := List.cons.inj whole
      obtain rfl : e = x := congrArg Command.target is
      cases delivered with
      | true => exact absurd List.mem_cons_self never
      | false => exact kept rfl
    | cons c early =>
      obtain ⟨-, is, -⟩ := append_cons_eq_singleton (List.cons.inj whole).2
      cases is
      exact kept rfl

/-- A claim whose uninstall failed stays, unless a later uninstall was acknowledged. -/
theorem Round.Goes.claimed_of_failed (goes : r.Goes still) (listed : r.listing? = some listing)
    (distinct : Distinct listing) (neat : r.before.Neat) {early late : List Command}
    (tried : tries key e r.record = early ++ ⟨.uninstall, key, e, false⟩ :: late)
    (never : ⟨.uninstall, key, e, true⟩ ∉ late) : e ∈ r.after.books.claims key := by
  obtain ⟨first, middle, later, itinerary, tour⟩ := goes.itinerary listed
  by_cases alive : ∀ pod ∈ listing, pod.key = key → pod.isTerminating = false
  · refine (itinerary.living tour distinct neat alive e).2 e ?_
    rw [tried]
    simp
  · obtain ⟨pod, here, rfl, terminating⟩ : ∃ pod ∈ listing, pod.key = key ∧
        pod.isTerminating = true := by simpa using alive
    have dying := itinerary.dying tour distinct neat here terminating e
    rw [tried] at dying
    exact dying.claimed never

end Pass

/-! ## Neat at every moment -/

/-- Whether the claims are neat before and after a round, and whenever a call is made. -/
structure Round.Neat (r : Round) : Prop where
  before : r.before.Neat
  amid : ∀ moment ∈ r.record, moment.state.Neat
  after : r.after.Neat

/-- The claims are neat as well while those of one key are taken out. -/
theorem Visit.Goes.neat_amid {v : Visit} (goes : v.Goes still listing) (neat : v.before.Neat) :
    ∀ moment ∈ v.record, moment.state.Neat := by
  obtain ⟨swept, fetched, kept, served⟩ := goes.served
  intro moment mem
  have claims := served.amid moment mem
  refine ⟨fun other => ?_, fun other => ?_⟩
  · by_cases is : other = v.key
    · simp [Desk.books, Ledger.claimsOf, claims, is]
    · simpa [Desk.books, Ledger.claimsOf, claims, is] using neat.tidy other
  · rw [claims]
    by_cases is : other = v.key
    · simp [is]
    · simpa [is] using neat.occupied other

/-- A neat desk is neat all the time while nothing touches its claims. -/
theorem Quiet.neat_amid (quiet : Quiet still s record t) (neat : s.Neat) :
    ∀ moment ∈ record, moment.state.Neat :=
  fun moment mem => neat.keeps (quiet.amid moment mem)

/-- A neat desk is neat whenever a tour makes a call. -/
theorem Tour.neat_amid {α : Type} {task : Activity α} {visits : List Visit} {a : α}
    (tour : Tour still listing task s record visits a t) (neat : s.Neat) :
    ∀ moment ∈ record, moment.state.Neat := by
  induction tour with
  | rest _ quiet => exact quiet.neat_amid neat
  | @visit _ _ _ early late v _ visits _ _ quiet goes _ ih =>
    have before := neat.keeps quiet.keeps
    rw [List.forall_mem_append, List.forall_mem_append]
    exact ⟨⟨quiet.neat_amid neat, goes.neat_amid before⟩, ih (goes.neat before)⟩

/-- A neat desk is neat whenever a pass makes a call. -/
theorem Round.Goes.neat_amid {r : Round} (goes : r.Goes still) (neat : r.before.Neat) :
    r.Neat := by
  refine ⟨neat, ?_, goes.neat neat⟩
  obtain ⟨task, before, record, after⟩ := r
  cases task with
  | pass =>
    rcases reconcile_itinerary goes with ⟨_, -, _, _, _, -, tour⟩ | ⟨-, quiet⟩
    · exact tour.neat_amid neat
    · exact quiet.neat_amid neat
  | push => exact (pushStatuses_quiet goes).neat_amid neat

/-- Every round of a run from an empty ledger on is neat. -/
theorem Run.neat_rounds {first : Desk} {rounds : List Round} (run : Run first rounds)
    (begun : first.ledger = .empty) : ∀ r ∈ rounds, r.Neat := by
  intro r mem
  obtain ⟨early, late, rfl⟩ := List.append_of_mem mem
  obtain ⟨run, meanwhile, goes, -⟩ := run_append.1 run
  exact goes.neat_amid ((run.neat begun).keeps (.of_aside meanwhile))

/-! ## Every change is accounted for -/

/-- Whether an activity never changes the claims of another key: in all its courses they are the
same in the end and whenever a call is made. -/
def SparesOthers {α : Type} (key : String) (task : Activity α) : Prop :=
  ∀ (s t : Desk) (record : List Moment) (a : α),
    Course (Desk.Aside False) task s record a t → ∀ other, other ≠ key →
      t.ledger.claims.get? other = s.ledger.claims.get? other ∧
        ∀ moment ∈ record, moment.state.ledger.claims.get? other = s.ledger.claims.get? other

/-- An activity that tours the claims of one key spares the others. -/
theorem sparesOthers_of_within {α : Type} {task : Activity α} {forgotten : List String}
    {Q : Call → Prop} (within : ∀ s, task.Within (Desk.Tours [key] forgotten) Q s) :
    SparesOthers key task :=
  fun s _ _ _ course _ ne => claims_of_tours course (within s) (by simpa using ne)

/-- How the claims after a pass come from those before it. -/
structure Accounted (listing : List Pod) (r : Round) : Prop where
  /-- What is lost is not wanted by a pod of the key that is alive, and was let go of. -/
  lost : ∀ key, ∀ e ∈ r.before.books.claims key, e ∉ r.after.books.claims key →
    ¬ WantedBy listing key e ∧ ∃ part, LetsGo False listing key e r.passage part
  /-- What is gained is wanted by a pod of the key that is alive, and was taken up. -/
  gained : ∀ key, ∀ e ∈ r.after.books.claims key, e ∉ r.before.books.claims key →
    WantedBy listing key e ∧ ∃ part, TakesUp False key e r.passage part
  /-- What could not be uninstalled, and was not uninstalled later on, is kept. -/
  failed : ∀ early moment late key e, r.record = early ++ moment :: late →
    Moment.command? moment = some ⟨.uninstall, key, e, false⟩ →
    (∀ later ∈ late, Moment.command? later ≠ some ⟨.uninstall, key, e, true⟩) →
    e ∈ r.after.books.claims key
  synced : ∀ pod, SparesOthers pod.key (syncPod listing pod)
  dismissed : ∀ pod, SparesOthers pod.key (dismissPod listing pod)
  vanished : ∀ key, SparesOthers key (releaseAll listing key)

/-- Every change that a pass makes in the claims is accounted for. -/
theorem Round.Goes.accounted {r : Round} (goes : r.Goes False) (listed : r.listing? = some listing)
    (distinct : Distinct listing) (neat : r.before.Neat) : Accounted listing r where
  lost _ _ mem lost := goes.lost listed distinct mem lost
  gained _ _ mem new := goes.gained listed new mem
  failed early moment late key e record command never := by
    have concerns : Command.concerns key e ⟨.uninstall, key, e, false⟩ = true :=
      Command.concerns_iff.2 ⟨rfl, e.same_self⟩
    have tried : tries key e r.record =
        tries key e early ++ ⟨.uninstall, key, e, false⟩ :: tries key e late := by
      simp [tries, record, command, concerns]
    refine goes.claimed_of_failed listed distinct neat tried fun mem => ?_
    obtain ⟨later, here, is⟩ := List.mem_filterMap.1 (List.mem_filter.1 mem).1
    exact never later here is
  synced pod := sparesOthers_of_within fun _ => syncPod_within listing pod
  dismissed pod := sparesOthers_of_within fun _ => dismissPod_within listing pod
  vanished key := sparesOthers_of_within fun _ => releaseAll_within listing key

/-- Take any run of rounds from an empty ledger on, and a round whose listing has distinct keys.
All changes of the claims are accounted for, and in no round of the run, at no moment, a key has a
module twice or an empty list. -/
theorem claims_accounted {first : Desk} {rounds : List Round} {r : Round}
    (begun : first.ledger = .empty) (run : Run first (rounds ++ [r]))
    (listed : r.listing? = some listing) (distinct : Distinct listing) :
    Accounted listing r ∧ ∀ q ∈ rounds ++ [r], q.Neat := by
  have neat := run.neat_rounds begun
  have goes := run.goes r (by simp)
  exact ⟨goes.accounted listed distinct (neat r (by simp)).before, neat⟩

/-- Two pods share a module; then one of them wants another module instead, and the other one has a
module less. -/
def sharing : List Round :=
  passesOver (Desk.fresh default default)
    [([podOf "p" ["m"], podOf "q" ["m", "n"]], fun _ => true),
      ([podOf "p" ["k"], podOf "q" ["m"]], fun _ => true)]

/-- Two pods exchange modules in one pass, and every change is accounted for. -/
theorem claims_accounted_sharing :
    ((sharing[1].before.books.claims "default/p" = [moduleOf "m"] ∧
        sharing[1].before.books.claims "default/q" = [moduleOf "m", moduleOf "n"]) ∧
      (sharing[1].after.books.claims "default/p" = [moduleOf "k"] ∧
        sharing[1].after.books.claims "default/q" = [moduleOf "m"])) ∧
      Accounted [podOf "p" ["k"], podOf "q" ["m"]] sharing[1] ∧
        ∀ q ∈ [sharing[0]] ++ [sharing[1]], q.Neat := by
  have run : Run (Desk.fresh default default) ([sharing[0]] ++ [sharing[1]]) := by
    have run : Run (Desk.fresh default default) sharing := run_passesOver _ _
    exact run
  exact ⟨by decide, claims_accounted rfl run rfl (by decide)⟩

end VirtualNode.Controller
