import VirtualNode.Proofs.Frames
import VirtualNode.Proofs.Interleaving.Contract

/-!
# Subscriptions follow the session

A new session of the transport begins without subscriptions.  Whenever the controller takes itself
to be subscribed and the renewal of subscriptions has no connect to see, both topics of the base
should have been acknowledged for calls of this session.

That holds (`subscribed_in_session`) unless the last connect came at a time at which nobody acts on
it (`Affairs.Struck`): in the course of an attempt that the start of the run or a pass had begun, or
after such an attempt had worked but before the renewal looked for the first time.  What was
acknowledged before the connect is then not asked for again, although the attempt as a whole counts
as a success.  For attempts of the renewal itself there is no exception, because a connect that
comes meanwhile is still to be seen, and such an attempt also repairs a session that was struck
(`Renewed`).

The law of `sessionContract` is this statement.  What carries it through an attempt to subscribe is
`HeardOr`: the topics so far were acknowledged in this session, or there is an excuse.
-/

set_option autoImplicit false

namespace VirtualNode.Controller

open Contract (abides_bind abides_change abides_desk abides_mono abides_of_within)

/-! ## Topics that were acknowledged -/

/-- Whether a call to subscribe to the topic was acknowledged. -/
def Moment.subscribes (purpose : Topic.Purpose) : Moment → Bool
  | ⟨⟨.subscribe topic, .ok _⟩, _⟩ => topic = purpose
  | _ => false

/-- A call of this session to subscribe to the topic was acknowledged. -/
def Affairs.Listens (i : Affairs) (purpose : Topic.Purpose) : Prop :=
  ∃ moment ∈ i.record, moment.subscribes purpose = true ∧ moment.state.sessions = i.desk.sessions

instance (i : Affairs) (purpose : Topic.Purpose) : Decidable (i.Listens purpose) :=
  inferInstanceAs (Decidable (∃ moment ∈ i.record, _))

/-- Whether a call belongs to an attempt to subscribe: the attempt waits for the broker, or for its
turn to note what the broker has said. -/
def Call.isSubscribe : Call → Bool
  | .subscribe _ | .noting => true
  | _ => false

/-- The last connect came in the course of an attempt to subscribe that the start of the run or a
pass had begun, or after such an attempt had worked but before the renewal had seen any connect. -/
def Affairs.Struck (i : Affairs) : Prop :=
  (∃ strand ∈ [Strand.life, .loop .reconcile],
    (i.lastConnect.calls strand).any Call.isSubscribe = true) ∨
  (i.lastConnect.desk.subscribed = true ∧ i.lastConnect.desk.sessionsSeen = 0)

instance (i : Affairs) : Decidable i.Struck :=
  inferInstanceAs (Decidable ((∃ strand ∈ [Strand.life, .loop .reconcile], _) ∨ _))

/-- The renewal has no connect to see: it has not looked yet, or it has seen all of them. -/
def Affairs.UpToDate (i : Affairs) : Prop :=
  i.desk.sessionsSeen = 0 ∨ i.desk.sessionsSeen = i.desk.sessions

instance (i : Affairs) : Decidable i.UpToDate := inferInstanceAs (Decidable (_ ∨ _))

/-- The topics were acknowledged in this session, or there is an excuse. -/
def HeardOr (excuse : Affairs → Prop) (purposes : List Topic.Purpose) (i : Affairs) : Prop :=
  excuse i ∨ ∀ purpose ∈ purposes, i.Listens purpose

/-- The subscriptions are those of the session, so far as can be known. -/
structure Affairs.Linked (i : Affairs) : Prop where
  sessions_pos : 0 < i.desk.sessions
  seen_le : i.desk.sessionsSeen ≤ i.desk.sessions
  heard : i.desk.subscribed = true → i.UpToDate → HeardOr Affairs.Struck listened i

/-! ## Steps that concern no subscription -/

/-- At most calls were answered, or the desk was changed in other respects. -/
structure Affairs.Onward (i j : Affairs) : Prop where
  link : j.desk.link = i.desk.link
  lastConnect : j.lastConnect = i.lastConnect
  record : i.record <+: j.record

namespace Affairs

variable {i j : Affairs}

/-- What concerns no subscription makes no connect. -/
theorem Onward.sessions (onward : i.Onward j) : j.desk.sessions = i.desk.sessions :=
  congrArg Link.sessions onward.link

/-- What concerns no subscription sees no connect. -/
theorem Onward.sessionsSeen (onward : i.Onward j) :
    j.desk.sessionsSeen = i.desk.sessionsSeen :=
  congrArg Link.sessionsSeen onward.link

/-- A change of the desk in other respects concerns no subscription. -/
theorem onward_withDesk {d : Desk} (link : d.link = i.desk.link) : i.Onward (i.withDesk d) :=
  ⟨link, rfl, List.prefix_rfl⟩

/-- A further change of the desk in other respects concerns no subscription. -/
theorem Onward.withDesk (onward : i.Onward j) (f : Desk → Desk)
    (link : (f j.desk).link = j.desk.link) : i.Onward (j.withDesk (f j.desk)) :=
  ⟨link.trans onward.link, onward.lastConnect, onward.record⟩

/-- An answer takes no subscription away. -/
theorem onward_note (moment : Moment) : i.Onward (i.note moment) :=
  ⟨rfl, rfl, List.prefix_append _ _⟩

/-- What was acknowledged stays acknowledged until the next connect. -/
theorem Listens.later {purpose : Topic.Purpose} (listens : i.Listens purpose)
    (sessions : j.desk.sessions = i.desk.sessions) (record : i.record <+: j.record) :
    j.Listens purpose := by
  obtain ⟨moment, mem, subscribes, session⟩ := listens
  exact ⟨moment, record.subset mem, subscribes, session.trans sessions.symm⟩

/-- A session that was struck stays so. -/
theorem Struck.later (struck : i.Struck) (lastConnect : j.lastConnect = i.lastConnect) :
    j.Struck := by
  unfold Struck at struck ⊢
  rw [lastConnect]
  exact struck

/-- The renewal is up to date for as long as nothing concerns the subscriptions. -/
theorem Onward.upToDate_iff (onward : i.Onward j) : j.UpToDate ↔ i.UpToDate := by
  unfold UpToDate
  rw [onward.sessionsSeen, onward.sessions]

/-- Topics that were acknowledged, or are excused, stay so until the next connect. -/
theorem heardOr_later {excuse excuse' : Affairs → Prop} {purposes : List Topic.Purpose}
    (heard : HeardOr excuse purposes i) (excused : excuse i → excuse' j)
    (sessions : j.desk.sessions = i.desk.sessions) (record : i.record <+: j.record) :
    HeardOr excuse' purposes j :=
  heard.imp excused fun listens purpose mem => (listens purpose mem).later sessions record

/-- What concerns no subscription leaves the topics acknowledged, or excused. -/
theorem Onward.heardOr {excuse : Affairs → Prop} {purposes : List Topic.Purpose}
    (onward : i.Onward j) (excused : excuse i → excuse j) (heard : HeardOr excuse purposes i) :
    HeardOr excuse purposes j :=
  heardOr_later heard excused onward.sessions onward.record

/-- What concerns no subscription keeps the law. -/
theorem Onward.linked (onward : i.Onward j) (linked : i.Linked) : j.Linked := by
  have subscribed : j.desk.subscribed = i.desk.subscribed := congrArg Link.subscribed onward.link
  constructor
  · rw [onward.sessions]
    exact linked.sessions_pos
  · rw [onward.sessionsSeen, onward.sessions]
    exact linked.seen_le
  · rw [subscribed, onward.upToDate_iff]
    intro believed upToDate
    exact onward.heardOr (fun struck => struck.later onward.lastConnect)
      (linked.heard believed upToDate)

end Affairs

/-! ## The contract -/

/-- What a strand does in one go: it makes no connects, and only the renewal says which connects
have been seen. -/
structure Tidies (strand : Strand) (i j : Affairs) : Prop where
  sessions : j.desk.sessions = i.desk.sessions
  lastConnect : j.lastConnect = i.lastConnect
  record : i.record <+: j.record
  seen : strand ≠ .loop .renewal → j.desk.sessionsSeen = i.desk.sessionsSeen

/-- What may happen while a strand waits for the answer to a call: a connect comes upon this call.
Neither while the run starts nor while the renewal waits does anybody else see a connect. -/
structure Awaits (strand : Strand) (call : Call) (i j : Affairs) : Prop where
  sessions_le : i.desk.sessions ≤ j.desk.sessions
  record : i.record <+: j.record
  quiet : j.desk.sessions = i.desk.sessions → j.lastConnect = i.lastConnect
  struck : i.desk.sessions < j.desk.sessions → j.lastConnect.calls strand = some call
  seen : strand = .life ∨ strand = .loop .renewal →
    j.desk.sessionsSeen = i.desk.sessionsSeen

/-- When the renewal has tried to subscribe, takes the controller to be subscribed and has seen all
connects, both topics were acknowledged in this session. -/
def Affairs.Closed (i : Affairs) : Prop :=
  (∃ moment, i.record.getLast? = some moment ∧ moment.question = .noting) →
    i.desk.subscribed = true → i.desk.sessionsSeen = i.desk.sessions →
      ∀ purpose ∈ listened, i.Listens purpose

/-- Who does what about sessions and subscriptions. -/
def sessionContract : Contract where
  law := Affairs.Linked
  own := Tidies
  rely := Awaits
  idle i := i.desk.sessionsSeen = 0
  rest _ _ := True
  close name i := name = .renewal → i.Closed

variable {strand : Strand} {call : Call} {i j k : Affairs}

/-- To do nothing is tidy. -/
theorem Tidies.refl (strand : Strand) (i : Affairs) : Tidies strand i i :=
  ⟨rfl, rfl, List.prefix_rfl, fun _ => rfl⟩

/-- What concerns no subscription is tidy. -/
theorem Tidies.onward (tidies : Tidies strand i j) (onward : j.Onward k) : Tidies strand i k :=
  ⟨onward.sessions.trans tidies.sessions, onward.lastConnect.trans tidies.lastConnect,
    tidies.record.trans onward.record,
    fun other => onward.sessionsSeen.trans (tidies.seen other)⟩

/-- What concerns no subscription may happen while a strand waits. -/
theorem Affairs.Onward.awaits (onward : i.Onward j) : Awaits strand call i j := by
  have sessions := onward.sessions
  refine ⟨by omega, onward.record, fun _ => onward.lastConnect, ?_, fun _ => onward.sessionsSeen⟩
  intro more
  omega

/-- Nothing may happen while a strand waits. -/
theorem Awaits.refl (strand : Strand) (call : Call) (i : Affairs) : Awaits strand call i i :=
  (Affairs.onward_withDesk rfl).awaits

/-- What may happen while a strand waits may go on. -/
theorem Awaits.trans (first : Awaits strand call i j) (second : Awaits strand call j k) :
    Awaits strand call i k := by
  have le := first.sessions_le
  have le' := second.sessions_le
  refine ⟨by omega, first.record.trans second.record, ?_, ?_, ?_⟩
  · intro same
    exact (second.quiet (by omega)).trans (first.quiet (by omega))
  · intro more
    rcases Nat.lt_or_eq_of_le le' with late | same
    · exact second.struck late
    · rw [second.quiet same.symm]
      exact first.struck (by omega)
  · exact fun is => (second.seen is).trans (first.seen is)

/-- What a loop does may happen while another one waits. -/
theorem Tidies.awaits {name other : LoopName} (differ : other ≠ name)
    (tidies : Tidies (.loop other) i j) : Awaits (.loop name) call i j := by
  have sessions := tidies.sessions
  refine ⟨by omega, tidies.record, fun _ => tidies.lastConnect, ?_, ?_⟩
  · intro more
    omega
  · rintro (is | is)
    · cases is
    · refine tidies.seen fun other_is => differ ?_
      rw [Strand.loop.inj is, Strand.loop.inj other_is]

/-- What comes from outside is a connect or concerns no subscription. -/
theorem Outside.connect_or_onward {heed : Heed} {calls : Strand → Option Call}
    (came : Outside heed calls i j) : j = i.connected calls ∨ i.Onward j := by
  cases came with
  | connect => exact .inl rfl
  | message purpose topic payload => exact .inr (Affairs.onward_withDesk rfl)
  | elapse ms => exact .inr (Affairs.onward_withDesk rfl)
  | cancel => exact .inr (Affairs.onward_withDesk rfl)
  | outcome => exact .inr (Affairs.onward_withDesk rfl)

/-- What comes from outside may happen while a strand waits. -/
theorem Outside.awaits {heed : Heed} {calls : Strand → Option Call} (came : Outside heed calls i j)
    (waits : calls strand = some call) : Awaits strand call i j := by
  rcases came.connect_or_onward with rfl | onward
  · refine ⟨Nat.le_succ _, List.prefix_rfl, ?_, fun _ => waits, fun _ => rfl⟩
    intro same
    exact absurd same (Nat.succ_ne_self _)
  · exact onward.awaits

/-- What comes from outside keeps the law. -/
theorem Outside.linked {heed : Heed} {calls : Strand → Option Call} (came : Outside heed calls i j)
    (linked : i.Linked) : j.Linked := by
  rcases came.connect_or_onward with rfl | onward
  · have seen_le := linked.seen_le
    refine ⟨Nat.succ_pos _, Nat.le_succ_of_le seen_le, ?_⟩
    intro believed upToDate
    rcases upToDate with unlooked | seen
    · exact .inl (.inr ⟨believed, unlooked⟩)
    · -- a connect that has just come has not been seen
      have seen : i.desk.sessionsSeen = i.desk.sessions + 1 := seen
      omega
  · exact onward.linked linked

/-! ## Attempts to subscribe -/

/-- Activities that concern no subscription stick to the contract. -/
theorem abides_of_unlinked {α : Type} {task : Activity α} (unlinked : Unlinked task j.desk)
    (tidies : Tidies strand i j) (linked : j.Linked) :
    sessionContract.Abides strand task i j fun _ i j => Tidies strand i j ∧ j.Linked := by
  refine abides_of_within (P := fun i j => Tidies strand i j ∧ j.Linked) unlinked
    ⟨tidies, linked⟩ ?_ ?_
  · rintro i j d link ⟨tidies, linked⟩
    have onward := Affairs.onward_withDesk link
    exact ⟨tidies.onward onward, onward.linked linked⟩
  · rintro i j call - ⟨tidies, linked⟩
    refine ⟨tidies, linked, ?_⟩
    intro k _ linked answer
    have onward := k.onward_note ⟨⟨call, answer⟩, j.desk⟩
    exact ⟨(Tidies.refl strand k).onward onward, onward.linked linked⟩

/-- What a strand that subscribes knows of the renewal: while the run starts it has seen no connect,
and once it subscribes itself it has seen some. -/
structure Knows (strand : Strand) (i : Affairs) : Prop where
  start : strand = .life → i.desk.sessionsSeen = 0
  renewal : strand = .loop .renewal → 0 < i.desk.sessionsSeen

/-- What is known of the renewal stays known while nobody looks for connects. -/
theorem Knows.later (knows : Knows strand i)
    (seen : strand = .life ∨ strand = .loop .renewal →
      j.desk.sessionsSeen = i.desk.sessionsSeen) : Knows strand j :=
  ⟨fun is => (seen (.inl is)).trans (knows.start is),
    fun is => (seen (.inr is)).symm ▸ knows.renewal is⟩

/-- What may excuse that a topic was not acknowledged in this session: a connect that comes while
the strand waits in the course of its attempt, and nothing takes the excuse away. -/
structure Excuse (strand : Strand) (excuse : Affairs → Prop) : Prop where
  kept : ∀ {i j}, j.desk.sessions = i.desk.sessions →
    j.desk.sessionsSeen = i.desk.sessionsSeen → j.lastConnect = i.lastConnect → excuse i → excuse j
  waiting : ∀ {call i j}, call.isSubscribe = true → Awaits strand call i j → i.Linked →
    Knows strand i → excuse i ∨ i.desk.sessions < j.desk.sessions → excuse j
  /-- The excuse counts at the end of the attempt. -/
  counts : ∀ {i}, excuse i → i.UpToDate → i.Struck

variable {excuse : Affairs → Prop} {done : List Topic.Purpose}

/-- An excuse stays one while nothing concerns the subscriptions. -/
theorem Excuse.onward (E : Excuse strand excuse) (onward : i.Onward j) (excused : excuse i) :
    excuse j :=
  E.kept onward.sessions onward.sessionsSeen onward.lastConnect excused

/-- What was acknowledged in an attempt stays so while it waits, or is excused. -/
theorem Excuse.heardOr (E : Excuse strand excuse) (subscribes : call.isSubscribe = true)
    (awaits : Awaits strand call i j) (before : i.Linked) (knows : Knows strand i)
    (heard : HeardOr excuse done i) : HeardOr excuse done j := by
  rcases Nat.lt_or_eq_of_le awaits.sessions_le with late | same
  · exact .inl (E.waiting subscribes awaits before knows (.inr late))
  · exact Affairs.heardOr_later heard
      (fun excused => E.waiting subscribes awaits before knows (.inl excused)) same.symm
      awaits.record

/-- What is known in the course of an attempt to subscribe. -/
structure Attempt (strand : Strand) (excuse : Affairs → Prop) (done : List Topic.Purpose)
    (i j : Affairs) : Prop where
  tidies : Tidies strand i j
  linked : j.Linked
  knows : Knows strand j
  heard : HeardOr excuse done j

/-- An attempt goes on while nothing concerns the subscriptions. -/
theorem Attempt.onward (E : Excuse strand excuse) (attempt : Attempt strand excuse done i j)
    (onward : j.Onward k) : Attempt strand excuse done i k :=
  ⟨attempt.tidies.onward onward, onward.linked attempt.linked,
    attempt.knows.later fun _ => onward.sessionsSeen,
    onward.heardOr (E.onward onward) attempt.heard⟩

/-- An attempt goes on after it has waited. -/
theorem Attempt.resume (E : Excuse strand excuse) (attempt : Attempt strand excuse done i j)
    (subscribes : call.isSubscribe = true) (awaits : Awaits strand call j k) (linked : k.Linked)
    (moment : Moment) : Attempt strand excuse done k (k.note moment) := by
  have resumed : Attempt strand excuse done k k :=
    ⟨.refl strand k, linked, attempt.knows.later awaits.seen,
      E.heardOr subscribes awaits attempt.linked attempt.knows attempt.heard⟩
  exact resumed.onward E (k.onward_note moment)

/-- A topic that is acknowledged is one more that was, unless there is an excuse. -/
theorem Attempt.acknowledge (E : Excuse strand excuse) {purpose : Topic.Purpose} (outcome : Unit)
    (attempt : Attempt strand excuse done i j) (awaits : Awaits strand (.subscribe purpose) j k)
    (linked : k.Linked) : Attempt strand excuse (done ++ [purpose]) k
      (k.note ⟨⟨.subscribe purpose, .ok outcome⟩, j.desk⟩) := by
  have resumed := attempt.resume E rfl awaits linked
    ⟨⟨.subscribe purpose, .ok outcome⟩, j.desk⟩
  refine ⟨resumed.tidies, resumed.linked, resumed.knows, ?_⟩
  rcases Nat.lt_or_eq_of_le awaits.sessions_le with late | same
  · exact .inl (E.onward (k.onward_note _)
      (E.waiting rfl awaits attempt.linked attempt.knows (.inr late)))
  · refine resumed.heard.imp id ?_
    intro listens other mem
    rcases List.mem_append.1 mem with mem | mem
    · exact listens other mem
    · rw [List.mem_singleton.1 mem]
      exact ⟨_, List.mem_append_right _ (List.mem_singleton_self _),
        by simp [Moment.subscribes], same⟩

/-- The outcome of a call to subscribe is noted, and a topic that was acknowledged stays so. -/
theorem subscribe_abides (E : Excuse strand excuse) (purpose : Topic.Purpose)
    (attempt : Attempt strand excuse done i j) :
    sessionContract.Abides strand (subscribe purpose) i j fun worked i j =>
      Attempt strand excuse (if worked then done ++ [purpose] else done) i j := by
  refine ⟨attempt.tidies, attempt.linked, ?_⟩
  intro k awaits linked answer
  cases answer with
  | error fault =>
    have resumed := attempt.resume E rfl awaits linked
      ⟨⟨.subscribe purpose, .error fault⟩, j.desk⟩
    refine ⟨resumed.tidies, resumed.linked, ?_⟩
    intro l awaits linked answer
    exact (resumed.resume E rfl awaits linked _).onward E (Affairs.onward_withDesk rfl)
  | ok outcome =>
    have resumed := attempt.acknowledge E outcome awaits linked
    refine ⟨resumed.tidies, resumed.linked, ?_⟩
    intro l awaits linked answer
    exact (resumed.resume E rfl awaits linked _).onward E (Affairs.onward_withDesk rfl)

/-- If all calls of an attempt have worked then all topics were acknowledged. -/
theorem subscribeAll_abides (E : Excuse strand excuse) (purposes : List Topic.Purpose)
    (attempt : Attempt strand excuse done i j) :
    sessionContract.Abides strand (subscribeAll purposes) i j fun worked i j =>
      Tidies strand i j ∧ j.Linked ∧ Knows strand j ∧
        (worked = true → HeardOr excuse (done ++ purposes) j) := by
  induction purposes generalizing done i j with
  | nil =>
    refine ⟨attempt.tidies, attempt.linked, attempt.knows, fun _ => ?_⟩
    rw [List.append_nil]
    exact attempt.heard
  | cons purpose rest ih =>
    refine abides_bind.2 (abides_mono (subscribe_abides E purpose attempt) ?_)
    intro worked i j attempt
    refine abides_bind.2 (abides_mono (ih attempt) ?_)
    rintro restWorked i j ⟨tidies, linked, knows, heard⟩
    refine ⟨tidies, linked, knows, fun both => ?_⟩
    obtain ⟨rfl, rfl⟩ := Bool.and_eq_true_iff.1 both
    simpa using heard rfl

/-- The outcome of an attempt is noted. -/
theorem subscribed_abides (E : Excuse strand excuse) (worked : Bool) (tidies : Tidies strand i j)
    (linked : j.Linked) (heard : worked = true → HeardOr excuse listened j) :
    sessionContract.Abides strand (Activity.change fun d => { d with subscribed := worked }) i j
      fun _ i k => Tidies strand i k ∧ k.Linked ∧ k.record = j.record ∧
        k.desk.sessionsSeen = j.desk.sessionsSeen ∧
        (k.desk.subscribed = true → HeardOr excuse listened k) := by
  let k := j.withDesk { j.desk with subscribed := worked }
  have heard_still : k.desk.subscribed = true → HeardOr excuse listened k := fun believed =>
    Affairs.heardOr_later (heard believed) (E.kept rfl rfl rfl) rfl List.prefix_rfl
  have linked_still : k.Linked := by
    refine ⟨linked.sessions_pos, linked.seen_le, ?_⟩
    intro believed upToDate
    exact (heard_still believed).imp_left fun excused => E.counts excused upToDate
  exact ⟨⟨tidies.sessions, tidies.lastConnect, tidies.record, tidies.seen⟩, linked_still, rfl, rfl,
    heard_still⟩

/-- Who tries to subscribe knows in the end which topics were acknowledged. -/
theorem ensureSubscribed_abides (E : Excuse strand excuse) (tidies : Tidies strand i j)
    (linked : j.Linked) (knows : Knows strand j) :
    sessionContract.Abides strand ensureSubscribed i j fun _ i k =>
      Tidies strand i k ∧ k.Linked ∧ Knows strand k ∧
        (j.desk.subscribed = false → k.desk.subscribed = true → HeardOr excuse listened k) := by
  have body : ensureSubscribed = Dialogue.read fun d => if d.subscribed then .done () else
      (subscribeAll listened).bind fun worked =>
        Activity.change fun d => { d with subscribed := worked } := rfl
  rw [body]
  cases believed : j.desk.subscribed with
  | true =>
    simp only [Contract.Abides, believed, if_true]
    exact ⟨tidies, linked, knows, by simp⟩
  | false =>
    simp only [Contract.Abides, believed, Bool.false_eq_true, if_false]
    have begun : Attempt strand excuse [] i j := ⟨tidies, linked, knows, .inr (by simp)⟩
    refine abides_bind.2 (abides_mono (subscribeAll_abides E listened begun) ?_)
    rintro worked i k ⟨tidies, linked, knows, heard⟩
    refine abides_mono (subscribed_abides E worked tidies linked heard) ?_
    rintro _ i l ⟨tidies, linked, record, seen, heard⟩
    exact ⟨tidies, linked, knows.later fun _ => seen, fun _ => heard⟩

/-- A connect that comes in the course of an attempt of the start of the run or of a pass is an
excuse. -/
theorem excuse_struck (mem : strand ∈ [Strand.life, .loop .reconcile]) :
    Excuse strand Affairs.Struck := by
  refine ⟨?_, ?_, fun struck _ => struck⟩
  · exact fun _ _ lastConnect struck => struck.later lastConnect
  · intro call i j subscribes awaits _ _ excused
    rcases Nat.lt_or_eq_of_le awaits.sessions_le with late | same
    · exact .inl ⟨strand, mem, by simp [awaits.struck late, subscribes]⟩
    · rcases excused with struck | late
      · exact struck.later (awaits.quiet same.symm)
      · omega

/-- A connect that the renewal has still to see is an excuse for the renewal. -/
theorem excuse_unseen : Excuse (.loop .renewal) fun i =>
    0 < i.desk.sessionsSeen ∧ i.desk.sessionsSeen < i.desk.sessions := by
  refine ⟨?_, ?_, ?_⟩
  · intro i j sessions seen _ unseen
    rw [sessions, seen]
    exact unseen
  · intro call i j _ awaits before knows excused
    have seen := awaits.seen (.inr rfl)
    have le := awaits.sessions_le
    have seen_le := before.seen_le
    have looked := knows.renewal rfl
    omega
  · intro i unseen upToDate
    unfold Affairs.UpToDate at upToDate
    omega

/-! ## Everybody sticks to the contract -/

/-- The renewal looks for the first time: what was connected so far is no new connect. -/
theorem watch_abides (linked : i.Linked) (unlooked : i.desk.sessionsSeen = 0) :
    sessionContract.Abides (.loop .renewal) watchSessions i i
      (sessionContract.Rested .renewal) := by
  refine Contract.abides_watch (.refl _ i) linked ?_
  intro k awaits linked answer
  let looked := (k.note ⟨⟨.turn, answer⟩, i.desk⟩).seen
  have onward := k.onward_note ⟨⟨.turn, answer⟩, i.desk⟩
  have tidies : Tidies (.loop .renewal) k looked :=
    ⟨rfl, rfl, onward.record, fun other => absurd rfl other⟩
  have closed : looked.Closed := by
    rintro ⟨moment, last, noting⟩
    obtain rfl : _ = moment := by simpa [looked, Affairs.seen, Affairs.note] using last
    cases noting
  refine ⟨tidies, ⟨linked.sessions_pos, Nat.le_refl _, ?_⟩, trivial, fun _ => closed⟩
  -- before the look the law holds, and the look takes no acknowledgement away
  intro believed _
  have unlooked : k.desk.sessionsSeen = 0 := (awaits.seen (.inr rfl)).trans unlooked
  exact Affairs.heardOr_later (linked.heard believed (.inl unlooked))
    (fun struck => struck.later rfl) rfl onward.record

/-- The registration sticks to the contract. -/
theorem enlist_abides (linked : i.Linked)
    (unlooked : i.desk.sessionsSeen = 0) :
    sessionContract.Abides .life enlist i i sessionContract.Enlisted := by
  have started : i.Onward (i.withDesk { i.desk.log (.started version i.desk.settings.broker) with
      node := i.desk.settings.firstNode }) := Affairs.onward_withDesk rfl
  refine ⟨(Tidies.refl _ i).onward started, started.linked linked, ?_⟩
  intro k awaits linked answer
  have noted := k.onward_note ⟨⟨.register i.desk.settings.firstNode, answer⟩,
    { i.desk.log (.started version i.desk.settings.broker) with
      node := i.desk.settings.firstNode }⟩
  simp only [Dialogue.bind_done]
  split
  · refine abides_bind.2 (abides_mono (abides_of_unlinked (unlinked_of_beside (abandon_within _))
      ((Tidies.refl _ k).onward noted) (noted.linked linked)) ?_)
    exact fun _ _ _ known => known.2
  · have registered := noted.withDesk (fun d : Desk =>
      (d.log (.nodeRegistered d.settings.base.nodeIp)).setRegistered true) rfl
    have unlooked : k.desk.sessionsSeen = 0 := (awaits.seen (.inl rfl)).trans unlooked
    have knows : Knows .life k := ⟨fun _ => unlooked, nofun⟩
    refine abides_bind.2 (abides_change.2 (abides_bind.2 (abides_mono
      (ensureSubscribed_abides (excuse_struck (by simp)) ((Tidies.refl _ k).onward registered)
        (registered.linked linked) (knows.later fun _ => registered.sessionsSeen)) ?_)))
    rintro _ i j ⟨-, linked, knows, -⟩
    exact ⟨linked, trivial, trivial, watch_abides linked (knows.start rfl)⟩

/-- A pass sticks to the contract. -/
theorem reconcile_abides (linked : i.Linked) :
    sessionContract.Abides (.loop .reconcile) reconcile i i
      (sessionContract.Rested .reconcile) := by
  have knows : Knows (.loop .reconcile) i := ⟨nofun, nofun⟩
  refine abides_bind.2 (abides_desk.2 (abides_bind.2 (abides_mono
    (ensureSubscribed_abides (excuse_struck (by simp)) (Tidies.refl _ i) linked knows) ?_)))
  rintro _ i j ⟨tidies, linked, -, -⟩
  refine abides_mono (abides_of_unlinked ?_ tidies linked) ?_
  · refine Dialogue.within_request_bind.2 ⟨trivial, fun answer d => ?_⟩
    refine Dialogue.within_state_bind.2 fun d => ?_
    dsimp only
    split
    · rename_i fault _
      exact Dialogue.within_update.2 fun d => (d.listingFailed_eq fault).1
    · refine Dialogue.within_update_bind.2 fun _ => ⟨rfl, ?_⟩
      refine Dialogue.within_bind (followListing_unlinked _) fun _ d => ?_
      exact Dialogue.within_update.2 fun _ => rfl
  · rintro _ i j ⟨tidies, linked⟩
    exact ⟨tidies, linked, trivial, nofun⟩

/-- The renewal sticks to the contract, and knows in the end which topics were acknowledged. -/
theorem renew_abides (linked : i.Linked) :
    sessionContract.Abides (.loop .renewal) renewSubscriptions i i
      (sessionContract.Rested .renewal) := by
  let begun := i.withDesk { i.desk with sessionsSeen := i.desk.sessions, subscribed := false }
  have tidies : Tidies (.loop .renewal) i begun :=
    ⟨rfl, rfl, List.prefix_rfl, fun other => absurd rfl other⟩
  have linked' : begun.Linked := ⟨linked.sessions_pos, Nat.le_refl _, nofun⟩
  refine abides_bind.2 (abides_change.2 (abides_mono
    (ensureSubscribed_abides excuse_unseen tidies linked' ⟨nofun, fun _ => linked.sessions_pos⟩) ?_))
  rintro _ i j ⟨tidies, linked, -, heard⟩
  have closed : j.Closed := by
    intro _ believed seen
    exact (heard rfl believed).resolve_left fun unseen => absurd seen (Nat.ne_of_lt unseen.2)
  exact ⟨tidies, linked, trivial, fun _ => closed⟩

/-- Everybody sticks to the contract about sessions and subscriptions. -/
theorem sessionContract_kept : sessionContract.Kept where
  rely_refl := Awaits.refl
  rely_trans _ _ _ _ _ := Awaits.trans
  rely_own _ _ _ _ _ differ tidies := tidies.awaits differ
  rest_own _ _ _ _ _ _ _ := trivial
  law_outside _ _ _ came linked := came.linked linked
  rely_outside _ _ _ _ _ came _ waits := came.awaits waits
  idle_outside calls i j came _ idle := by
    rcases came.connect_or_onward with rfl | onward
    · exact idle
    · exact onward.sessionsSeen.trans idle
  rest_outside _ _ _ _ _ _ _ := trivial
  enlist _ linked idle := enlist_abides linked idle
  beat i linked _ := by
    refine abides_mono (abides_of_unlinked (unlinked_of_beside beat_within) (.refl _ i) linked) ?_
    exact fun _ _ _ known => ⟨known.1, known.2, trivial, nofun⟩
  reconcile _ linked _ := reconcile_abides linked
  push i linked _ := by
    have woken := Affairs.onward_withDesk (i := i) (d := { i.desk with wake := false }) rfl
    refine abides_mono (abides_of_unlinked pushStatuses_unlinked
      ((Tidies.refl _ i).onward woken) (woken.linked linked)) ?_
    exact fun _ _ _ known => ⟨known.1, known.2, trivial, nofun⟩
  renew _ linked _ := renew_abides linked
  retire i linked := by
    refine abides_mono (abides_of_unlinked (unlinked_of_beside retire_within) (.refl _ i)
      linked) ?_
    exact fun _ _ _ known => known.2

/-- The contract about sessions and subscriptions is kept at every moment of every run. -/
theorem sessions_inOrder (settings : Settings) (origin : Time.Stamp)
    (happenings : List Happening) :
    sessionContract.InOrder ((Chronicle.fresh settings origin).follow happenings) :=
  sessionContract_kept.follow settings origin
    ⟨Nat.one_pos, Nat.zero_le _, nofun⟩ rfl happenings

/-! ## Sessions that were repaired -/

/-- With this answer the renewal comes to rest after an attempt of its own, takes the controller to
be subscribed, and has no connect to see. -/
structure Chronicle.Renews (c : Chronicle) (reply : Reply) : Prop where
  attempts : c.system.openCall? (.loop .renewal) = some .noting
  rests : (c.step (.stimulus (.answer (.loop .renewal) reply))).system.isResting .renewal = true
  subscribed : (c.step (.stimulus (.answer (.loop .renewal) reply))).system.desk.subscribed = true
  seen : (c.step (.stimulus (.answer (.loop .renewal) reply))).system.desk.sessionsSeen =
    (c.step (.stimulus (.answer (.loop .renewal) reply))).system.desk.sessions

/-- An attempt of the renewal has worked since the last connect. -/
def Chronicle.Renewed (c : Chronicle) (happenings : List Happening) : Prop :=
  ∃ early reply late,
    happenings = early ++ .stimulus (.answer (.loop .renewal) reply) :: late ∧
      (c.follow early).Renews reply ∧
      (c.follow happenings).system.desk.sessions =
        ((c.follow early).step (.stimulus (.answer (.loop .renewal) reply))).system.desk.sessions

/-- After an attempt of the renewal that has worked both topics were acknowledged. -/
theorem Chronicle.Renews.listens {c : Chronicle} {reply : Reply} (renews : c.Renews reply)
    (order : sessionContract.InOrder c) :
    ∀ purpose ∈ listened,
      (c.step (.stimulus (.answer (.loop .renewal) reply))).affairs.Listens purpose := by
  have closed := order.close_step sessionContract_kept renews.attempts reply renews.rests rfl
  refine closed ⟨⟨⟨.noting, reply .noting⟩, c.asked (.loop .renewal)⟩, ?_, rfl⟩
    renews.subscribed renews.seen
  rw [Contract.affairs_step_of_answer reply renews.attempts]
  simp

/-- Whenever the controller takes itself to be subscribed and the renewal has no connect to see,
both topics of the base were acknowledged for calls of this session, unless the last connect came
at a time at which nobody acts on it, and then as well once an attempt of the renewal has worked. -/
theorem subscribed_in_session (settings : Settings) (origin : Time.Stamp)
    (happenings : List Happening) :
    let i := ((Chronicle.fresh settings origin).follow happenings).affairs
    i.desk.subscribed = true → i.UpToDate →
      ¬ i.Struck ∨ (Chronicle.fresh settings origin).Renewed happenings →
        ∀ purpose ∈ listened, i.Listens purpose := by
  intro i believed upToDate acted_on
  rcases acted_on with unstruck | ⟨early, reply, late, rfl, renews, sessions⟩
  · exact ((sessions_inOrder settings origin happenings).law.heard believed upToDate).resolve_left
      unstruck
  · intro purpose mem
    refine (renews.listens (sessions_inOrder settings origin early) purpose mem).later sessions ?_
    dsimp only [i]
    rw [Chronicle.follow_append]
    exact Chronicle.record_prefix_follow _ late

/-- A run whose start cannot subscribe to the first topic.  A connect comes upon the attempt of a
pass, and the renewal subscribes. -/
def repairedRun : List Happening :=
  [.start, granted .life, refused .life, granted .life, granted .life, granted .life,
    granted (.loop .renewal), .stimulus .pass, .stimulus .connect, .stimulus .renew,
    granted (.loop .renewal), granted (.loop .renewal), granted (.loop .renewal)]

/-- So both topics are acknowledged in that run, although its session was struck. -/
theorem subscribed_in_session_renewed :
    let run := repairedRun ++ [granted (.loop .renewal)]
    let i := ((Chronicle.fresh default default).follow run).affairs
    (i.desk.subscribed = true ∧ i.UpToDate ∧ i.Struck ∧
      (Chronicle.fresh default default).Renewed run) ∧
      ∀ purpose ∈ listened, i.Listens purpose := by
  have met : let run := repairedRun ++ [granted (.loop .renewal)]
      let i := ((Chronicle.fresh default default).follow run).affairs
      i.desk.subscribed = true ∧ i.UpToDate ∧ i.Struck := by decide
  have renewed : (Chronicle.fresh default default).Renewed
      (repairedRun ++ [granted (.loop .renewal)]) :=
    ⟨repairedRun, _, [], rfl, ⟨rfl, by decide, by decide, by decide⟩, by decide⟩
  exact ⟨⟨met.1, met.2.1, met.2.2, renewed⟩,
    subscribed_in_session default default _ met.1 met.2.1 (.inr renewed)⟩

/-- A run whose transport connects anew between the two calls to subscribe that it starts with. -/
def struckRun : List Happening :=
  [.start, granted .life, granted .life, granted .life, .stimulus .connect, granted .life,
    granted .life, granted (.loop .renewal)]

/-- So it is not true of every run whose node is registered: the topic that was acknowledged before
the connect is not asked for again, since no connect is left that the renewal could see. -/
theorem exists_unsubscribed :
    ¬ ∀ (settings : Settings) (origin : Time.Stamp) (happenings : List Happening),
      let i := ((Chronicle.fresh settings origin).follow happenings).affairs
      i.desk.health.registered = true → i.desk.subscribed = true →
        i.desk.sessionsSeen = i.desk.sessions → ∀ purpose ∈ listened, i.Listens purpose := by
  intro h
  have said := h default default struckRun (by decide) (by decide) (by decide)
  revert said
  decide

end VirtualNode.Controller
