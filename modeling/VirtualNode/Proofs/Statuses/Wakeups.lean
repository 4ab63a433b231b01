import VirtualNode.Proofs.Interleaving.Contract
import VirtualNode.Proofs.Statuses.Views

/-!
# No change of a status is lost

The loop over the pods writes the statuses that differ from those written last, while messages
arrive that may change them again.  Whenever it is at rest, every cached pod is accounted for: its
status is the one that was written last, or a wake-up is pending, or the last attempt to write its
status failed (`statuses_settled`).

The loop relies on this of everybody else (`Affairs.Calm`): the ledger is left alone, no status is
written, and no status changes without a wake-up.  While statuses are written, the pods that were
visited stay accounted for (`writeStatuses_settles`).
-/

set_option autoImplicit false

namespace VirtualNode.Controller

open Contract (abides_bind abides_change abides_desk abides_mono abides_of_within abides_watch)
open Kube (Pod)

/-! ## Pods that are accounted for -/

/-- The last attempt to write the status of a cached pod failed.  A later write at its address was
made for another pod of the cache, which can only be if two pods have the same address. -/
def LastWriteFailed (record : List Moment) (pods : Table String Pod) (key : String) (pod : Pod) :
    Prop :=
  ∃ early moment late write, record = early ++ moment :: late ∧
    moment.statusWrite? = some write ∧ write.Addresses pod ∧ write.worked = false ∧
    write.status = moment.state.statusOf pod ∧
    ∀ n ∈ late, ∀ w, n.statusWrite? = some w → w.Addresses pod →
      ∃ other ∈ pods.entries, other.1 ≠ key ∧ w.Addresses other.2

/-- Nothing is to be done about the status of a pod, or somebody is to do it. -/
def Affairs.Settled (i : Affairs) (key : String) (pod : Pod) : Prop :=
  i.desk.ledger.written.get? key = some (i.desk.statusOf pod) ∨ i.desk.wake = true ∨
    LastWriteFailed i.record i.desk.ledger.pods key pod

/-- All pods of the cache are accounted for. -/
def Affairs.AllSettled (i : Affairs) : Prop :=
  ∀ entry ∈ i.desk.ledger.pods.entries, i.Settled entry.1 entry.2

/-- What everybody but the loop over the pods does. -/
structure Affairs.Calm (i j : Affairs) : Prop where
  ledger : j.desk.ledger = i.desk.ledger
  wake : i.desk.wake = true → j.desk.wake = true
  /-- Without a wake-up no status changes. -/
  statuses : j.desk.wake = false → ∀ pod, j.desk.statusOf pod = i.desk.statusOf pod
  record : ∃ more, j.record = i.record ++ more ∧ ∀ moment ∈ more, moment.statusWrite? = none

variable {i j k : Affairs} {key : String} {pod : Pod} {record : List Moment}
  {pods : Table String Pod}

/-- A last write that failed stays so while only other pods are written. -/
theorem LastWriteFailed.append {more : List Moment} (failed : LastWriteFailed record pods key pod)
    (others : ∀ n ∈ more, ∀ w, n.statusWrite? = some w → w.Addresses pod →
      ∃ other ∈ pods.entries, other.1 ≠ key ∧ w.Addresses other.2) :
    LastWriteFailed (record ++ more) pods key pod := by
  obtain ⟨early, moment, late, write, split, is, addressed, unworked, status, since⟩ := failed
  refine ⟨early, moment, late ++ more, write, by simp [split], is, addressed, unworked, status, ?_⟩
  rw [List.forall_mem_append]
  exact ⟨since, others⟩

namespace Affairs

/-- Nothing at all is calm. -/
theorem Calm.refl (i : Affairs) : i.Calm i :=
  ⟨rfl, id, fun _ _ => rfl, [], by simp, by simp⟩

/-- What is calm may go on. -/
theorem Calm.trans (first : i.Calm j) (second : j.Calm k) : i.Calm k := by
  obtain ⟨more, extended, none_first⟩ := first.record
  obtain ⟨more', extended', none_second⟩ := second.record
  refine ⟨second.ledger.trans first.ledger, second.wake ∘ first.wake, ?_, more ++ more', ?_, ?_⟩
  · intro asleep pod
    have asleep_before : j.desk.wake = false := by
      cases woken : j.desk.wake with
      | false => rfl
      | true => rw [second.wake woken] at asleep; exact asleep
    rw [second.statuses asleep pod, first.statuses asleep_before pod]
  · rw [extended', extended, List.append_assoc]
  · rw [List.forall_mem_append]
    exact ⟨none_first, none_second⟩

/-- A change of what statuses do not depend on is calm. -/
theorem calm_withDesk {d : Desk} (outlook : d.outlook = i.desk.outlook) :
    i.Calm (i.withDesk d) := by
  have wake : d.wake = i.desk.wake := congrArg Outlook.wake outlook
  refine ⟨congrArg Outlook.ledger outlook, wake.trans, fun _ => statusOf_outlook outlook, [], ?_, ?_⟩
  · simp
  · simp

/-- A call that writes no status is calm. -/
theorem calm_note {call : Call} (other : ¬ call.WritesStatus) (answer : call.Answer) (d : Desk) :
    i.Calm (i.note ⟨⟨call, answer⟩, d⟩) := by
  refine ⟨rfl, id, fun _ _ => rfl, [_], rfl, ?_⟩
  intro moment mem
  rw [List.mem_singleton.1 mem]
  exact statusWrite?_eq_none other answer d

/-- A pod stays settled in the calm. -/
theorem Calm.settled (calm : i.Calm j) (settled : i.Settled key pod) : j.Settled key pod := by
  unfold Settled at settled ⊢
  rcases settled with written | woken | failed
  · cases woken : j.desk.wake with
    | true => exact .inr (.inl rfl)
    | false =>
      left
      rw [calm.ledger, calm.statuses woken pod]
      exact written
  · exact .inr (.inl (calm.wake woken))
  · obtain ⟨more, extended, none_write⟩ := calm.record
    rw [calm.ledger, extended]
    refine .inr (.inr (failed.append ?_))
    intro n mem w is
    rw [none_write n mem] at is
    cases is

/-- All pods stay settled in the calm. -/
theorem Calm.allSettled (calm : i.Calm j) (settled : i.AllSettled) : j.AllSettled := by
  unfold AllSettled at settled ⊢
  rw [calm.ledger]
  exact fun entry mem => calm.settled (settled entry mem)

end Affairs

/-- What comes from outside is calm. -/
theorem Outside.calm {heed : Heed} {calls : Strand → Option Call} (came : Outside heed calls i j) :
    i.Calm j := by
  cases came with
  | elapse ms =>
    exact ⟨rfl, id, fun _ => statusOf_congr rfl fun _ => rfl, [], by simp, by simp⟩
  | cancel => exact Affairs.calm_withDesk rfl
  | connect => exact ⟨rfl, id, fun _ => statusOf_congr rfl fun _ => rfl, [], by simp, by simp⟩
  | outcome => exact Affairs.calm_withDesk rfl
  | message purpose topic payload =>
    obtain ⟨wakes, views⟩ := i.desk.toInbox.view_receive purpose topic payload
    exact ⟨rfl, wakes, fun asleep => statusOf_congr rfl (views asleep), [], by simp, by simp⟩

/-! ## The contract -/

/-- The loop over the pods may do as it likes; everybody else keeps calm. -/
def wakeContract : Contract where
  law _ := True
  own strand i j := strand ≠ .loop .reconcile → strand ≠ .life → i.Calm j
  rely strand _ i j := strand = .loop .reconcile ∨ strand = .life → i.Calm j
  idle i := i.desk.ledger.pods.entries = []
  rest name i := name = .reconcile → i.AllSettled

/-! ## Writing statuses -/

/-- What the attempt to write the status of a pod does to the desk. -/
structure Desk.Wrote (key : String) (d e : Desk) : Prop where
  pods : e.ledger.pods = d.ledger.pods
  written : ∀ other ≠ key, e.ledger.written.get? other = d.ledger.written.get? other
  settings : e.settings = d.settings
  sightings : e.sightings = d.sightings
  wake : e.wake = d.wake

/-- To note that a status was written changes no status. -/
theorem Desk.Wrote.statusOf {d e : Desk} (wrote : Desk.Wrote key d e) (pod : Pod) :
    e.statusOf pod = d.statusOf pod :=
  statusOf_congr wrote.settings (fun identity => by simp [Inbox.view, wrote.sightings]) pod

/-- The attempt to write the status of one pod leaves the others accounted for. -/
theorem Affairs.Settled.other {d : Desk} {moment : Moment} {write : StatusWrite} {other : String}
    {pod' : Pod} (settled : i.Settled other pod') (wrote : Desk.Wrote key i.desk d)
    (is : moment.statusWrite? = some write) (addressed : write.Addresses pod)
    (here : (key, pod) ∈ i.desk.ledger.pods.entries) (differ : other ≠ key) :
    ((i.note moment).withDesk d).Settled other pod' := by
  unfold Affairs.Settled at settled ⊢
  simp only [Affairs.desk_withDesk, Affairs.record_withDesk, Affairs.record_note]
  rw [wrote.written other differ, wrote.statusOf, wrote.wake, wrote.pods]
  refine settled.imp_right (Or.imp_right fun failed => failed.append ?_)
  intro n mem w is_n _
  rw [List.mem_singleton.1 mem, is] at is_n
  cases is_n
  exact ⟨(key, pod), here, differ.symm, addressed⟩

/-- The entries of a table have different keys. -/
theorem ne_of_entries {visited rest : List (String × Pod)}
    (split : pods.entries = visited ++ (key, pod) :: rest) :
    ∀ entry ∈ visited, entry.1 ≠ key := by
  have nodup := pods.nodup
  rw [split, List.map_append, List.map_cons] at nodup
  intro entry mem
  exact (List.nodup_append.1 nodup).2.2 entry.1 (List.mem_map_of_mem mem) key (by simp)

/-- After the attempt to write the status of a pod, this pod is accounted for too. -/
theorem settled_visited {d : Desk} {moment : Moment} {write : StatusWrite}
    {visited rest : List (String × Pod)}
    (split : i.desk.ledger.pods.entries = visited ++ (key, pod) :: rest)
    (settled : ∀ entry ∈ visited, i.Settled entry.1 entry.2)
    (wrote : Desk.Wrote key i.desk d) (is : moment.statusWrite? = some write)
    (addressed : write.Addresses pod) (now : ((i.note moment).withDesk d).Settled key pod) :
    d.ledger.pods.entries = (visited ++ [(key, pod)]) ++ rest ∧
      ∀ entry ∈ visited ++ [(key, pod)],
        ((i.note moment).withDesk d).Settled entry.1 entry.2 := by
  have here : (key, pod) ∈ i.desk.ledger.pods.entries := by simp [split]
  refine ⟨by simp [wrote.pods, split], ?_⟩
  rw [List.forall_mem_append]
  constructor
  · intro entry mem
    exact (settled entry mem).other wrote is addressed here (ne_of_entries split entry mem)
  · intro entry mem
    rw [List.mem_singleton.1 mem]
    exact now

/-- A status that was just written is the present one, unless a wake-up has come meanwhile. -/
theorem Affairs.Calm.settled_written {d : Desk} {moment : Moment} (calm : i.Calm k)
    (wrote : Desk.Wrote key k.desk d)
    (written : d.ledger.written.get? key = some (i.desk.statusOf pod)) :
    ((k.note moment).withDesk d).Settled key pod := by
  cases woken : k.desk.wake with
  | true => exact .inr (.inl (wrote.wake.trans woken))
  | false =>
    left
    simp only [Affairs.desk_withDesk]
    rw [written, wrote.statusOf, calm.statuses woken pod]

/-- A status that could not be written is one whose last write failed. -/
theorem settled_unwritten {d : Desk} {moment : Moment} {write : StatusWrite}
    (is : moment.statusWrite? = some write) (addressed : write.Addresses pod)
    (unworked : write.worked = false) (status : write.status = moment.state.statusOf pod) :
    ((k.note moment).withDesk d).Settled key pod :=
  .inr (.inr ⟨k.record, moment, [], write, rfl, is, addressed, unworked, status, by simp⟩)

/-- When the rest of the cache is gone over, all pods are settled. -/
theorem writeStatuses_settles {start : Affairs} {visited rest : List (String × Pod)}
    (split : i.desk.ledger.pods.entries = visited ++ rest)
    (settled : ∀ entry ∈ visited, i.Settled entry.1 entry.2) :
    wakeContract.Abides (.loop .reconcile) (writeStatuses rest) start i fun _ _ j =>
      j.AllSettled := by
  induction rest generalizing start i visited with
  | nil =>
    intro entry mem
    rw [split, List.append_nil] at mem
    exact settled entry mem
  | cons entry rest ih =>
    obtain ⟨key, pod⟩ := entry
    have next : i.desk.ledger.pods.entries = (visited ++ [(key, pod)]) ++ rest := by simp [split]
    rw [writeStatuses]
    refine abides_bind.2 (abides_desk.2 ?_)
    dsimp only
    split
    · -- the status was written before
      rename_i written
      refine ih next ?_
      rw [List.forall_mem_append]
      refine ⟨settled, ?_⟩
      intro entry mem
      rw [List.mem_singleton.1 mem]
      exact .inl written
    · refine ⟨fun other => absurd rfl other, trivial, ?_⟩
      intro k calm _ answer
      replace calm : i.Calm k := calm (.inl rfl)
      let moment : Moment :=
        ⟨⟨.reportPod pod.addressSpace pod.addressName (i.desk.statusOf pod), answer⟩, i.desk⟩
      let write : StatusWrite :=
        ⟨pod.addressSpace, pod.addressName, i.desk.statusOf pod, succeeded answer⟩
      have is : moment.statusWrite? = some write := rfl
      have addressed : write.Addresses pod := ⟨rfl, rfl⟩
      have split' : k.desk.ledger.pods.entries = visited ++ (key, pod) :: rest := by
        rw [calm.ledger, split]
      have settled' : ∀ entry ∈ visited, k.Settled entry.1 entry.2 :=
        fun entry mem => calm.settled (settled entry mem)
      simp only [Dialogue.bind_done]
      split
      · -- the write has worked
        refine abides_bind.2 (abides_change.2 ?_)
        have wrote : Desk.Wrote key k.desk (k.desk.updateLedger fun l =>
            { l with written := l.written.insert key (i.desk.statusOf pod) }) := by
          refine ⟨rfl, ?_, rfl, rfl, rfl⟩
          intro other differ
          simp [Desk.updateLedger, Table.get?_insert, differ.symm]
        have written : (k.desk.ledger.written.insert key (i.desk.statusOf pod)).get? key =
            some (i.desk.statusOf pod) := by simp [Table.get?_insert]
        obtain ⟨split'', settled''⟩ := settled_visited split' settled' wrote is addressed
          (calm.settled_written wrote written)
        exact ih split'' settled''
      · rename_i fault failed
        refine abides_bind.2 (abides_change.2 ?_)
        have wrote : Desk.Wrote key k.desk
            (k.desk.noteDegraded Watch.Health.cluster fault.message) :=
          ⟨rfl, fun _ _ => rfl, rfl, rfl, rfl⟩
        have unworked : succeeded answer = false := by
          cases worked : succeeded answer with
          | false => rfl
          | true => rw [bounded_eq_ok_iff.2 worked] at failed; cases failed
        obtain ⟨split'', settled''⟩ := settled_visited split' settled' wrote is addressed
          (settled_unwritten is addressed unworked rfl)
        exact ih split'' settled''

/-- When all statuses are looked at, all pods are settled. -/
theorem pushStatuses_settles (start i : Affairs) :
    wakeContract.Abides (.loop .reconcile) pushStatuses start i fun _ _ j => j.AllSettled :=
  abides_bind.2 (abides_desk.2 (writeStatuses_settles (List.nil_append _).symm nofun))

/-! ## Everybody sticks to the contract -/

/-- Who does not touch what the statuses depend on, and writes none, keeps calm. -/
theorem abides_calm {α : Type} {strand : Strand} {task : Activity α} {start : Affairs}
    (within : task.Within Desk.SameOutlook Call.Distant i.desk)
    (calm : start.Calm i) :
    wakeContract.Abides strand task start i fun _ i j => i.Calm j := by
  refine abides_of_within (P := Affairs.Calm) within calm ?_ ?_
  · intro i j d outlook calm
    exact calm.trans (Affairs.calm_withDesk outlook)
  · intro i j call distant calm
    refine ⟨fun _ _ => calm, trivial, ?_⟩
    intro k _ _ answer
    exact Affairs.calm_note distant.not_writesStatus answer j.desk

/-- The loop over the pods relies on others to leave a statement alone. -/
theorem abides_stable {α : Type} {strand : Strand} {task : Activity α} {start : Affairs}
    {P : Affairs → Prop} (stable : ∀ i j, i.Calm j → P i → P j)
    (which : strand = .loop .reconcile ∨ strand = .life)
    (within : task.Within Desk.SameOutlook Call.Distant i.desk)
    (now : P i) :
    wakeContract.Abides strand task start i fun _ _ j => P j := by
  refine abides_of_within (P := fun _ j => P j) within now ?_ ?_
  · intro i j d outlook now
    exact stable _ _ (Affairs.calm_withDesk outlook) now
  · intro i j call distant now
    refine ⟨?_, trivial, ?_⟩
    · intro not_reconcile not_life
      rcases which with is | is
      · exact absurd is not_reconcile
      · exact absurd is not_life
    · intro k relied _ answer
      exact stable _ _
        ((relied which).trans (Affairs.calm_note distant.not_writesStatus answer j.desk)) now

/-- What the loop over the pods does is its own affair. -/
theorem abides_anyhow {α : Type} (task : Activity α) (start i : Affairs) :
    wakeContract.Abides (.loop .reconcile) task start i fun _ _ _ => True := by
  refine abides_of_within (P := fun _ _ => True) (Dialogue.within_trivial task i.desk) trivial
    (fun _ _ _ _ _ => trivial) ?_
  intro i j call _ _
  exact ⟨fun other => absurd rfl other, trivial, fun _ _ _ _ => trivial⟩

/-- After a pass with a listing all pods are settled. -/
theorem followListing_settles (listing : List Pod) (start i : Affairs) :
    wakeContract.Abides (.loop .reconcile) (followListing listing) start i fun _ _ j =>
      j.AllSettled := by
  refine abides_bind.2 (abides_mono (abides_anyhow _ start i) ?_)
  rintro live start i -
  refine abides_bind.2 (abides_desk.2 (abides_bind.2 (abides_mono (abides_anyhow _ start i) ?_)))
  rintro _ start i -
  exact abides_bind.2 (abides_change.2 (pushStatuses_settles _ _))

/-- A listing that failed leaves the cache as it was. -/
theorem Affairs.AllSettled.listingFailed (settled : i.AllSettled) (fault : Fault) :
    (i.withDesk (i.desk.listingFailed fault)).AllSettled := by
  have outlook := (i.desk.listingFailed_eq fault).2
  have ledger := i.desk.ledger_listingFailed fault
  have sightings := i.desk.sightings_listingFailed fault
  have wake : (i.desk.listingFailed fault).wake = i.desk.wake := congrArg Outlook.wake outlook
  have statuses : ∀ pod, (i.desk.listingFailed fault).statusOf pod = i.desk.statusOf pod :=
    statusOf_congr (congrArg Outlook.settings outlook) fun _ => by simp [Inbox.view, sightings]
  unfold Affairs.AllSettled Affairs.Settled at settled ⊢
  simp only [Affairs.desk_withDesk, Affairs.record_withDesk, ledger, statuses, wake]
  exact settled

/-- A pass leaves all pods settled. -/
theorem reconcile_settles (settled : i.AllSettled) :
    wakeContract.Abides (.loop .reconcile) reconcile i i fun _ _ j => j.AllSettled := by
  have stable : ∀ i j : Affairs, i.Calm j → i.AllSettled → j.AllSettled :=
    fun _ _ => Affairs.Calm.allSettled
  refine abides_bind.2 (abides_desk.2 (abides_bind.2 (abides_mono
    (abides_stable stable (.inl rfl) ensureSubscribed_within settled) ?_)))
  intro _ start i settled
  refine ⟨fun other => absurd rfl other, trivial, ?_⟩
  intro k calm _ answer
  replace calm : i.Calm k := calm (.inl rfl)
  have noted : i.Calm (k.note ⟨⟨.listPods, answer⟩, i.desk⟩) :=
    calm.trans (Affairs.calm_note id answer i.desk)
  simp only [Dialogue.bind_done]
  refine abides_bind.2 (abides_desk.2 ?_)
  split
  · -- the pods could not be listed, so the cache is what it was
    rename_i fault _
    exact (noted.allSettled settled).listingFailed fault
  · refine abides_bind.2 (abides_change.2 (abides_bind.2 (abides_mono
      (followListing_settles _ _ _) ?_)))
    intro _ start i settled
    exact stable _ _ (Affairs.calm_withDesk rfl) settled

/-- Everybody keeps the contract about statuses and wakes. -/
theorem wakeContract_kept : wakeContract.Kept where
  rely_refl _ _ i _ := .refl i
  rely_trans _ _ _ _ _ first second which := (first which).trans (second which)
  rely_own name other _ _ _ differ own which := by
    have is : name = .reconcile := by simpa using which
    subst is
    exact own (by simpa using differ) nofun
  rest_own name other _ _ differ own rest is := by
    subst is
    have calm := own (by simpa using differ) nofun
    exact calm.allSettled (rest rfl)
  law_outside _ _ _ _ _ := trivial
  rely_outside _ _ _ _ _ came _ _ _ := came.calm
  idle_outside _ i j came _ idle := by
    have calm := came.calm
    exact (congrArg (fun l : Ledger => l.pods.entries) calm.ledger).trans idle
  rest_outside _ _ _ _ came _ rest is := came.calm.allSettled (rest is)
  enlist i _ idle := by
    have stable : ∀ i j : Affairs, i.Calm j → i.desk.ledger.pods.entries = [] →
        j.desk.ledger.pods.entries = [] :=
      fun i j calm => (congrArg (fun l : Ledger => l.pods.entries) calm.ledger).trans
    refine abides_mono (abides_stable stable (.inr rfl) enlist_within idle) ?_
    rintro worked _ j empty
    cases worked with
    | false => trivial
    | true =>
      refine ⟨trivial, nofun, fun _ entry mem => ?_, ?_⟩
      · rw [empty] at mem
        cases mem
      · refine abides_watch (fun _ _ => .refl j) trivial fun k _ _ answer => ?_
        have calm : k.Calm (k.note ⟨⟨.turn, answer⟩, j.desk⟩).seen :=
          (Affairs.calm_note id answer j.desk).trans (Affairs.calm_withDesk rfl)
        exact ⟨fun _ _ => calm, trivial, nofun, trivial⟩
  beat i _ _ := by
    refine abides_mono (abides_calm (within_sameOutlook beat_within) (.refl i)) ?_
    exact fun _ _ _ calm => ⟨fun _ _ => calm, trivial, nofun, trivial⟩
  reconcile i _ rest := by
    refine abides_mono (reconcile_settles (rest rfl)) ?_
    exact fun _ _ _ settled =>
      ⟨fun other => absurd rfl other, trivial, fun _ => settled, trivial⟩
  push i _ _ := by
    refine abides_mono (pushStatuses_settles i _) ?_
    exact fun _ _ _ settled =>
      ⟨fun other => absurd rfl other, trivial, fun _ => settled, trivial⟩
  renew i _ _ := by
    refine abides_mono (abides_calm renewSubscriptions_within (.refl i)) ?_
    exact fun _ _ _ calm => ⟨fun _ _ => calm, trivial, nofun, trivial⟩
  retire i _ := by
    exact abides_mono (abides_calm (within_sameOutlook retire_within) (.refl i))
      fun _ _ _ _ => trivial

/-- Whenever the loop over the pods is at rest, the status of every cached pod is the one that was
written last, or a wake-up is pending, or the last attempt to write its status failed.  In
particular a report that is noted as unchanged changes no status. -/
theorem statuses_settled (settings : Settings) (origin : Time.Stamp)
    (happenings : List Happening) :
    let c := (Chronicle.fresh settings origin).follow happenings
    (c.system.isResting .reconcile = true → ∀ key pod,
      c.system.desk.ledger.pods.get? key = some pod → c.affairs.Settled key pod) ∧
    ∀ (d : Desk) (report : Biz.Report) (now : Time.Stamp),
      (d.sightings.apply report now).2 = .unchanged → ∀ pod,
        ({ d with sightings := (d.sightings.apply report now).1 } : Desk).statusOf pod =
          d.statusOf pod := by
  intro c
  constructor
  · intro resting key pod cached
    have order := wakeContract_kept.follow settings origin trivial rfl happenings
    have settled : c.affairs.AllSettled := order.rest resting rfl
    exact settled (key, pod) ((Table.get?_eq_some_iff _ _ _).1 cached)
  · intro d report now unchanged pod
    let e : Desk := { d with sightings := (d.sightings.apply report now).1 }
    have settings : e.settings = d.settings := rfl
    exact statusOf_congr settings (view_apply_unchanged unchanged) pod

/-- A run with a pass over one pod, whose status cannot be written. -/
def unwrittenRun : List Happening :=
  let answered (strand : Strand) : Happening :=
    .stimulus (.answer strand (prepared [podOf "p" ["m"]] fun _ => true))
  [.start, answered .life, answered .life, answered .life, answered .life, answered .life,
    .stimulus .pass, answered (.loop .reconcile), answered (.loop .reconcile), answered (.loop .reconcile)]

/-- Where nothing is left to do about a status, this is because its last write failed. -/
theorem statuses_settled_unwritten :
    let c := (Chronicle.fresh default default).follow unwrittenRun
    (c.system.isResting .reconcile = true ∧
      c.system.desk.ledger.pods.get? "default/p" = some (podOf "p" ["m"]) ∧
      c.system.desk.ledger.written.get? "default/p" = none ∧ c.system.desk.wake = false) ∧
    LastWriteFailed c.record c.system.desk.ledger.pods "default/p" (podOf "p" ["m"]) := by
  intro c
  have met : c.system.isResting .reconcile = true ∧
      c.system.desk.ledger.pods.get? "default/p" = some (podOf "p" ["m"]) ∧
      c.system.desk.ledger.written.get? "default/p" = none ∧ c.system.desk.wake = false := by
    decide
  obtain ⟨resting, cached, unwritten, asleep⟩ := met
  refine ⟨⟨resting, cached, unwritten, asleep⟩, ?_⟩
  have settled := (statuses_settled default default unwrittenRun).1 resting _ _ cached
  rcases settled with written | woken | failed
  · have none_written : c.affairs.desk.ledger.written.get? "default/p" = none := unwritten
    rw [none_written] at written
    cases written
  · have still_asleep : c.affairs.desk.wake = false := asleep
    rw [still_asleep] at woken
    cases woken
  · exact failed

end VirtualNode.Controller
