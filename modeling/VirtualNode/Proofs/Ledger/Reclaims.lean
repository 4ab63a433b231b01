import VirtualNode.Proofs.Frames
import VirtualNode.Proofs.Interleaving.Sessions
import VirtualNode.Proofs.Ledger.Visits

/-!
# Modules that are claimed again

A module that was uninstalled is to be installed before a pod claims it again.  An uninstall makes
the controller forget what the base has reported of the module, and from then on no pod holds it and
nothing is known of it (`Absent`).  That stays so until an install is acknowledged, or a message
says that the module is there: for then a pass takes the module for installed, whenever the message
was sent.

The law of `absenceContract` says this of the moments since a given uninstall.  What the loop over
the pods has at hand while it visits a pod is followed through the visit (`releaseUndesired_abides`,
`acquireMissing_abides`); all other strands leave the ledger alone and publish no commands
(`Apart`).

Main statement: `reclaimed_after_install`.
-/

set_option autoImplicit false

namespace VirtualNode.Controller

open Biz (Descriptor)
open Contract (abides_bind abides_change abides_desk abides_mono abides_of_within abides_watch)
open Kube (Pod)

/-! ## Reports -/

/-- A message says of the module that it is in a state other than deactivated. -/
def Attests (d : Descriptor) (purpose : Topic.Purpose) (payload : ByteArray) : Prop :=
  purpose = .bizState ∧ ∃ reports, Biz.Report.decode payload = .ok reports ∧
    ∃ report ∈ reports, report.identity = d.identity ∧ report.state ≠ .deactivated

/-- A report that does not say that the module is there does not make it so. -/
theorem Inbox.alreadyThere_takeReport {i : Inbox} {report : Biz.Report} {d : Descriptor}
    (denies : report.identity = d.identity → report.state = .deactivated)
    (there : (i.takeReport report).1.alreadyThere d = true) : i.alreadyThere d = true := by
  have seen : (i.takeReport report).1.sightings = (i.sightings.apply report i.now).1 := by
    unfold takeReport
    rcases i.sightings.apply report i.now with ⟨sightings, _ | _⟩
    · rfl
    · rfl
  unfold alreadyThere at there ⊢
  rw [seen, Biz.Sightings.get?_apply] at there
  by_cases same : report.identity = d.identity
  · have state : (Biz.Sightings.observe (i.sightings.get? report.identity) report i.now).1.report =
        report := by
      unfold Biz.Sightings.observe
      split
      · rfl
      · split
        · rfl
        · rfl
    rw [if_pos same] at there
    simp [state, denies same] at there
  · simpa [same] using there

/-- Reports that do not say that the module is there do not make it so. -/
theorem Inbox.alreadyThere_takeReports {i : Inbox} {reports : List Biz.Report} {d : Descriptor}
    (denies : ∀ report ∈ reports, report.identity = d.identity → report.state = .deactivated)
    (there : (i.takeReports reports).1.alreadyThere d = true) : i.alreadyThere d = true := by
  induction reports generalizing i with
  | nil => exact there
  | cons report rest ih =>
    rw [List.forall_mem_cons] at denies
    exact alreadyThere_takeReport denies.1 (ih denies.2 there)

/-- A message that does not say that the module is there does not make it so. -/
theorem Inbox.alreadyThere_receive {i : Inbox} {purpose : Topic.Purpose} {topic : String}
    {payload : ByteArray} {d : Descriptor} (silent : ¬ Attests d purpose payload)
    (there : (i.receive purpose topic payload).alreadyThere d = true) :
    i.alreadyThere d = true := by
  cases purpose with
  | bizState =>
    unfold receive receiveReports at there
    cases decoded : Biz.Report.decode payload with
    | error e =>
      rw [decoded] at there
      exact there
    | ok reports =>
      rw [decoded] at there
      let heard := ({ i with metrics := i.metrics.addBizMessages reports.length }).touch
      have taken : (heard.takeReports reports).1.alreadyThere d = true := there
      refine alreadyThere_takeReports (i := heard) (fun report mem same => ?_) taken
      by_contra active
      exact silent ⟨rfl, reports, decoded, report, mem, same, active⟩
  | _ => exact there

/-! ## Since an uninstall -/

/-- The calls up to an acknowledged uninstall of the module. -/
def EndsUninstalling (upTo : List Moment) (d : Descriptor) : Prop :=
  ∃ early uninstall, upTo = early ++ [uninstall] ∧ uninstall.delivers .uninstall d = true

/-- The calls of `upTo` were answered, and among those answered since then is no acknowledged
install of the module. -/
def Absent (upTo : List Moment) (d : Descriptor) (record : List Moment) : Prop :=
  ∃ since, record = upTo ++ since ∧ ∀ moment ∈ since, moment.delivers .install d = false

section Absent

variable {upTo record more : List Moment} {moment : Moment} {d : Descriptor}

/-- A module stays absent while no install of it is acknowledged. -/
theorem Absent.concat (absent : Absent upTo d record)
    (other : moment.delivers .install d = false) : Absent upTo d (record ++ [moment]) := by
  obtain ⟨since, rfl, none⟩ := absent
  refine ⟨since ++ [moment], by simp, ?_⟩
  rw [List.forall_mem_append, List.forall_mem_singleton]
  exact ⟨none, other⟩

/-- After one more call the module was absent before, or the call was the uninstall. -/
theorem absent_concat (ends : EndsUninstalling upTo d)
    (absent : Absent upTo d (record ++ [moment])) :
    (Absent upTo d record ∧ moment.delivers .install d = false) ∨
      moment.delivers .uninstall d = true := by
  obtain ⟨early, uninstall, rfl, last⟩ := ends
  obtain ⟨since, whole, none⟩ := absent
  rcases List.eq_nil_or_concat since with rfl | ⟨front, final, rfl⟩
  · rw [List.append_nil] at whole
    have is : moment = uninstall := by simpa using (List.append_inj' whole rfl).2
    exact .inr (is ▸ last)
  · rw [List.concat_eq_append, ← List.append_assoc] at whole
    obtain ⟨rfl, is⟩ := List.append_inj' whole rfl
    obtain rfl : moment = final := by simpa using is
    rw [List.concat_eq_append, List.forall_mem_append] at none
    exact .inl ⟨⟨front, rfl, none.1⟩, none.2 moment (by simp)⟩

/-- Calls that are no commands do not matter. -/
theorem absent_append_iff (ends : EndsUninstalling upTo d)
    (others : ∀ moment ∈ more, moment.command? = none) :
    Absent upTo d (record ++ more) ↔ Absent upTo d record := by
  induction more generalizing record with
  | nil => rw [List.append_nil]
  | cons moment more ih =>
    rw [List.forall_mem_cons] at others
    rw [List.append_cons, ih others.2]
    constructor
    · intro absent
      rcases absent_concat ends absent with ⟨before, -⟩ | uninstalled
      · exact before
      · simp [Moment.delivers, others.1] at uninstalled
    · exact fun absent => absent.concat (by simp [Moment.delivers, others.1])

end Absent

/-! ## The contract -/

/-- The ledger is left alone, no commands are published, and the module does not come to be reported
while it is absent. -/
structure Apart (upTo : List Moment) (d : Descriptor) (i j : Affairs) : Prop where
  ledger : j.desk.ledger = i.desk.ledger
  record : ∃ more, j.record = i.record ++ more ∧ ∀ moment ∈ more, moment.command? = none
  reports : Absent upTo d i.record → j.desk.books.Reports d → i.desk.books.Reports d

/-- No pod holds a module twice, and a module that is absent is neither held nor reported. -/
structure Lawful (upTo : List Moment) (d : Descriptor) (i : Affairs) : Prop where
  tidy : i.desk.books.Tidy
  unheld : Absent upTo d i.record → ¬ i.desk.books.Held d
  unreported : Absent upTo d i.record → ¬ i.desk.books.Reports d

/-- The loop over the pods has the ledger for itself. -/
def absenceContract (upTo : List Moment) (d : Descriptor) : Contract where
  law := Lawful upTo d
  own strand i j := strand ≠ .loop .reconcile → Apart upTo d i j
  rely strand _ i j := strand = .loop .reconcile → Apart upTo d i j
  idle _ := True
  rest _ _ := True

/-- While the module is absent, no messages come that say that it is there. -/
def unattested (upTo : List Moment) (d : Descriptor) : Heed := fun i purpose payload =>
  Absent upTo d i.record → ¬ Attests d purpose payload

variable {upTo : List Moment} {d e : Descriptor} {start i j k l : Affairs} {moment : Moment}

/-- The books depend on claims and sightings alone. -/
theorem Desk.books_congr {f g : Desk} (claims : g.ledger.claims = f.ledger.claims)
    (sightings : g.sightings = f.sightings) : g.books = f.books := by
  have claimsOf : g.ledger.claimsOf = f.ledger.claimsOf := by
    funext key
    simp [Ledger.claimsOf, claims]
  simp [books, claimsOf, sightings]

/-- Where passes decide by the same, the books are the same. -/
theorem Desk.SameOutlook.books {f g : Desk} (same : f.SameOutlook g) : g.books = f.books :=
  Desk.books_congr (congrArg (fun o : Outlook => o.ledger.claims) same)
    (congrArg Outlook.sightings same)

namespace Apart

/-- Nothing at all stays apart. -/
theorem refl (i : Affairs) : Apart upTo d i i :=
  ⟨rfl, ⟨[], by simp, by simp⟩, fun _ => id⟩

/-- What stays apart does not change whether the module is absent. -/
theorem absent_iff (apart : Apart upTo d i j) (ends : EndsUninstalling upTo d) :
    Absent upTo d j.record ↔ Absent upTo d i.record := by
  obtain ⟨more, extended, others⟩ := apart.record
  rw [extended]
  exact absent_append_iff ends others

/-- What stays apart may go on. -/
theorem trans (ends : EndsUninstalling upTo d) (first : Apart upTo d i j)
    (second : Apart upTo d j k) : Apart upTo d i k := by
  refine ⟨second.ledger.trans first.ledger, ?_, fun absent there => ?_⟩
  · obtain ⟨more, extended, others⟩ := first.record
    obtain ⟨more', extended', others'⟩ := second.record
    refine ⟨more ++ more', by simp [extended, extended'], ?_⟩
    rw [List.forall_mem_append]
    exact ⟨others, others'⟩
  · exact first.reports absent (second.reports ((first.absent_iff ends).2 absent) there)

/-- A change of what passes do not decide by stays apart. -/
theorem withDesk {f : Desk} (same : i.desk.SameOutlook f) : Apart upTo d i (i.withDesk f) := by
  refine ⟨congrArg Outlook.ledger same, ⟨[], by simp, by simp⟩, fun _ there => ?_⟩
  rw [Affairs.desk_withDesk, same.books] at there
  exact there

/-- A call that is no command stays apart. -/
theorem note (other : moment.command? = none) : Apart upTo d i (i.note moment) :=
  ⟨rfl, ⟨[moment], rfl, by simpa using other⟩, fun _ => id⟩

/-- What stays apart leaves the claims as they were. -/
theorem claims (apart : Apart upTo d i j) : j.desk.books.claims = i.desk.books.claims := by
  simp [Desk.books, apart.ledger]

end Apart

/-- What comes from outside stays apart, unless it says that the module is there. -/
theorem Outside.apart {calls : Strand → Option Call}
    (came : Outside (unattested upTo d) calls i j) : Apart upTo d i j := by
  cases came with
  | message purpose topic payload heeded =>
    refine ⟨rfl, ⟨[], by simp, by simp⟩, fun absent there => ?_⟩
    rw [← Inbox.alreadyThere_iff] at there ⊢
    exact Inbox.alreadyThere_receive (heeded absent) there
  | connect => exact ⟨rfl, ⟨[], by simp, by simp⟩, fun _ => id⟩
  | elapse ms => exact ⟨rfl, ⟨[], by simp, by simp⟩, fun _ => id⟩
  | cancel => exact .withDesk rfl
  | outcome => exact .withDesk rfl

namespace Lawful

/-- What stays apart keeps the law. -/
theorem apart (ends : EndsUninstalling upTo d) (lawful : Lawful upTo d i)
    (apart : Apart upTo d i j) : Lawful upTo d j := by
  have held : j.desk.books.Held d ↔ i.desk.books.Held d := by
    simp [Books.Held, Books.Holds, apart.claims]
  refine ⟨?_, ?_, ?_⟩
  · unfold Books.Tidy
    rw [apart.claims]
    exact lawful.tidy
  · rw [apart.absent_iff ends, held]
    exact lawful.unheld
  · intro absent there
    have before := (apart.absent_iff ends).1 absent
    exact lawful.unreported before (apart.reports before there)

/-- The law depends on the books, and on whether the module is absent. -/
theorem congr (lawful : Lawful upTo d i) (books : j.desk.books = i.desk.books)
    (absent : Absent upTo d j.record → Absent upTo d i.record) : Lawful upTo d j := by
  refine ⟨?_, ?_, ?_⟩
  · rw [books]
    exact lawful.tidy
  · rw [books]
    exact fun now => lawful.unheld (absent now)
  · rw [books]
    exact fun now => lawful.unreported (absent now)

/-- The law is kept by a change that leaves the books alone. -/
theorem withDesk {f : Desk} (lawful : Lawful upTo d i) (books : f.books = i.desk.books) :
    Lawful upTo d (i.withDesk f) :=
  lawful.congr books id

/-- A module that was just uninstalled on behalf of the only pod that held it is absent lawfully. -/
theorem forget (lawful : Lawful upTo d i) (books : j.desk.books = i.desk.books.forget e.identity)
    (absent : Absent upTo d j.record → Absent upTo d i.record ∨ e.same d = true)
    (unheld : ¬ i.desk.books.Held e) : Lawful upTo d j := by
  refine ⟨?_, ?_, ?_⟩
  · rw [books]
    exact Books.tidy_forget.2 lawful.tidy
  · rw [books, Books.held_forget]
    intro now held
    rcases absent now with before | same
    · exact lawful.unheld before held
    · exact unheld (held.congr (Descriptor.same_symm same))
  · rw [books]
    intro now there
    rcases absent now with before | same
    · exact lawful.unreported before (Books.reports_of_reports_forget there)
    · obtain ⟨seen, is, -⟩ := there
      simp [Books.forget, Descriptor.identity_eq_of_same same] at is

end Lawful

/-! ## Work without commands -/

/-- Whoever does not touch what passes decide by, and publishes no commands, stays apart. -/
theorem abides_apart (ends : EndsUninstalling upTo d) {α : Type} {strand : Strand}
    {task : Activity α} (within : task.Within Desk.SameOutlook Call.Distant i.desk)
    (apart : Apart upTo d start i) (lawful : Lawful upTo d i) :
    (absenceContract upTo d).Abides strand task start i fun _ i j =>
      Apart upTo d i j ∧ Lawful upTo d j := by
  refine abides_of_within (P := fun i j => Apart upTo d i j ∧ Lawful upTo d j) within
    ⟨apart, lawful⟩ ?_ ?_
  · rintro i j f outlook ⟨apart, lawful⟩
    have changed : Apart upTo d j (j.withDesk f) := .withDesk outlook
    exact ⟨apart.trans ends changed, lawful.apart ends changed⟩
  · rintro i j call distant ⟨apart, lawful⟩
    refine ⟨fun _ => apart, lawful, fun k _ lawful answer => ?_⟩
    have noted : Apart upTo d k (k.note ⟨⟨call, answer⟩, j.desk⟩) := by
      refine .note ?_
      cases call with
      | command verb key target => exact distant.elim
      | _ => rfl
    exact ⟨noted, lawful.apart ends noted⟩

/-- What the loop over the pods does without commands keeps the law, if it leaves alone what passes
decide by. -/
theorem abides_lawful (ends : EndsUninstalling upTo d) {α : Type} {task : Activity α}
    {R : Desk → Desk → Prop} {Q : Call → Prop} (within : task.Within R Q i.desk)
    (keeps : ∀ f g, R f g → g.books = f.books) (others : ∀ verb key e, ¬ Q (.command verb key e))
    (lawful : Lawful upTo d i) :
    (absenceContract upTo d).Abides (.loop .reconcile) task start i fun _ _ j =>
      Lawful upTo d j := by
  refine abides_of_within (P := fun _ j => Lawful upTo d j) within lawful ?_ ?_
  · intro i j f change lawful
    exact lawful.withDesk (keeps _ _ change)
  · intro i j call asked lawful
    refine ⟨fun other => absurd rfl other, lawful, fun k _ lawful answer => ?_⟩
    refine lawful.apart ends (.note ?_)
    cases call with
    | command verb key target => exact absurd asked (others verb key target)
    | _ => rfl

/-- Work without commands keeps the law, if it leaves alone what passes decide by. -/
theorem abides_distant (ends : EndsUninstalling upTo d) {α : Type} {task : Activity α}
    (within : task.Within Desk.SameOutlook Call.Distant i.desk) (lawful : Lawful upTo d i) :
    (absenceContract upTo d).Abides (.loop .reconcile) task start i fun _ _ j =>
      Lawful upTo d j :=
  abides_lawful ends within (fun _ _ => Desk.SameOutlook.books) (fun _ _ _ => id) lawful

/-! ## Commands -/

/-- A command was answered, and what passes decide by has been left alone since. -/
structure Published (k : Affairs) (command : Command) (l : Affairs) : Prop where
  noted : ∃ moment, Moment.command? moment = some command ∧ l.record = k.record ++ [moment]
  ledger : l.desk.ledger = k.desk.ledger
  sightings : l.desk.sightings = k.desk.sightings

namespace Published

variable {key : String} {delivered : Bool}

/-- A command that is published changes no books yet. -/
theorem books {command : Command} (published : Published k command l) :
    l.desk.books = k.desk.books :=
  Desk.books_congr (congrArg Ledger.claims published.ledger) published.sightings

/-- After an install the module was absent before, and it was not that module that was installed. -/
theorem absent_of_install (ends : EndsUninstalling upTo d)
    (published : Published k ⟨.install, key, e, delivered⟩ l) (absent : Absent upTo d l.record) :
    Absent upTo d k.record ∧ (delivered = true → e.same d = false) := by
  obtain ⟨moment, is, extended⟩ := published.noted
  rw [extended] at absent
  rcases absent_concat ends absent with ⟨before, other⟩ | uninstalled
  · refine ⟨before, ?_⟩
    rintro rfl
    simpa [Moment.delivers, is] using other
  · simp [Moment.delivers, is] at uninstalled

/-- After an uninstall the module was absent before, or it was that module that was uninstalled. -/
theorem absent_of_uninstall (ends : EndsUninstalling upTo d)
    (published : Published k ⟨.uninstall, key, e, delivered⟩ l) (absent : Absent upTo d l.record) :
    Absent upTo d k.record ∨ (delivered = true ∧ e.same d = true) := by
  obtain ⟨moment, is, extended⟩ := published.noted
  rw [extended] at absent
  rcases absent_concat ends absent with ⟨before, -⟩ | uninstalled
  · exact .inl before
  · exact .inr (by simpa [Moment.delivers, is, and_comm] using uninstalled)

end Published

/-- While a command is on its way the others stay apart, and what follows begins after it is
published. -/
theorem publishCommand_abides {verb : Verb} {key : String} {post : Contract.Post Bool}
    (lawful : Lawful upTo d j)
    (go_on : ∀ k l delivered, Apart upTo d j k → Lawful upTo d k →
      Published k ⟨verb, key, e, delivered⟩ l → post delivered k l) :
    (absenceContract upTo d).Abides (.loop .reconcile) (publishCommand verb key e) start j post := by
  refine ⟨fun other => absurd rfl other, lawful, fun k apart lawful answer => ?_⟩
  have noted : ∃ moment, Moment.command? moment = some ⟨verb, key, e, answer.isOk⟩ ∧
      (k.note ⟨⟨.command verb key e, answer⟩, j.desk⟩).record = k.record ++ [moment] :=
    ⟨⟨⟨.command verb key e, answer⟩, j.desk⟩, rfl, rfl⟩
  cases answer with
  | ok _ => exact go_on k _ true (apart rfl) lawful ⟨noted, rfl, rfl⟩
  | error fault => exact go_on k _ false (apart rfl) lawful ⟨noted, rfl, rfl⟩

/-! ## Claims at hand -/

/-- The claims of a pod are at hand: the ledger is lawful without them, and they are lawful by
themselves. -/
structure AtHand (upTo : List Moment) (d : Descriptor) (key : String) (held : List Descriptor)
    (i : Affairs) : Prop where
  lawful : Lawful upTo d i
  out : i.desk.ledger.claims.get? key = none
  unlike : held.Pairwise fun e f => e.same f = false
  free : Absent upTo d i.record → ∀ e ∈ held, e.same d = false

/-- Of two different modules at most one is the one in question. -/
theorem same_eq_false_of_unlike {f : Descriptor} (unlike : e.same f = false)
    (same : e.same d = true) : f.same d = false := by
  rw [← Descriptor.same_congr_right same, Descriptor.same_comm]
  exact unlike

namespace AtHand

variable {key : String} {held rest : List Descriptor}

/-- What is left at hand when a module was let go of is at hand. -/
theorem tail (atHand : AtHand upTo d key (e :: rest) j) (lawful : Lawful upTo d k)
    (out : k.desk.ledger.claims.get? key = none)
    (absent : Absent upTo d k.record → Absent upTo d j.record ∨ e.same d = true) :
    AtHand upTo d key rest k := by
  obtain ⟨-, -, unlike, free⟩ := atHand
  rw [List.pairwise_cons] at unlike
  refine ⟨lawful, out, unlike.2, fun now f mem => ?_⟩
  rcases absent now with before | same
  · exact free before f (List.mem_cons_of_mem e mem)
  · exact same_eq_false_of_unlike (unlike.1 f mem) same

/-- A module that is kept is at hand again. -/
theorem cons (atHand : AtHand upTo d key held l)
    (unlike : (e :: held).Pairwise fun e f => e.same f = false)
    (free : Absent upTo d l.record → e.same d = false) : AtHand upTo d key (e :: held) l := by
  refine ⟨atHand.lawful, atHand.out, unlike, fun now => ?_⟩
  rw [List.forall_mem_cons]
  exact ⟨free now, atHand.free now⟩

/-- A module that is taken up is at hand. -/
theorem concat (atHand : AtHand upTo d key held l) (new : ∀ f ∈ held, f.same e = false)
    (free : Absent upTo d l.record → e.same d = false) :
    AtHand upTo d key (held ++ [e]) l := by
  refine ⟨atHand.lawful, atHand.out, ?_, fun now => ?_⟩
  · refine List.pairwise_append.2 ⟨atHand.unlike, List.pairwise_singleton _ _, ?_⟩
    simpa using new
  · rw [List.forall_mem_append]
    exact ⟨atHand.free now, by simpa using free now⟩

end AtHand

/-- The claims of a key that were taken out stay out while a command is published. -/
theorem out_of_published {key key' : String} {verb : Verb} {delivered : Bool}
    (out : j.desk.ledger.claims.get? key = none) (apart : Apart upTo d j k)
    (published : Published k ⟨verb, key', e, delivered⟩ l) :
    l.desk.ledger.claims.get? key = none := by
  rw [published.ledger, apart.ledger, out]

/-- A pod whose claims are at hand holds nothing in the ledger. -/
theorem not_held_of_out {s : Desk} {key : String} (out : s.ledger.claims.get? key = none)
    (alone : ¬ s.books.HeldElsewhere key e) : ¬ s.books.Held e := by
  rintro ⟨other, f, mem, same⟩
  by_cases is : other = key
  · subst is
    simp [Desk.books, Ledger.claimsOf, out] at mem
  · exact alone ⟨other, is, f, mem, same⟩

/-- A module that is released becomes absent only by its uninstall. -/
theorem release_abides (ends : EndsUninstalling upTo d) {listing : List Pod} {key : String}
    (lawful : Lawful upTo d j) (out : j.desk.ledger.claims.get? key = none) :
    (absenceContract upTo d).Abides (.loop .reconcile) (release listing key e) start j
      fun gone _ l => Lawful upTo d l ∧ l.desk.ledger.claims.get? key = none ∧
        (Absent upTo d l.record → Absent upTo d j.record ∨ (gone = true ∧ e.same d = true)) := by
  refine abides_bind.2 (abides_desk.2 ?_)
  dsimp only
  split
  · exact ⟨lawful, out, .inl⟩
  · rename_i unused
    rw [Bool.or_eq_true, not_or, Ledger.heldElsewhere_iff] at unused
    have unheld : ¬ j.desk.books.Held e := not_held_of_out out unused.2
    refine abides_bind.2 (publishCommand_abides lawful fun k l delivered apart lawful' published => ?_)
    have out' := out_of_published out apart published
    have books := published.books
    have absent := published.absent_of_uninstall ends
    have absent' := absent
    rw [apart.absent_iff ends] at absent'
    cases delivered with
    | false => exact ⟨lawful'.congr books fun now => by simpa using absent now, out', absent'⟩
    | true =>
      refine abides_bind.2 (abides_change.2 ⟨?_, out', absent'⟩)
      refine lawful'.forget ((Desk.books_forget l.desk e.identity).trans (by rw [books]))
        (fun now => (absent now).imp_right And.right) ?_
      simpa [Books.Held, Books.Holds, apart.claims] using unheld

/-- A module that is gone over becomes absent only by its uninstall. -/
theorem retain_abides (ends : EndsUninstalling upTo d) {listing : List Pod} {key : String}
    {desired : List Descriptor} (lawful : Lawful upTo d j)
    (out : j.desk.ledger.claims.get? key = none) :
    (absenceContract upTo d).Abides (.loop .reconcile) (retain listing key desired e) start j
      fun kept _ l => Lawful upTo d l ∧ l.desk.ledger.claims.get? key = none ∧
        (Absent upTo d l.record → Absent upTo d j.record ∨ (kept = false ∧ e.same d = true)) := by
  unfold retain
  split
  · exact ⟨lawful, out, .inl⟩
  · refine abides_bind.2 (abides_mono (release_abides ends lawful out) ?_)
    rintro gone _ l ⟨lawful, out, absent⟩
    exact ⟨lawful, out, by simpa using absent⟩

/-- After the sweep what is kept is at hand, and the module became absent only if it was let go of.
-/
theorem releaseUndesired_abides (ends : EndsUninstalling upTo d) {listing : List Pod} {key : String}
    {desired previous : List Descriptor} (atHand : AtHand upTo d key previous j) :
    (absenceContract upTo d).Abides (.loop .reconcile)
      (releaseUndesired listing key desired previous) start j fun held _ l =>
        AtHand upTo d key held l ∧ held.Sublist previous ∧
          (Absent upTo d l.record →
            Absent upTo d j.record ∨ ∃ e ∈ previous, e.same d = true) := by
  induction previous generalizing start j with
  | nil => exact ⟨atHand, .refl [], .inl⟩
  | cons e rest ih =>
    refine abides_bind.2 (abides_mono (retain_abides ends atHand.lawful atHand.out) ?_)
    rintro kept start k ⟨lawful, out, absent⟩
    have left := atHand.tail lawful out fun now => (absent now).imp_right And.right
    refine abides_bind.2 (abides_mono (ih left) ?_)
    rintro held start l ⟨atHand', sublist, absent'⟩
    have whole : Absent upTo d l.record →
        Absent upTo d j.record ∨ ∃ f ∈ e :: rest, f.same d = true := by
      intro now
      rcases absent' now with between | ⟨f, mem, same⟩
      · exact (absent between).imp_right fun released => ⟨e, by simp, released.2⟩
      · exact .inr ⟨f, List.mem_cons_of_mem e mem, same⟩
    cases kept with
    | false => exact ⟨atHand', sublist.cons e, whole⟩
    | true =>
      have unlike := atHand.unlike
      refine ⟨atHand'.cons (unlike.sublist (sublist.cons_cons e)) ?_, sublist.cons_cons e, whole⟩
      intro now
      rcases absent' now with between | ⟨f, mem, same⟩
      · have before := (absent between).resolve_right (by simp)
        exact atHand.free before e (by simp)
      · -- another claim was uninstalled, and no pod holds a module twice
        have differ := (List.pairwise_cons.1 unlike).1 f mem
        rw [Descriptor.same_comm] at differ
        exact same_eq_false_of_unlike differ same

/-- The claim on a module that is absent stands only after an install. -/
theorem acquire_abides (ends : EndsUninstalling upTo d) {key : String} (lawful : Lawful upTo d j)
    (out : j.desk.ledger.claims.get? key = none) :
    (absenceContract upTo d).Abides (.loop .reconcile) (acquire key e) start j
      fun stands _ l => Lawful upTo d l ∧ l.desk.ledger.claims.get? key = none ∧
        (Absent upTo d l.record → Absent upTo d j.record ∧ (stands = true → e.same d = false)) := by
  refine abides_bind.2 (abides_desk.2 ?_)
  split
  · rename_i there
    rw [Bool.or_eq_true, Inbox.alreadyThere_iff, Ledger.heldElsewhere_iff] at there
    refine ⟨lawful, out, fun absent => ⟨absent, fun _ => ?_⟩⟩
    rw [Bool.eq_false_iff]
    intro same
    rcases there with reported | held
    · exact lawful.unreported absent (reported.congr same)
    · exact lawful.unheld absent (held.held.congr same)
  · refine publishCommand_abides lawful fun k l delivered apart lawful' published => ?_
    have absent := published.absent_of_install ends
    refine ⟨lawful'.congr published.books fun now => (absent now).1,
      out_of_published out apart published, fun now => ?_⟩
    have before := absent now
    exact ⟨(apart.absent_iff ends).1 before.1, before.2⟩

/-- What is at hand after the modules that were missing are acquired is at hand lawfully. -/
theorem acquireMissing_abides (ends : EndsUninstalling upTo d) {key : String}
    {held missing : List Descriptor} (atHand : AtHand upTo d key held j) :
    (absenceContract upTo d).Abides (.loop .reconcile) (acquireMissing key held missing) start j
      fun held _ l => AtHand upTo d key held l := by
  induction missing generalizing start j held with
  | nil => exact atHand
  | cons e rest ih =>
    unfold acquireMissing
    split
    · exact ih atHand
    · rename_i new
      rw [Bool.not_eq_true, List.any_eq_false] at new
      refine abides_bind.2 (abides_mono (acquire_abides ends atHand.lawful atHand.out) ?_)
      rintro stands start k ⟨lawful, out, absent⟩
      have before : AtHand upTo d key held k :=
        ⟨lawful, out, atHand.unlike, fun now => atHand.free (absent now).1⟩
      refine ih ?_
      cases stands with
      | false => exact before
      | true => exact before.concat (by simpa using new) fun now => (absent now).2 rfl

/-! ## Visits -/

/-- The law stays when the claims of one pod are replaced by others that are lawful
by themselves. -/
theorem Lawful.withClaims {key : String} {held : List Descriptor} {f : Desk}
    (lawful : Lawful upTo d i) (books : f.books = i.desk.books.withClaims key held)
    (unlike : held.Pairwise fun e f => e.same f = false)
    (free : Absent upTo d i.record → ∀ e ∈ held, e.same d = false) :
    Lawful upTo d (i.withDesk f) := by
  refine ⟨?_, fun absent there => ?_, fun absent there => ?_⟩
  · intro other
    rw [Affairs.desk_withDesk, books]
    by_cases is : other = key
    · rw [is, Books.claims_withClaims_self]
      exact unlike
    · rw [Books.claims_withClaims_of_ne is]
      exact lawful.tidy other
  · rw [Affairs.desk_withDesk, books, Books.held_withClaims] at there
    rcases there with ⟨e, mem, same⟩ | elsewhere
    · rw [free absent e mem] at same
      cases same
    · exact lawful.unheld absent elsewhere.held
  · rw [Affairs.desk_withDesk, books] at there
    exact lawful.unreported absent there

/-- What is taken out of the claims is at hand. -/
theorem atHand_dropClaims (lawful : Lawful upTo d i) (key : String) :
    AtHand upTo d key (i.desk.ledger.claimsOf key)
      (i.withDesk (i.desk.updateLedger (·.dropClaims key))) := by
  have out : (i.desk.updateLedger (·.dropClaims key)).ledger.claims.get? key = none := by
    simp [Desk.updateLedger, Ledger.dropClaims, Table.get?_erase]
  have books := Desk.books_dropClaims i.desk key []
  have same := Books.withClaims_claims_self (i.desk.updateLedger (·.dropClaims key)).books key
  have none : (i.desk.updateLedger (·.dropClaims key)).books.claims key = [] := by
    simp [Desk.books, Ledger.claimsOf, out]
  rw [none, books] at same
  refine ⟨lawful.withClaims same.symm .nil (by simp), out, lawful.tidy key, ?_⟩
  intro absent e mem
  rw [Bool.eq_false_iff]
  exact fun same => lawful.unheld absent ⟨key, e, mem, same⟩

/-- What is at hand may be put back into the claims. -/
theorem AtHand.setClaims {key : String} {held : List Descriptor}
    (atHand : AtHand upTo d key held i) :
    Lawful upTo d (i.withDesk (i.desk.updateLedger (·.setClaims key held))) :=
  atHand.lawful.withClaims (Desk.books_setClaims i.desk key held atHand.out) atHand.unlike atHand.free

/-- The visit of a live pod keeps the law. -/
theorem syncPod_abides (ends : EndsUninstalling upTo d) {listing : List Pod} {pod : Pod}
    (lawful : Lawful upTo d i) :
    (absenceContract upTo d).Abides (.loop .reconcile) (syncPod listing pod) start i fun _ _ j =>
      Lawful upTo d j := by
  refine abides_bind.2 (abides_desk.2 (abides_bind.2 (abides_change.2 ?_)))
  have opened := atHand_dropClaims lawful pod.key
  refine abides_bind.2 (abides_mono (releaseUndesired_abides ends opened) ?_)
  rintro held start j ⟨released, -⟩
  refine abides_bind.2 (abides_mono (acquireMissing_abides ends released) ?_)
  rintro held start j acquired
  exact acquired.setClaims

/-- To release all that a pod holds keeps the law. -/
theorem releaseAll_abides (ends : EndsUninstalling upTo d) {listing : List Pod} {key : String}
    (lawful : Lawful upTo d i) :
    (absenceContract upTo d).Abides (.loop .reconcile) (releaseAll listing key) start i fun _ _ j =>
      Lawful upTo d j := by
  refine abides_bind.2 (abides_desk.2 (abides_bind.2 (abides_change.2 ?_)))
  have opened := atHand_dropClaims lawful key
  refine abides_bind.2 (abides_mono (releaseUndesired_abides ends opened) ?_)
  rintro held start j ⟨released, -⟩
  exact abides_bind.2 (abides_change.2 released.setClaims)

/-- The visit of a terminating pod keeps the law. -/
theorem dismissPod_abides (ends : EndsUninstalling upTo d) {listing : List Pod} {pod : Pod}
    (lawful : Lawful upTo d i) :
    (absenceContract upTo d).Abides (.loop .reconcile) (dismissPod listing pod) start i fun _ _ j =>
      Lawful upTo d j := by
  refine abides_bind.2 (abides_change.2 ?_)
  have forgotten : Lawful upTo d
      (i.withDesk (i.desk.updateLedger (·.forgetStatus pod.key))) := lawful.withDesk rfl
  refine abides_bind.2 (abides_mono (releaseAll_abides ends forgotten) ?_)
  rintro gone start j lawful
  cases gone with
  | false => exact lawful
  | true =>
    have within : (deletePod pod).Within Desk.SameOutlook Call.Distant j.desk :=
      Dialogue.within_request_bind.2 ⟨trivial, fun _ _ => trivial⟩
    exact abides_distant ends within lawful

/-! ## Passes -/

/-- The visits of a listing keep the law. -/
theorem visitPods_abides (ends : EndsUninstalling upTo d) {listing rest : List Pod}
    {live : Table String Pod} (lawful : Lawful upTo d i) :
    (absenceContract upTo d).Abides (.loop .reconcile) (visitPods listing rest live) start i
      fun _ _ j => Lawful upTo d j := by
  induction rest generalizing start i live with
  | nil => exact lawful
  | cons pod rest ih =>
    unfold visitPods
    split
    · exact abides_bind.2 (abides_mono (dismissPod_abides ends lawful) fun _ _ _ => ih)
    · exact abides_bind.2 (abides_mono (syncPod_abides ends lawful) fun _ _ _ => ih)

/-- To release what vanished pods hold keeps the law. -/
theorem releaseVanished_abides (ends : EndsUninstalling upTo d) {listing : List Pod}
    {keys : List String} (lawful : Lawful upTo d i) :
    (absenceContract upTo d).Abides (.loop .reconcile) (releaseVanished listing keys) start i
      fun _ _ j => Lawful upTo d j := by
  induction keys generalizing start i with
  | nil => exact lawful
  | cons key rest ih =>
    refine abides_bind.2 (abides_change.2 ?_)
    have forgotten : Lawful upTo d
        (i.withDesk (i.desk.updateLedger (·.forgetStatus key))) := lawful.withDesk rfl
    exact abides_bind.2 (abides_mono (releaseAll_abides ends forgotten) fun _ _ _ => ih)

/-- The writing of statuses keeps the law. -/
theorem pushStatuses_abides (ends : EndsUninstalling upTo d) (lawful : Lawful upTo d i) :
    (absenceContract upTo d).Abides (.loop .reconcile) pushStatuses start i fun _ _ j =>
      Lawful upTo d j :=
  abides_lawful ends pushStatuses_within (fun _ _ pushes => Desk.books_congr pushes.claims pushes.sightings)
    (fun _ _ _ => id) lawful

/-- What a pass does after its listing keeps the law. -/
theorem followListing_abides (ends : EndsUninstalling upTo d) {listing : List Pod}
    (lawful : Lawful upTo d i) :
    (absenceContract upTo d).Abides (.loop .reconcile) (followListing listing) start i fun _ _ j =>
      Lawful upTo d j := by
  refine abides_bind.2 (abides_mono (visitPods_abides ends lawful) ?_)
  rintro live start j lawful
  refine abides_bind.2 (abides_desk.2 (abides_bind.2 (abides_mono
    (releaseVanished_abides ends lawful) ?_)))
  rintro _ start j lawful
  exact abides_bind.2 (abides_change.2 (pushStatuses_abides ends (lawful.withDesk rfl)))

/-- A pass keeps the law. -/
theorem reconcile_abides_lawful (ends : EndsUninstalling upTo d) (lawful : Lawful upTo d i) :
    (absenceContract upTo d).Abides (.loop .reconcile) reconcile start i fun _ _ j =>
      Lawful upTo d j := by
  refine abides_bind.2 (abides_desk.2 (abides_bind.2 (abides_mono
    (abides_distant ends ensureSubscribed_within lawful) ?_)))
  rintro _ start j lawful
  refine ⟨fun other => absurd rfl other, lawful, fun k _ lawful answer => ?_⟩
  have noted : Lawful upTo d (k.note ⟨⟨.listPods, answer⟩, j.desk⟩) :=
    lawful.apart ends (.note rfl)
  simp only [Dialogue.bind_done]
  refine abides_bind.2 (abides_desk.2 ?_)
  split
  · rename_i fault _
    have outlook := (k.desk.listingFailed_eq fault).2
    exact noted.withDesk (Desk.books_congr (congrArg (fun o : Outlook => o.ledger.claims) outlook)
      (congrArg Outlook.sightings outlook))
  · refine abides_bind.2 (abides_change.2 (abides_bind.2 (abides_mono
      (followListing_abides ends (noted.withDesk rfl)) ?_)))
    rintro _ start j lawful
    exact lawful.withDesk rfl

/-- Everybody keeps the contract, while no message says that the absent module is there. -/
theorem absenceContract_kept (ends : EndsUninstalling upTo d) :
    (absenceContract upTo d).KeptAmid (unattested upTo d) where
  rely_refl _ _ i _ := .refl i
  rely_trans _ _ _ _ _ first second which := (first which).trans ends (second which)
  rely_own name other _ _ _ differ own which := by
    have is : name = .reconcile := by simpa using which
    subst is
    exact own (by simpa using differ)
  rest_own _ _ _ _ _ _ _ := trivial
  law_outside _ _ _ came lawful := lawful.apart ends came.apart
  rely_outside _ _ _ _ _ came _ _ _ := came.apart
  idle_outside _ _ _ _ _ _ := trivial
  rest_outside _ _ _ _ _ _ _ := trivial
  enlist i lawful _ := by
    refine abides_mono (abides_apart ends enlist_within (.refl i) lawful) ?_
    rintro worked _ j ⟨-, lawful⟩
    cases worked with
    | false => exact lawful
    | true =>
      refine ⟨lawful, trivial, trivial, ?_⟩
      refine abides_watch (fun _ => .refl j) lawful fun k _ lawful answer => ?_
      have apart : Apart upTo d k (k.note ⟨⟨.turn, answer⟩, j.desk⟩).seen :=
        (Apart.note rfl).trans ends (.withDesk rfl)
      exact ⟨fun _ => apart, lawful.apart ends apart, trivial, trivial⟩
  beat i lawful _ := by
    refine abides_mono (abides_apart ends (within_sameOutlook beat_within) (.refl i) lawful) ?_
    exact fun _ _ _ known => ⟨fun _ => known.1, known.2, trivial, trivial⟩
  reconcile i lawful _ := by
    refine abides_mono (reconcile_abides_lawful ends lawful) ?_
    exact fun _ _ _ lawful => ⟨fun other => absurd rfl other, lawful, trivial, trivial⟩
  push i lawful _ := by
    refine abides_mono (pushStatuses_abides ends (lawful.withDesk rfl)) ?_
    exact fun _ _ _ lawful => ⟨fun other => absurd rfl other, lawful, trivial, trivial⟩
  renew i lawful _ := by
    refine abides_mono (abides_apart ends renewSubscriptions_within (.refl i) lawful) ?_
    exact fun _ _ _ known => ⟨fun _ => known.1, known.2, trivial, trivial⟩
  retire i lawful := by
    refine abides_mono (abides_apart ends (within_sameOutlook retire_within) (.refl i) lawful) ?_
    exact fun _ _ _ known => known.2

/-! ## Whole runs -/

/-- Whether what happens is a message that says that the module is there. -/
def Happening.Attests (d : Descriptor) : Happening → Prop
  | .stimulus (.message purpose _ payload) => Controller.Attests d purpose payload
  | _ => False

/-- What happens is heeded if no message says that the absent module is there. -/
theorem Happening.heeded_unattested {s : Happening}
    (silent : Absent upTo d i.record → ¬ s.Attests d) : s.Heeded (unattested upTo d) i := by
  cases s with
  | start => trivial
  | stimulus stimulus =>
    cases stimulus with
    | message purpose topic payload => exact silent
    | _ => trivial

/-- Before the uninstall the module is not yet absent. -/
theorem not_absent_of_length {record : List Moment} (shorter : record.length < upTo.length) :
    ¬ Absent upTo d record := by
  rintro ⟨since, rfl, -⟩
  rw [List.length_append] at shorter
  omega

/-- After the uninstall the module is absent for as long as no install of it is acknowledged. -/
theorem absent_of_prefix {record : List Moment} (grows : upTo <+: record)
    (none : ¬ ∃ moment ∈ record.drop upTo.length, moment.delivers .install d = true) :
    Absent upTo d record := by
  obtain ⟨since, rfl⟩ := grows
  rw [List.drop_left] at none
  refine ⟨since, rfl, fun moment mem => ?_⟩
  rw [Bool.eq_false_iff]
  exact fun installs => none ⟨moment, mem, installs⟩

/-- Nothing that happens until the uninstall is acknowledged counts. -/
theorem heeded_unattested_of_silent {c : Chronicle} {early late before after : List Happening}
    {h s : Happening} (answered : (c.follow early).answered? h = some moment)
    (silent : ¬ ∃ s ∈ late, s.Attests d) (cut : early ++ h :: late = before ++ s :: after) :
    s.Heeded (unattested ((c.follow early).record ++ [moment]) d) (c.follow before).affairs := by
  refine Happening.heeded_unattested fun absent attests => ?_
  rcases append_eq_append_cons cut with ⟨between, -, rest⟩ | ⟨between, rfl, -⟩
  · cases between with
    | nil =>
      -- the uninstall is acknowledged by an answer and not by a message
      obtain ⟨rfl, -⟩ : h = s ∧ late = after := by simpa using rest
      cases h with
      | start => exact attests
      | stimulus stimulus =>
        cases stimulus with
        | message purpose topic payload => cases answered
        | _ => exact attests
    | cons first between =>
      obtain ⟨-, rfl⟩ : h = first ∧ late = between ++ s :: after := by simpa using rest
      exact silent ⟨s, by simp, attests⟩
  · have grows := (c.follow before).record_prefix_follow (s :: between)
    rw [← Chronicle.follow_append] at grows
    refine not_absent_of_length ?_ absent
    rw [List.length_append]
    exact Nat.lt_succ_of_le grows.length_le

/-- At the beginning nothing is held or reported. -/
theorem lawful_fresh (settings : Settings) (origin : Time.Stamp) :
    Lawful upTo d (Chronicle.fresh settings origin).affairs := by
  refine ⟨fun key => .nil, fun _ held => ?_, fun _ reported => ?_⟩
  · obtain ⟨key, e, mem, -⟩ := held
    cases mem
  · obtain ⟨seen, is, -⟩ := reported
    cases is

/-- Whenever a pod holds a module that was uninstalled, an install of the module was acknowledged
since, or a message came since that says that the module is there. -/
theorem reclaimed_after_install (settings : Settings) (origin : Time.Stamp)
    (early late : List Happening) (h : Happening) (d : Descriptor) :
    let c := (Chronicle.fresh settings origin).follow early
    let e := (c.step h).follow late
    (c.answered? h).any (Moment.delivers .uninstall d) = true → e.system.desk.books.Held d →
      (∃ moment ∈ e.record.drop (c.record.length + 1), moment.delivers .install d = true) ∨
        ∃ s ∈ late, s.Attests d := by
  intro c e acknowledged held
  obtain ⟨moment, answered, uninstalled⟩ := (Option.any_eq_true _ _).1 acknowledged
  have ends : EndsUninstalling (c.record ++ [moment]) d := ⟨c.record, moment, rfl, uninstalled⟩
  have noted : (c.step h).record = c.record ++ [moment] := by
    unfold Chronicle.step
    rw [answered]
  have whole : (Chronicle.fresh settings origin).follow (early ++ h :: late) = e :=
    Chronicle.follow_append _ early (h :: late)
  by_contra neither
  rw [not_or] at neither
  obtain ⟨none, silent⟩ := neither
  have order := (absenceContract_kept ends).follow settings origin (lawful_fresh settings origin)
    trivial fun _ _ _ => heeded_unattested_of_silent answered silent
  rw [whole] at order
  have grows : c.record ++ [moment] <+: e.record := by
    rw [← noted]
    exact (c.step h).record_prefix_follow late
  have absent : Absent (c.record ++ [moment]) d e.record :=
    absent_of_prefix grows (by simpa using none)
  exact order.law.unheld absent held

/-- The loop over the pods gets the listing that it has asked for. -/
def listed (listing : List Pod) : Happening :=
  .stimulus (.answer (.loop .reconcile) (prepared listing fun _ => true))

/-- A module is installed for a pod, and the pod vanishes: a pass is about to have the module
uninstalled. -/
def vanishedRun : List Happening :=
  [.start, granted .life, granted .life, granted .life, granted .life, granted .life,
    .stimulus .pass, listed [podOf "p" ["m"]], granted (.loop .reconcile),
    granted (.loop .reconcile), .stimulus .pass, listed []]

/-- Another pod wants the module. -/
def returnedRun : List Happening :=
  [.stimulus .pass, listed [podOf "q" ["m"]], granted (.loop .reconcile)]

/-- So a module that comes back to another pod is installed before it is claimed. -/
theorem reclaimed_after_install_returned :
    let c := (Chronicle.fresh default default).follow vanishedRun
    let e := (c.step (granted (.loop .reconcile))).follow returnedRun
    ((c.answered? (granted (.loop .reconcile))).any
        (Moment.delivers .uninstall (moduleOf "m")) = true ∧
      e.system.desk.books.Held (moduleOf "m")) ∧
    ∃ moment ∈ e.record.drop (c.record.length + 1),
      moment.delivers .install (moduleOf "m") = true := by
  intro c e
  have acknowledged : (c.answered? (granted (.loop .reconcile))).any
      (Moment.delivers .uninstall (moduleOf "m")) = true := by decide
  have held : e.system.desk.books.Held (moduleOf "m") := by decide
  refine ⟨⟨acknowledged, held⟩, ?_⟩
  have said := reclaimed_after_install default default vanishedRun returnedRun
    (granted (.loop .reconcile)) (moduleOf "m") acknowledged held
  refine said.resolve_right ?_
  rintro ⟨s, mem, attests⟩
  simp only [returnedRun, List.mem_cons, List.not_mem_nil, or_false] at mem
  rcases mem with rfl | rfl | rfl
  · exact attests
  · exact attests
  · exact attests

/-- A report of the module arrives before another pod wants the module. -/
def lateReportRun : List Happening :=
  let report : Biz.Report := ⟨"m", "", .activated, "", ""⟩
  [.stimulus (.message .bizState "" report.encode.toUTF8), .stimulus .pass,
    listed [podOf "q" ["m"]]]

/-- So it is not true that the message was sent after the base had processed the uninstall.  Of a
message that is the `n`-th happening `sent n` tells how much had happened when it was sent, and
`processed` how much had happened when the base had processed the uninstall. -/
theorem exists_reclaimed_by_late_report :
    ¬ ∀ (settings : Settings) (origin : Time.Stamp) (early late : List Happening) (h : Happening)
      (d : Descriptor) (sent : Nat → Nat) (processed : Nat),
      let c := (Chronicle.fresh settings origin).follow early
      let e := (c.step h).follow late
      (∀ n, sent n ≤ n) → processed ≤ early.length + 1 + late.length →
      (c.answered? h).any (Moment.delivers .uninstall d) = true → e.system.desk.books.Held d →
        (∃ moment ∈ e.record.drop (c.record.length + 1), moment.delivers .install d = true) ∨
          ∃ n s, late[n]? = some s ∧ s.Attests d ∧ processed ≤ sent (early.length + 1 + n) := by
  intro claim
  have said := claim default default vanishedRun lateReportRun (granted (.loop .reconcile))
    (moduleOf "m") (min · 11) 12 (fun n => Nat.min_le_left n 11) (by decide) (by decide) (by decide +kernel)
  rcases said with installed | ⟨n, s, -, -, fresh⟩
  · revert installed
    decide +kernel
  · exact absurd fresh (by omega)

end VirtualNode.Controller
