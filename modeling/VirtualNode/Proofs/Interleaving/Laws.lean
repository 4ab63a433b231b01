import VirtualNode.Proofs.Interleaving.Contract

/-!
# Laws that everybody keeps

Some statements hold whenever nobody is at the desk and need no help from anybody: each strand keeps
them by itself, whatever the others do.  For them a contract asks nothing but that the law is kept
(`lawContract`), and it is enough to look at each task alone (`lawContract_kept`).
-/

set_option autoImplicit false

namespace VirtualNode.Controller

open Contract (abides_mono abides_of_within)

/-- The contract which asks of everybody to keep a law, and of nobody anything else.  Before the run
is started something more may be known. -/
def lawContract (law idle : Affairs → Prop) : Contract where
  law := law
  own _ _ _ := True
  rely _ _ _ _ := True
  idle := idle
  rest _ _ := True

variable {law idle : Affairs → Prop} {strand : Strand} {i j : Affairs}

/-- Everybody keeps a law if every task does and nothing from outside breaks it. -/
theorem lawContract_kept (outside : ∀ {calls i j}, Outside (fun _ _ _ => True) calls i j →
      law i → law j)
    (idle_outside : ∀ {calls i j}, Outside (fun _ _ _ => True) calls i j → idle i → idle j)
    (watch : ∀ {i} {moment : Moment}, moment.question = .turn → law i → law (i.note moment).seen)
    (enlist : ∀ i, law i → idle i →
      (lawContract law idle).Abides .life enlist i i fun _ _ j => law j)
    (beat : ∀ i, law i →
      (lawContract law idle).Abides (.loop .heartbeat) beat i i fun _ _ j => law j)
    (reconcile : ∀ i, law i →
      (lawContract law idle).Abides (.loop .reconcile) reconcile i i fun _ _ j => law j)
    (push : ∀ i, law i → (lawContract law idle).Abides (.loop .reconcile) pushStatuses i
      (i.withDesk { i.desk with wake := false }) fun _ _ j => law j)
    (renew : ∀ i, law i →
      (lawContract law idle).Abides (.loop .renewal) renewSubscriptions i i fun _ _ j => law j)
    (retire : ∀ i, law i → (lawContract law idle).Abides .life retire i i fun _ _ j => law j) :
    (lawContract law idle).Kept where
  rely_refl _ _ _ := trivial
  rely_trans _ _ _ _ _ _ _ := trivial
  rely_own _ _ _ _ _ _ _ := trivial
  rest_own _ _ _ _ _ _ _ := trivial
  law_outside _ _ _ := outside
  rely_outside _ _ _ _ _ _ _ _ := trivial
  idle_outside _ _ _ came _ := idle_outside came
  rest_outside _ _ _ _ _ _ _ := trivial
  enlist i lawful begun := by
    refine abides_mono (enlist i lawful begun) ?_
    rintro worked _ j lawful
    cases worked with
    | true =>
      refine ⟨lawful, trivial, trivial, Contract.abides_watch trivial lawful ?_⟩
      exact fun _ _ lawful _ => ⟨trivial, watch rfl lawful, trivial, trivial⟩
    | false => exact lawful
  beat i lawful _ := abides_mono (beat i lawful) fun _ _ _ kept => ⟨trivial, kept, trivial, trivial⟩
  reconcile i lawful _ :=
    abides_mono (reconcile i lawful) fun _ _ _ kept => ⟨trivial, kept, trivial, trivial⟩
  push i lawful _ :=
    abides_mono (push i lawful) fun _ _ _ kept => ⟨trivial, kept, trivial, trivial⟩
  renew i lawful _ :=
    abides_mono (renew i lawful) fun _ _ _ kept => ⟨trivial, kept, trivial, trivial⟩
  retire := retire

/-- A task that changes the desk and makes calls only in ways that keep a law sticks to it. -/
theorem abides_law {α : Type} {task : Activity α} {R : Desk → Desk → Prop} {Q : Call → Prop}
    (within : task.Within R Q j.desk) (lawful : law j)
    (change : ∀ {j d}, R j.desk d → law j → law (j.withDesk d))
    (note : ∀ {j} {moment : Moment}, Q moment.question → law j → law (j.note moment)) :
    (lawContract law idle).Abides strand task i j fun _ _ j => law j := by
  refine abides_of_within (P := fun _ j => law j) within lawful ?_ ?_
  · exact fun _ _ _ changed => change changed
  · exact fun _ _ _ asks lawful => ⟨trivial, lawful, fun _ _ lawful _ => note asks lawful⟩

end VirtualNode.Controller
