import VirtualNode.Proofs.Course

/-!
# Restrained dialogues

`Dialogue.Within R Q d s` says that the dialogue `d`, begun in the state `s`, changes the state only
in the way of `R` and asks only questions of `Q`, whatever is answered and whatever others do
meanwhile.  What neither `R` nor the others change is then the same after any course of the dialogue
(`Dialogue.Course.within`), and its steps need not be followed for that.
-/

set_option autoImplicit false

namespace VirtualNode.Dialogue

variable {Ask : Type} {Answer : Ask → Type} {σ α β : Type} {R R' : σ → σ → Prop} {Q Q' : Ask → Prop}

/-- A dialogue changes the state only within `R` and asks only questions of `Q`. -/
def Within (R : σ → σ → Prop) (Q : Ask → Prop) : Dialogue Ask Answer σ α → σ → Prop
  | done _, _ => True
  | read next, _ => ∀ s, (next s).Within R Q s
  | write t next, s => R s t ∧ next.Within R Q t
  | ask question next, _ => Q question ∧ ∀ answer s, (next answer).Within R Q s

/-- What stays within some bounds stays within wider ones. -/
theorem within_mono {d : Dialogue Ask Answer σ α} {s : σ} (within : d.Within R Q s)
    (changes : ∀ s t, R s t → R' s t) (asks : ∀ q, Q q → Q' q) : d.Within R' Q' s := by
  induction d generalizing s with
  | done a => trivial
  | read next ih => exact fun s => ih s (within s)
  | write t next ih => exact ⟨changes s t within.1, ih within.2⟩
  | ask q next ih => exact ⟨asks q within.1, fun a s => ih a (within.2 a s)⟩

/-- A sequence stays within bounds if both parts do. -/
theorem within_bind {d : Dialogue Ask Answer σ α} {f : α → Dialogue Ask Answer σ β} {s : σ}
    (first : d.Within R Q s) (second : ∀ a s, (f a).Within R Q s) : (d.bind f).Within R Q s := by
  induction d generalizing s with
  | done a => exact second a s
  | read next ih => exact fun s => ih s (first s)
  | write t next ih => exact ⟨first.1, ih first.2⟩
  | ask q next ih => exact ⟨first.1, fun a s => ih a (first.2 a s)⟩

/-- Every dialogue stays within no bounds at all. -/
theorem within_trivial (d : Dialogue Ask Answer σ α) (s : σ) :
    d.Within (fun _ _ => True) (fun _ => True) s := by
  induction d generalizing s with
  | done a => trivial
  | read next ih => exact fun s => ih s s
  | write t next ih => exact ⟨trivial, ih t⟩
  | ask q next ih => exact ⟨trivial, fun a s => ih a s⟩

/-- To look at the state first needs nothing. -/
@[simp]
theorem within_state_bind {f : σ → Dialogue Ask Answer σ β} {s : σ} :
    (state.bind f).Within R Q s ↔ ∀ s, (f s).Within R Q s := Iff.rfl

/-- A change has to be within bounds wherever it is made. -/
@[simp]
theorem within_update {g : σ → σ} {s : σ} :
    (update g : Dialogue Ask Answer σ Unit).Within R Q s ↔ ∀ s, R s (g s) := by
  simp [update, Within]

/-- A change has to be within bounds, and so has what follows on it. -/
@[simp]
theorem within_update_bind {g : σ → σ} {f : Unit → Dialogue Ask Answer σ β} {s : σ} :
    ((update g).bind f).Within R Q s ↔ ∀ s, R s (g s) ∧ (f ()).Within R Q (g s) := Iff.rfl

/-- A request has to be within bounds, and so has what follows on every answer. -/
@[simp]
theorem within_request_bind {q : Ask} {f : Answer q → Dialogue Ask Answer σ β} {s : σ} :
    ((request q).bind f).Within R Q s ↔ Q q ∧ ∀ a s, (f a).Within R Q s := Iff.rfl

/-- What neither the dialogue nor others change holds at the end of every course and whenever a
question is asked. -/
theorem Course.within {aside : σ → σ → Prop} {d : Dialogue Ask Answer σ α} {s t : σ}
    {record : List (Moment Ask Answer σ)} {a : α} (course : Course aside d s record a t)
    (within : d.Within R Q s) {P : σ → Prop} (others : ∀ s t, aside s t → P s → P t)
    (own : ∀ s t, R s t → P s → P t) (now : P s) :
    P t ∧ ∀ moment ∈ record, Q moment.question ∧ P moment.state := by
  induction course with
  | done a s => exact ⟨now, by simp⟩
  | read meanwhile _ ih => exact ih (within _) (others _ _ meanwhile now)
  | write _ ih => exact ih within.2 (own _ _ within.1 now)
  | ask answer meanwhile _ ih =>
    obtain ⟨last, rest⟩ := ih (within.2 answer _) (others _ _ meanwhile now)
    exact ⟨last, List.forall_mem_cons.2 ⟨⟨within.1, now⟩, rest⟩⟩

end VirtualNode.Dialogue
