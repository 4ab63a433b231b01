import VirtualNode.Proofs.Course

/-!
# Episodes

In the middle of its course a dialogue has something left to do, and that is a dialogue again.
`Leads aside d s record e t` says that the dialogue `d`, begun in the state `s`, may come to where
`e` is left to do in the state `t`.  A passage is a dialogue together with one of its courses; an
episode of a passage is a stretch of it in which some other dialogue is done from its beginning to
its end.

Main statements: the episodes of either part of a sequence are episodes of the sequence
(`IsEpisode.bind_left`, `IsEpisode.bind_right`), and so are the episodes of an episode
(`IsEpisode.trans`).
-/

set_option autoImplicit false

namespace VirtualNode.Dialogue

variable {Ask : Type} {Answer : Ask → Type} {σ α β γ : Type} {aside : σ → σ → Prop}

/-- The ways from one dialogue to what is left of it. -/
inductive Leads (aside : σ → σ → Prop) :
    Dialogue Ask Answer σ α → σ → List (Moment Ask Answer σ) → Dialogue Ask Answer σ α → σ → Prop
    where
  | refl (d : Dialogue Ask Answer σ α) (s : σ) : Leads aside d s [] d s
  | read {next : σ → Dialogue Ask Answer σ α} {left : Dialogue Ask Answer σ α} {s s' t : σ}
      {record : List (Moment Ask Answer σ)} (meanwhile : aside s s')
      (rest : Leads aside (next s') s' record left t) : Leads aside (.read next) s record left t
  | write {next left : Dialogue Ask Answer σ α} {s s' t : σ}
      {record : List (Moment Ask Answer σ)} (rest : Leads aside next s' record left t) :
      Leads aside (.write s' next) s record left t
  | ask {q : Ask} {next : Answer q → Dialogue Ask Answer σ α} {left : Dialogue Ask Answer σ α}
      {s s' t : σ} {record : List (Moment Ask Answer σ)} (answer : Answer q)
      (meanwhile : aside s s') (rest : Leads aside (next answer) s' record left t) :
      Leads aside (.ask q next) s (⟨⟨q, answer⟩, s⟩ :: record) left t

namespace Leads

variable {d e f : Dialogue Ask Answer σ α} {s t u : σ} {early late : List (Moment Ask Answer σ)}

/-- One lead after another is a lead. -/
theorem trans (first : Leads aside d s early e t) (second : Leads aside e t late f u) :
    Leads aside d s (early ++ late) f u := by
  induction first with
  | refl => exact second
  | read meanwhile _ ih => exact .read meanwhile (ih second)
  | write _ ih => exact .write (ih second)
  | ask answer meanwhile _ ih => exact .ask answer meanwhile (ih second)

/-- What is left of the first part of a sequence is left before the second part. -/
theorem bind (leads : Leads aside d s early e t) (g : α → Dialogue Ask Answer σ β) :
    Leads aside (d.bind g) s early (e.bind g) t := by
  induction leads with
  | refl => exact .refl _ _
  | read meanwhile _ ih => exact .read meanwhile ih
  | write _ ih => exact .write ih
  | ask answer meanwhile _ ih => exact .ask answer meanwhile ih

/-- Whatever becomes of what is left becomes of the whole. -/
theorem course (leads : Leads aside d s early e t) {a : α} (rest : Course aside e t late a u) :
    Course aside d s (early ++ late) a u := by
  induction leads with
  | refl => exact rest
  | read meanwhile _ ih => exact .read meanwhile (ih rest)
  | write _ ih => exact .write (ih rest)
  | ask answer meanwhile _ ih => exact .ask answer meanwhile (ih rest)

end Leads

/-- After a course of the first part of a sequence the second part is left. -/
theorem Course.leads {d : Dialogue Ask Answer σ α} {s t : σ} {record : List (Moment Ask Answer σ)}
    {a : α} (course : Course aside d s record a t) (g : α → Dialogue Ask Answer σ β) :
    Leads aside (d.bind g) s record (g a) t := by
  induction course with
  | done a s => exact .refl _ _
  | read meanwhile _ ih => exact .read meanwhile ih
  | write _ ih => exact .write ih
  | ask answer meanwhile _ ih => exact .ask answer meanwhile ih

/-- A dialogue from its beginning to its end. -/
structure Passage (Ask : Type) (Answer : Ask → Type) (σ α : Type) where
  task : Dialogue Ask Answer σ α
  before : σ
  record : List (Moment Ask Answer σ)
  result : α
  after : σ

/-- Whether the dialogue can go that way. -/
def Passage.Goes (aside : σ → σ → Prop) (p : Passage Ask Answer σ α) : Prop :=
  Course aside p.task p.before p.record p.result p.after

/-- Whether a passage is a stretch of another one: at some time of the other one its dialogue was to
be done next, and was done like this. -/
def IsEpisode (aside : σ → σ → Prop) (part : Passage Ask Answer σ β) (p : Passage Ask Answer σ α) :
    Prop :=
  ∃ early next late, p.record = early ++ part.record ++ late ∧
    Leads aside p.task p.before early (part.task.bind next) part.before ∧ part.Goes aside ∧
    Course aside (next part.result) part.after late p.result p.after

namespace IsEpisode

variable {d : Dialogue Ask Answer σ α} {g : α → Dialogue Ask Answer σ β} {s t u : σ}
  {early late : List (Moment Ask Answer σ)} {a : α} {b : β}

/-- An episode of a passage goes by itself. -/
theorem goes {part : Passage Ask Answer σ β} {p : Passage Ask Answer σ α}
    (episode : IsEpisode aside part p) : part.Goes aside := by
  obtain ⟨-, -, -, -, -, goes, -⟩ := episode
  exact goes

/-- The whole is an episode of itself. -/
theorem self {p : Passage Ask Answer σ α} (goes : p.Goes aside) : IsEpisode aside p p := by
  refine ⟨[], .done, [], by simp, ?_, goes, .done _ _⟩
  rw [bind_pure]
  exact .refl _ _

/-- An episode of the first part is one of the whole. -/
theorem bind_left {part : Passage Ask Answer σ γ} (episode : IsEpisode aside part ⟨d, s, early, a, t⟩)
    (rest : Course aside (g a) t late b u) :
    IsEpisode aside part ⟨d.bind g, s, early ++ late, b, u⟩ := by
  obtain ⟨before, next, after, record, leads, goes, last⟩ := episode
  dsimp only at record leads last
  refine ⟨before, fun c => (next c).bind g, after ++ late, by simp [record], ?_, goes, ?_⟩
  · rw [← bind_assoc]
    exact leads.bind g
  · exact Course.bind_iff.2 ⟨after, a, t, late, rfl, last, rest⟩

/-- An episode of the rest is one of the whole. -/
theorem bind_right {part : Passage Ask Answer σ γ} (course : Course aside d s early a t)
    (episode : IsEpisode aside part ⟨g a, t, late, b, u⟩) :
    IsEpisode aside part ⟨d.bind g, s, early ++ late, b, u⟩ := by
  obtain ⟨before, next, after, record, leads, goes, last⟩ := episode
  dsimp only at record leads last
  refine ⟨early ++ before, next, after, by simp [record], ?_, goes, last⟩
  exact (course.leads g).trans leads

/-- The episodes of an episode are episodes. -/
theorem trans {whole : Passage Ask Answer σ α} {part : Passage Ask Answer σ β}
    {piece : Passage Ask Answer σ γ} (inner : IsEpisode aside piece part)
    (outer : IsEpisode aside part whole) : IsEpisode aside piece whole := by
  obtain ⟨before, next, after, record, leads, goes, last⟩ := inner
  obtain ⟨before', next', after', record', leads', -, last'⟩ := outer
  refine ⟨before' ++ before, fun c => (next c).bind next', after ++ after', ?_, ?_, goes, ?_⟩
  · simp [record', record]
  · rw [← bind_assoc]
    exact leads'.trans (leads.bind next')
  · exact Course.bind_iff.2 ⟨after, _, _, after', rfl, last, last'⟩

end IsEpisode

end VirtualNode.Dialogue
