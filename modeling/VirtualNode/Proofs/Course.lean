import VirtualNode.Dialogue

/-!
# Courses of a dialogue

What a dialogue brings about depends on the answers that it gets and on what others do to the
shared state meanwhile.  `Course aside d s record a t` says that the dialogue `d`, begun in the
state `s`, may end with the result `a` in the state `t` after the questions and answers of
`record`.  The relation `aside` says what others may do between two steps.

Main statements: a course of two dialogues in sequence is a course of the first followed by one of
the second (`bind_iff`); a dialogue that is rehearsed with prepared answers and left alone takes
one of its courses (`course_rehearse`).
-/

set_option autoImplicit false

namespace VirtualNode.Dialogue

variable {Ask : Type} {Answer : Ask → Type} {σ α β : Type}

/-- A question with its answer and with the state in which it was asked. -/
structure Moment (Ask : Type) (Answer : Ask → Type) (σ : Type) extends Exchange Ask Answer where
  state : σ

/-- The ways that a dialogue can go. -/
inductive Course (aside : σ → σ → Prop) :
    Dialogue Ask Answer σ α → σ → List (Moment Ask Answer σ) → α → σ → Prop where
  | done (a : α) (s : σ) : Course aside (.done a) s [] a s
  | read {next : σ → Dialogue Ask Answer σ α} {s s' t : σ}
      {record : List (Moment Ask Answer σ)} {a : α} (meanwhile : aside s s')
      (rest : Course aside (next s') s' record a t) : Course aside (.read next) s record a t
  | write {next : Dialogue Ask Answer σ α} {s s' t : σ} {record : List (Moment Ask Answer σ)}
      {a : α} (rest : Course aside next s' record a t) :
      Course aside (.write s' next) s record a t
  | ask {q : Ask} {next : Answer q → Dialogue Ask Answer σ α} {s s' t : σ}
      {record : List (Moment Ask Answer σ)} {a : α} (answer : Answer q) (meanwhile : aside s s')
      (rest : Course aside (next answer) s' record a t) :
      Course aside (.ask q next) s (⟨⟨q, answer⟩, s⟩ :: record) a t

namespace Course

variable {aside : σ → σ → Prop}

/-- A dialogue that is done asks nothing and leaves the state as it is. -/
@[simp]
theorem done_iff {a b : α} {s t : σ} {record : List (Moment Ask Answer σ)} :
    Course aside (.done a) s record b t ↔ record = [] ∧ b = a ∧ t = s := by
  constructor
  · rintro ⟨⟩
    exact ⟨rfl, rfl, rfl⟩
  · rintro ⟨rfl, rfl, rfl⟩
    exact .done _ _

/-- A dialogue can go as it goes when others do less. -/
theorem mono {aside' : σ → σ → Prop} {d : Dialogue Ask Answer σ α} {s t : σ}
    {record : List (Moment Ask Answer σ)} {a : α} (course : Course aside d s record a t)
    (less : ∀ s t, aside s t → aside' s t) : Course aside' d s record a t := by
  induction course with
  | done a s => exact .done a s
  | read meanwhile _ ih => exact .read (less _ _ meanwhile) ih
  | write _ ih => exact .write ih
  | ask answer meanwhile _ ih => exact .ask answer (less _ _ meanwhile) ih

/-- A course of a sequence is a course of its first part followed by one of its second part. -/
theorem bind_iff {d : Dialogue Ask Answer σ α} {f : α → Dialogue Ask Answer σ β} {s t : σ}
    {record : List (Moment Ask Answer σ)} {b : β} :
    Course aside (d.bind f) s record b t ↔
      ∃ early a s' late, record = early ++ late ∧ Course aside d s early a s' ∧
        Course aside (f a) s' late b t := by
  constructor
  · intro h
    induction d generalizing s record with
    | done a => exact ⟨[], a, s, record, rfl, .done a s, h⟩
    | read next ih =>
      obtain ⟨⟩ | ⟨meanwhile, rest⟩ := h
      obtain ⟨early, a, s', late, rfl, first, second⟩ := ih _ rest
      exact ⟨early, a, s', late, rfl, .read meanwhile first, second⟩
    | write s' next ih =>
      obtain ⟨⟩ | ⟨⟩ | ⟨rest⟩ := h
      obtain ⟨early, a, s', late, rfl, first, second⟩ := ih rest
      exact ⟨early, a, s', late, rfl, .write first, second⟩
    | ask q next ih =>
      cases h with
      | ask answer meanwhile rest =>
        obtain ⟨early, a, s', late, rfl, first, second⟩ := ih _ rest
        exact ⟨_ :: early, a, s', late, rfl, .ask answer meanwhile first, second⟩
  · rintro ⟨early, a, s', late, rfl, first, second⟩
    induction first with
    | done a s => exact second
    | read meanwhile _ ih => exact .read meanwhile (ih second)
    | write _ ih => exact .write (ih second)
    | ask answer meanwhile _ ih => exact .ask answer meanwhile (ih second)

/-- Reading the state shows what others have made of it. -/
@[simp]
theorem state_iff {s t a : σ} {record : List (Moment Ask Answer σ)} :
    Course aside state s record a t ↔ record = [] ∧ aside s t ∧ a = t := by
  constructor
  · rintro (_ | ⟨meanwhile, rest⟩)
    obtain ⟨rfl, rfl, rfl⟩ := done_iff.1 rest
    exact ⟨rfl, meanwhile, rfl⟩
  · rintro ⟨rfl, meanwhile, rfl⟩
    exact .read meanwhile (.done _ _)

/-- A change of the state applies to what others have made of it. -/
@[simp]
theorem update_iff {f : σ → σ} {s t : σ} {record : List (Moment Ask Answer σ)} {a : Unit} :
    Course aside (update f) s record a t ↔ record = [] ∧ ∃ s', aside s s' ∧ t = f s' := by
  constructor
  · rintro (_ | ⟨meanwhile, _ | _ | rest⟩)
    obtain ⟨rfl, -, rfl⟩ := done_iff.1 rest
    exact ⟨rfl, _, meanwhile, rfl⟩
  · rintro ⟨rfl, s', meanwhile, rfl⟩
    exact .read meanwhile (.write (.done _ _))

/-- A question is asked in the state at hand, and others may act before the answer is there. -/
@[simp]
theorem request_iff {q : Ask} {s t : σ} {record : List (Moment Ask Answer σ)} {a : Answer q} :
    Course aside (request q) s record a t ↔ record = [⟨⟨q, a⟩, s⟩] ∧ aside s t := by
  constructor
  · intro h
    cases h with
    | ask answer meanwhile rest =>
      obtain ⟨rfl, rfl, rfl⟩ := done_iff.1 rest
      exact ⟨rfl, meanwhile⟩
  · rintro ⟨rfl, meanwhile⟩
    exact .ask a meanwhile (.done _ _)

end Course

/-- Runs a dialogue with prepared answers while nobody else touches the state. -/
def rehearse (reply : (question : Ask) → Answer question) :
    Dialogue Ask Answer σ α → σ → List (Moment Ask Answer σ) × α × σ
  | done a, s => ([], a, s)
  | read next, s => (next s).rehearse reply s
  | write s next, _ => next.rehearse reply s
  | ask q next, s =>
    let later := (next (reply q)).rehearse reply s
    (⟨⟨q, reply q⟩, s⟩ :: later.1, later.2)

/-- A rehearsal is one of the courses of a dialogue. -/
theorem course_rehearse {aside : σ → σ → Prop} (alone : ∀ s, aside s s)
    (reply : (question : Ask) → Answer question) (d : Dialogue Ask Answer σ α) (s : σ) :
    Course aside d s (d.rehearse reply s).1 (d.rehearse reply s).2.1
      (d.rehearse reply s).2.2 := by
  induction d generalizing s with
  | done a => exact .done a s
  | read next ih => exact .read (alone s) (ih s s)
  | write u next ih => exact .write (ih u)
  | ask q next ih => exact .ask (reply q) (alone s) (ih (reply q) s)

end VirtualNode.Dialogue
