/-!
# Dialogues

A dialogue is a computation that talks to the outside: it reads and writes a state that it shares
with others, asks questions, and goes on with the answers.  Between a question and its answer
others may change the state.  A dialogue is finite: after finitely many answers it is done.

Main definitions: `Dialogue.advance` runs a dialogue up to its next open question, answering at
once the questions for which the environment has an answer at hand; `Dialogue.replay` runs it to
the end on a list of answers.
-/

set_option autoImplicit false

namespace VirtualNode

/-- A computation over a shared state `σ` that asks questions and ends with a result. -/
inductive Dialogue (Ask : Type) (Answer : Ask → Type) (σ : Type) (α : Type) where
  /-- The dialogue is over. -/
  | done (result : α)
  /-- Reads the state. -/
  | read (next : σ → Dialogue Ask Answer σ α)
  /-- Writes the state. -/
  | write (state : σ) (next : Dialogue Ask Answer σ α)
  /-- Asks a question and goes on with its answer. -/
  | ask (question : Ask) (next : Answer question → Dialogue Ask Answer σ α)

namespace Dialogue

variable {Ask : Type} {Answer : Ask → Type} {σ α β : Type}

/-- Goes on with a second dialogue where the first one ends. -/
def bind (d : Dialogue Ask Answer σ α) (f : α → Dialogue Ask Answer σ β) :
    Dialogue Ask Answer σ β :=
  match d with
  | done a => f a
  | read next => read fun s => (next s).bind f
  | write s next => write s (next.bind f)
  | ask q next => ask q fun a => (next a).bind f

instance : Monad (Dialogue Ask Answer σ) where
  pure := done
  bind := bind

/-- The monad's `pure` is a dialogue that is done. -/
@[simp] theorem pure_eq (a : α) : (pure a : Dialogue Ask Answer σ α) = done a := rfl

/-- The monad's `bind` is the one defined by recursion on the first dialogue. -/
@[simp] theorem bind_eq (d : Dialogue Ask Answer σ α) (f : α → Dialogue Ask Answer σ β) :
    d >>= f = d.bind f := rfl

/-- After a dialogue that is done comes the rest. -/
@[simp] theorem bind_done (a : α) (f : α → Dialogue Ask Answer σ β) :
    (done a).bind f = f a := rfl

/-- A dialogue that reads first also does so when more follows. -/
@[simp] theorem bind_read (next : σ → Dialogue Ask Answer σ α)
    (f : α → Dialogue Ask Answer σ β) :
    (read next).bind f = read fun s => (next s).bind f := rfl

/-- A dialogue that writes first also does so when more follows. -/
@[simp] theorem bind_write (s : σ) (next : Dialogue Ask Answer σ α)
    (f : α → Dialogue Ask Answer σ β) :
    (write s next).bind f = write s (next.bind f) := rfl

/-- A dialogue that asks first also does so when more follows. -/
@[simp] theorem bind_ask (q : Ask) (next : Answer q → Dialogue Ask Answer σ α)
    (f : α → Dialogue Ask Answer σ β) :
    (ask q next).bind f = ask q fun a => (next a).bind f := rfl

/-- Sequencing is associative. -/
theorem bind_assoc {γ : Type} (d : Dialogue Ask Answer σ α)
    (f : α → Dialogue Ask Answer σ β) (g : β → Dialogue Ask Answer σ γ) :
    (d.bind f).bind g = d.bind fun a => (f a).bind g := by
  induction d with
  | done a => rfl
  | read next ih => simp [ih]
  | write s next ih => simp [ih]
  | ask q next ih => simp [ih]

/-- Ending where the dialogue ends changes nothing. -/
theorem bind_pure (d : Dialogue Ask Answer σ α) : d.bind done = d := by
  induction d with
  | done a => rfl
  | read next ih => simp [ih]
  | write s next ih => simp [ih]
  | ask q next ih => simp [ih]

/-- The dialogue that asks one question. -/
def request (q : Ask) : Dialogue Ask Answer σ (Answer q) :=
  ask q done

/-- The dialogue that answers with the state. -/
def state : Dialogue Ask Answer σ σ :=
  read done

/-- The dialogue that changes the state. -/
def update (f : σ → σ) : Dialogue Ask Answer σ Unit :=
  read fun s => write (f s) (done ())

/-- A question together with its answer. -/
structure Exchange (Ask : Type) (Answer : Ask → Type) where
  question : Ask
  answer : Answer question

/-- Where a dialogue stands: at its end, or at a question that has no answer yet. -/
inductive Standing (Ask : Type) (Answer : Ask → Type) (σ : Type) (α : Type) where
  | finished (result : α)
  | waiting (question : Ask) (next : Answer question → Dialogue Ask Answer σ α)

/-- Who answers questions at once.  The environment has a state of its own. -/
structure Environment (Ask : Type) (Answer : Ask → Type) (σ ω : Type) where
  /-- Hears a question and answers it, or leaves it open. -/
  hear : (question : Ask) → σ → ω → ω × Option (Answer question)

variable {ω : Type}

/-- Runs a dialogue up to its next open question or to its end. -/
def advance (env : Environment Ask Answer σ ω) :
    Dialogue Ask Answer σ α → σ → ω → σ × ω × Standing Ask Answer σ α
  | done a, s, w => (s, w, .finished a)
  | read next, s, w => (next s).advance env s w
  | write s next, _, w => next.advance env s w
  | ask q next, s, w =>
    match env.hear q s w with
    | (w, some a) => (next a).advance env s w
    | (w, none) => (s, w, .waiting q next)

/-- The environment that leaves every question open. -/
def Environment.silent : Environment Ask Answer σ Unit where
  hear _ _ w := (w, none)

/-- Runs a dialogue to its end, each question being answered from the state of the environment.
The result comes with the questions and answers in their order. -/
def replay (answer : (question : Ask) → ω → Answer question × ω) :
    Dialogue Ask Answer σ α → σ → ω → α × σ × ω × List (Exchange Ask Answer)
  | done a, s, w => (a, s, w, [])
  | read next, s, w => (next s).replay answer s w
  | write s next, _, w => next.replay answer s w
  | ask q next, s, w =>
    let (a, w) := answer q w
    let (r, s, w, log) := (next a).replay answer s w
    (r, s, w, ⟨q, a⟩ :: log)

end Dialogue

end VirtualNode
