/-
**Interactions.**

An `Interaction` is a computation that asks its surroundings for answers: it is done, or it asks
something and goes on from the answer. The surroundings are a parameter of `Interaction.run`: a
function from a state and a question to the answer and the next state, so whatever can answer,
depending on all that was asked before, can run the same computation.

`run` records every question with its answer, in order.

* `Interaction.run_bind`: a run of two parts is a run of the first and then, from the state it
  leaves, of the second; their events follow each other.
-/

namespace ResourceGraph

/-- A computation that asks for answers of a type that depends on the question. -/
inductive Interaction (Ask : Type) (Answer : Ask → Type) (α : Type) where
  | done (result : α)
  | ask (question : Ask) (next : Answer question → Interaction Ask Answer α)

namespace Interaction

variable {Ask : Type} {Answer : Ask → Type} {α β σ : Type}

/-- Goes on from the result. -/
def andThen : Interaction Ask Answer α → (α → Interaction Ask Answer β) → Interaction Ask Answer β
  | done result, next => next result
  | ask question more, next => ask question fun answer => (more answer).andThen next

instance : Monad (Interaction Ask Answer) where
  pure := done
  bind := andThen

theorem andThen_done (interaction : Interaction Ask Answer α) :
    interaction.andThen done = interaction := by
  induction interaction with
  | done result => rfl
  | ask question next ih => exact congrArg (ask question) (funext ih)

theorem andThen_assoc (interaction : Interaction Ask Answer α)
    (first : α → Interaction Ask Answer β) (second : β → Interaction Ask Answer σ) :
    (interaction.andThen first).andThen second =
      interaction.andThen fun value => (first value).andThen second := by
  induction interaction with
  | done result => rfl
  | ask question next ih => exact congrArg (ask question) (funext ih)

instance : LawfulMonad (Interaction Ask Answer) :=
  LawfulMonad.mk' (Interaction Ask Answer) andThen_done (fun _ _ => rfl) andThen_assoc

/-- Asks one question. -/
def asking (question : Ask) : Interaction Ask Answer (Answer question) :=
  ask question done

/-- Questions with their answers. -/
abbrev Event (Ask : Type) (Answer : Ask → Type) := (question : Ask) × Answer question

/-- What a run leaves: the result, the events in order, and the last state. -/
structure Outcome (Ask : Type) (Answer : Ask → Type) (σ α : Type) where
  result : α
  events : List (Event Ask Answer)
  state : σ

/-- Runs an interaction in surroundings with a state. -/
def run (answer : (question : Ask) → σ → Answer question × σ) (state : σ) :
    Interaction Ask Answer α → Outcome Ask Answer σ α
  | done result => ⟨result, [], state⟩
  | ask question next =>
    let (reply, after) := answer question state
    let rest := run answer after (next reply)
    ⟨rest.result, ⟨question, reply⟩ :: rest.events, rest.state⟩

/-- **A run of two parts is a run of the one and then of the other.** -/
theorem run_bind (answer : (question : Ask) → σ → Answer question × σ) (state : σ)
    (interaction : Interaction Ask Answer α) (next : α → Interaction Ask Answer β) :
    run answer state (interaction >>= next) =
      let first := run answer state interaction
      let second := run answer first.state (next first.result)
      ⟨second.result, first.events ++ second.events, second.state⟩ := by
  induction interaction generalizing state with
  | done result => rfl
  | ask question more ih =>
    exact congrArg
      (fun rest : Outcome Ask Answer σ β =>
        (⟨rest.result, ⟨question, (answer question state).1⟩ :: rest.events, rest.state⟩ :
          Outcome Ask Answer σ β))
      (ih (answer question state).1 (answer question state).2)

/-- Replaces every question by an interaction that finds its answer. -/
def expand {Inner : Type} {Reply : Inner → Type}
    (answer : (question : Ask) → Interaction Inner Reply (Answer question)) :
    Interaction Ask Answer α → Interaction Inner Reply α
  | done result => done result
  | ask question next => (answer question).andThen fun reply => (next reply).expand answer

end Interaction

end ResourceGraph
