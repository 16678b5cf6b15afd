import Mathlib.Data.List.Basic
import Mathlib.Tactic.Common

/-!
# Clients that ask and go on with the answer

A dialogue is a program that asks questions of a world that it does not control.  It
ends with a result or a failure, or asks and goes on with whatever the answer is.  A
transcript lists what was asked and answered, so a statement about all transcripts
of a dialogue is one about everything that the world can do to it.
-/

namespace Kit

/-- A program over questions and their answers. -/
inductive Dialogue (Question : Type) (Answer : Question → Type) (Failure Result : Type) where
  | finish (outcome : Except Failure Result)
  | ask (question : Question) (next : Answer question → Dialogue Question Answer Failure Result)

namespace Dialogue

variable {Question : Type} {Answer : Question → Type} {Failure Result Next : Type}

/-- A question and its answer. -/
structure Exchange (Question : Type) (Answer : Question → Type) where
  question : Question
  answer : Answer question

/-- Go on with the result of a dialogue, unless it fails. -/
def andThen (next : Result → Dialogue Question Answer Failure Next) :
    Dialogue Question Answer Failure Result → Dialogue Question Answer Failure Next
  | finish (.ok result) => next result
  | finish (.error failure) => finish (.error failure)
  | ask question rest => ask question fun answer => andThen next (rest answer)

instance : Monad (Dialogue Question Answer Failure) where
  pure result := finish (.ok result)
  bind first next := andThen next first

/-- End with a failure. -/
def fail (failure : Failure) : Dialogue Question Answer Failure Result :=
  finish (.error failure)

/-- Ask a single question. -/
def send (question : Question) : Dialogue Question Answer Failure (Answer question) :=
  ask question fun answer => finish (.ok answer)

/-- The dialogue ends so, after these questions and answers. -/
inductive Runs : Dialogue Question Answer Failure Result → List (Exchange Question Answer) →
    Except Failure Result → Prop where
  | finish (outcome : Except Failure Result) : Runs (finish outcome) [] outcome
  | ask (question : Question) (answer : Answer question)
      {next : Answer question → Dialogue Question Answer Failure Result}
      {transcript : List (Exchange Question Answer)} {outcome : Except Failure Result}
      (rest : Runs (next answer) transcript outcome) :
      Runs (ask question next) (⟨question, answer⟩ :: transcript) outcome

/-- The answers of the transcript are those of a world that answers by what was asked and
answered before. -/
def Answered (world : List (Exchange Question Answer) → (question : Question) → Answer question) :
    List (Exchange Question Answer) → List (Exchange Question Answer) → Prop
  | _, [] => True
  | past, exchange :: rest =>
      exchange.answer = world past exchange.question ∧ Answered world (past ++ [exchange]) rest

section Runs

variable {transcript : List (Exchange Question Answer)} {outcome : Except Failure Result}
  {last : Except Failure Next} {result : Result} {failure : Failure}

@[simp]
theorem runs_finish {ended : Except Failure Result} :
    Runs (.finish ended : Dialogue Question Answer Failure Result) transcript outcome ↔
      transcript = [] ∧ outcome = ended := by
  constructor
  · intro runs
    cases runs
    exact ⟨rfl, rfl⟩
  · rintro ⟨rfl, rfl⟩
    exact .finish _

@[simp]
theorem runs_pure :
    Runs (pure result : Dialogue Question Answer Failure Result) transcript outcome ↔
      transcript = [] ∧ outcome = .ok result :=
  runs_finish

@[simp]
theorem runs_fail : Runs (fail failure : Dialogue Question Answer Failure Result) transcript
    outcome ↔ transcript = [] ∧ outcome = .error failure :=
  runs_finish

@[simp]
theorem runs_ask {question : Question}
    {next : Answer question → Dialogue Question Answer Failure Result} :
    Runs (.ask question next) transcript outcome ↔
      ∃ answer rest, transcript = ⟨question, answer⟩ :: rest ∧ Runs (next answer) rest outcome := by
  constructor
  · intro runs
    cases runs with
    | ask _ answer rest => exact ⟨answer, _, rfl, rest⟩
  · rintro ⟨answer, rest, rfl, runs⟩
    exact .ask question answer runs

@[simp]
theorem runs_send {question : Question} {sent : Except Failure (Answer question)} :
    Runs (send question) transcript sent ↔
      ∃ answer, transcript = [⟨question, answer⟩] ∧ sent = .ok answer := by
  simp only [send, runs_ask, runs_finish]
  constructor
  · rintro ⟨answer, rest, rfl, rfl, ends⟩
    exact ⟨answer, rfl, ends⟩
  · rintro ⟨answer, rfl, ends⟩
    exact ⟨answer, [], rfl, rfl, ends⟩

/-- A run of two dialogues in a row is a failing run of the first one, or a run of the first
and one of the second after it. -/
theorem runs_bind {first : Dialogue Question Answer Failure Result}
    {next : Result → Dialogue Question Answer Failure Next} :
    Runs (first >>= next) transcript last ↔
      (∃ failure, Runs first transcript (.error failure) ∧ last = .error failure) ∨
        ∃ result front rest, transcript = front ++ rest ∧ Runs first front (.ok result) ∧
          Runs (next result) rest last := by
  change Runs (andThen next first) transcript last ↔ _
  induction first generalizing transcript with
  | finish outcome =>
      cases outcome with
      | error failure => simp [andThen]
      | ok result => simp [andThen]
  | ask question rest inductionHypothesis =>
      simp only [andThen, runs_ask, inductionHypothesis]
      constructor
      · rintro ⟨answer, later, rfl, ⟨failure, runs, ends⟩ | ⟨result, front, back, rfl, runs, goes⟩⟩
        · exact .inl ⟨failure, ⟨answer, later, rfl, runs⟩, ends⟩
        · exact .inr ⟨result, _ :: front, back, rfl, ⟨answer, front, rfl, runs⟩, goes⟩
      · rintro (⟨failure, ⟨answer, later, rfl, runs⟩, ends⟩ |
          ⟨result, _, back, rfl, ⟨answer, front, rfl, runs⟩, goes⟩)
        · exact ⟨answer, later, rfl, .inl ⟨failure, runs, ends⟩⟩
        · exact ⟨answer, front ++ back, rfl, .inr ⟨result, front, back, rfl, runs, goes⟩⟩

/-- Whatever the world answers, a dialogue comes to an end. -/
theorem exists_run (world : List (Exchange Question Answer) → (question : Question) →
      Answer question) (dialogue : Dialogue Question Answer Failure Result)
    (past : List (Exchange Question Answer)) :
    ∃ transcript outcome, Runs dialogue transcript outcome ∧ Answered world past transcript := by
  induction dialogue generalizing past with
  | finish outcome => exact ⟨[], outcome, .finish outcome, trivial⟩
  | ask question next inductionHypothesis =>
      let answer := world past question
      obtain ⟨transcript, outcome, runs, answered⟩ :=
        inductionHypothesis answer (past ++ [⟨question, answer⟩])
      exact ⟨⟨question, answer⟩ :: transcript, outcome, .ask question answer runs, rfl, answered⟩

end Runs

end Dialogue

end Kit
