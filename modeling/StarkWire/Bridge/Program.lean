/-
# Programs over the primitives

An operation is a check of its arguments and then a `Program`: a tree of requests, each followed
by what is done with its answer.  A program says nothing about who answers.

`Program.run` puts the requests to a set of primitives, one after the other, and stops at the
first fault or panic; both become the same error.  Beside the answer a `Run` holds the state of
the primitives, the requests made, in order, and the events logged.
-/

import StarkWire.Primitive
import StarkWire.Bridge.Event

namespace StarkWire
namespace Bridge

/-- Requests, and what is done with their answers. -/
inductive Program (α : Type) where
  /-- The result. -/
  | done (result : α)
  /-- A request; its answer decides how to go on. -/
  | ask (request : Request) (next : request.Answer → Program α)

namespace Program

variable {α β : Type}

/-- A single request, whose answer is the result. -/
def request (q : Request) : Program q.Answer := ask q done

/-- A second program that goes on from the result of the first. -/
def bind : Program α → (α → Program β) → Program β
  | done a, f => f a
  | ask q next, f => ask q fun answer => (next answer).bind f

/-- A program with its result changed. -/
def map (f : α → β) (p : Program α) : Program β := p.bind fun a => done (f a)

end Program

/-- What comes of a check that may reject an argument. -/
abbrev Checked := Except Rejection

/-- What is left behind by an operation over primitives with state `σ`. -/
structure Run (σ α : Type) where
  answer : α
  state : σ
  calls : List Request
  log : List Event

namespace Run

variable {σ α β : Type}

/-- A run with its answer changed. -/
def map (f : α → β) (r : Run σ α) : Run σ β := ⟨f r.answer, r.state, r.calls, r.log⟩

/-- A changed run has the changed answer. -/
@[simp] theorem answer_map (f : α → β) (r : Run σ α) : (r.map f).answer = f r.answer := rfl

/-- A run preceded by a call that gave a value. -/
def after (q : Request) (r : Run σ α) : Run σ α :=
  ⟨r.answer, r.state, q :: r.calls, .completed q.operation :: r.log⟩

end Run

variable {σ α : Type}

/-- The requests of a program put to the primitives, up to the first that fails. -/
def Program.run (P : Primitives σ) : Program α → σ → Run σ (Except Error α)
  | .done a, s => ⟨.ok a, s, [], []⟩
  | .ask q next, s =>
    match P.reply q s with
    | (.value answer, s) => ((next answer).run P s).after q
    | (.fault f, s) =>
      ⟨.error .unknownPrimitiveFailure, s, [q], [.faulted q.operation f.message]⟩
    | (.panic, s) => ⟨.error .unknownPrimitiveFailure, s, [q], [.panicked q.operation]⟩

/-- A rejected argument ends the operation before any request. -/
def Checked.run (P : Primitives σ) (checked : Checked (Program α)) (s : σ) :
    Run σ (Except Error α) :=
  match checked with
  | .ok program => program.run P s
  | .error rejection => ⟨.error (.invalidInputSize rejection.error), s, [], [.rejected rejection]⟩

/-- A verdict: every error is a refusal, and is logged. -/
def Run.settle (r : Run σ (Except Error Bool)) : Run σ Bool :=
  match r.answer with
  | .ok valid => r.map fun _ => valid
  | .error e => ⟨false, r.state, r.calls, r.log ++ [.unverified e]⟩

end Bridge
end StarkWire
