/-
# Operations one after the other

`Run.andThen` lets a second operation go on from the answer of a first and from the state in which
that left the primitives; the calls and the events of the second come after those of the first, and
an error of the first is the end.  A program bound to another runs like that (`Program.run_bind`).

`Run.fold` takes an operation over a list in this way.  The answer handed on may be written in
another form throughout if it may be in one step (`Run.map_fold`).
-/

import StarkWire.Proofs.Bridge.Operation

namespace StarkWire
namespace Bridge

variable {σ α β γ : Type}

namespace Run

/-- An operation that goes on from the answer of another. -/
def andThen (r : Run σ (Except Error α)) (f : α → σ → Run σ (Except Error β)) :
    Run σ (Except Error β) :=
  match r.answer with
  | .ok a =>
    let next := f a r.state
    ⟨next.answer, next.state, r.calls ++ next.calls, r.log ++ next.log⟩
  | .error e => ⟨.error e, r.state, r.calls, r.log⟩

/-- An operation for each element of a list, going on from the answers of those before. -/
def fold (step : β → α → σ → Run σ (Except Error β)) (acc : β) :
    List α → σ → Run σ (Except Error β)
  | [], s => ⟨.ok acc, s, [], []⟩
  | a :: rest, s => (step acc a s).andThen fun acc => fold step acc rest

/-- A request made before a run is made before what follows it. -/
theorem after_andThen (q : Request) (r : Run σ (Except Error α))
    (f : α → σ → Run σ (Except Error β)) :
    (r.after q).andThen f = (r.andThen f).after q := by
  rcases r with ⟨_ | _, _, _, _⟩ <;> rfl

/-- A result is no further operation. -/
theorem andThen_done (r : Run σ (Except Error α)) :
    (r.andThen fun a s => ⟨.ok a, s, [], []⟩) = r := by
  rcases r with ⟨_ | _, _, calls, log⟩
  · rfl
  · simp only [andThen, List.append_nil]

/-- A result is changed at the end of what follows. -/
theorem map_andThen (r : Run σ (Except Error α)) (f : α → σ → Run σ (Except Error β))
    (g : β → γ) :
    (r.andThen f).map (Except.map g) = r.andThen fun a s => (f a s).map (Except.map g) := by
  rcases r with ⟨_ | _, _, _, _⟩ <;> rfl

/-- What follows can change the result itself. -/
theorem andThen_map (r : Run σ (Except Error α)) (g : α → β)
    (f : β → σ → Run σ (Except Error γ)) :
    (r.map (Except.map g)).andThen f = r.andThen fun a => f (g a) := by
  rcases r with ⟨_ | _, _, _, _⟩ <;> rfl

/-- The answers may be written in another form, if one step may. -/
theorem map_fold {step : β → α → σ → Run σ (Except Error β)}
    {step' : γ → α → σ → Run σ (Except Error γ)} {form : β → γ}
    (h : ∀ b a s, (step b a s).map (Except.map form) = step' (form b) a s) (acc : β)
    (as : List α) (s : σ) :
    (fold step acc as s).map (Except.map form) = fold step' (form acc) as s := by
  induction as generalizing acc s with
  | nil => rfl
  | cons a rest ih =>
    rw [fold, map_andThen, fold, ← h, andThen_map]
    simp only [ih]

/-- A fold can read a changed list as it goes. -/
theorem fold_map (step : β → α → σ → Run σ (Except Error β)) (g : γ → α) (acc : β)
    (as : List γ) (s : σ) :
    fold step acc (as.map g) s = fold (fun b a => step b (g a)) acc as s := by
  induction as generalizing acc s with
  | nil => rfl
  | cons a rest ih =>
    rw [List.map_cons, fold, fold]
    exact congrArg _ (funext fun acc => funext (ih acc))

end Run

/-- **A program bound to another is run before it.** -/
theorem Program.run_bind (P : Primitives σ) (p : Program α) (f : α → Program β) (s : σ) :
    (p.bind f).run P s = (p.run P s).andThen fun a s => (f a).run P s := by
  induction p generalizing s with
  | done a => rfl
  | ask q next ih =>
    simp only [bind, run]
    rcases P.reply q s with ⟨a | e | _, s'⟩
    · dsimp only
      rw [ih, Run.after_andThen]
    · rfl
    · rfl

end Bridge
end StarkWire
