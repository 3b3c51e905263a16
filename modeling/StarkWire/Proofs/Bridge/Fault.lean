/-
# What a failed call can do

Scripted primitives answer each request in one fixed way, but fail at chosen calls.  `Contained`
says what that does to anything that runs on them from call number `n` on: it makes the calls of
the run without failures up to the first that fails, and none after that; with no failure the
outcome is that of the run without failures, and with one it is a fixed refusal, whatever the
failed call would have computed.

Every program is contained, by induction on its requests (`Program.contained`), so every operation
is (`Operation.contained`); and since an operation hands on nothing but the number of calls made,
so is each operation in a list of them (`Operation.failures_contained`).
-/

import StarkWire.Primitive.Scripted
import StarkWire.Proofs.Bridge.Operation

namespace StarkWire

namespace Script

/-- Whether call number `n` fails if it is the request `q`. -/
def fails (script : Script) (n : ℕ) (q : Request) : Bool :=
  script.panics n || (script.faults n && q.canFault)

/-- The script without failures. -/
def never : Script := ⟨fun _ => false, fun _ => false, ""⟩

/-- How a failed call is logged. -/
def failure (script : Script) (n : ℕ) (q : Request) : Bridge.Event :=
  if script.panics n then .panicked q.operation
  else .faulted q.operation (Fault.message ⟨q.operation, script.detail⟩)

end Script

namespace Bridge

variable {α β : Type} {script : Script} {answer : (q : Request) → q.Answer} {n : ℕ}

/-- What failures can do to `run`, begun at call number `n`. -/
structure Contained (script : Script) (answer : (q : Request) → q.Answer)
    (run : Primitives ℕ → ℕ → Run ℕ α) (refused : α) (n : ℕ) : Prop where
  /-- Every call made is counted, whether it fails or not. -/
  state : (run (script.primitives answer) n).state
    = n + (run (script.primitives answer) n).calls.length
  /-- The calls are those of a run without failures, possibly cut short. -/
  calls (m : ℕ) : (run (script.primitives answer) n).calls
    <+: (run (Script.never.primitives answer) m).calls
  /-- If no call fails, all is as in a run without failures, begun anywhere. -/
  unharmed (h : ∀ j q, (run (script.primitives answer) n).calls[j]? = some q →
      script.fails (n + j) q = false) (m : ℕ) :
    (run (script.primitives answer) n).answer = (run (Script.never.primitives answer) m).answer ∧
    (run (script.primitives answer) n).calls = (run (Script.never.primitives answer) m).calls ∧
    (run (script.primitives answer) n).log = (run (Script.never.primitives answer) m).log
  /-- A failed call is the last, and leads to the refusal. -/
  stopped (j : ℕ) (q : Request) (hq : (run (script.primitives answer) n).calls[j]? = some q)
      (h : script.fails (n + j) q = true) :
    (run (script.primitives answer) n).calls.length = j + 1 ∧
    (run (script.primitives answer) n).answer = refused
  /-- Nothing depends on what the failed call would have computed: other primitives that answer
  the calls before it in the same way leave behind the same run. -/
  discarded (j : ℕ) (q : Request) (hq : (run (script.primitives answer) n).calls[j]? = some q)
      (h : script.fails (n + j) q = true) (answer' : (q : Request) → q.Answer)
      (ha : ∀ q' ∈ (run (script.primitives answer) n).calls.take j, answer' q' = answer q') :
    run (script.primitives answer') n = run (script.primitives answer) n

/-- What makes no call cannot be harmed. -/
theorem contained_of_silent (a refused : α) (log : List Event) :
    Contained script answer (fun _ m => ⟨a, m, [], log⟩) refused n := by
  refine ⟨rfl, fun _ => List.prefix_rfl, fun _ _ => ⟨rfl, rfl, rfl⟩, ?_, ?_⟩
  · rintro j q hq
    cases hq
  · rintro j q hq
    cases hq

namespace Program

variable {q : Request} {next : q.Answer → Program α}

/-- At the failing call a program ends, and logs how the call failed. -/
theorem run_ask_of_fails (h : script.fails n q = true) :
    (ask q next).run (script.primitives answer) n
      = ⟨.error .unknownPrimitiveFailure, n + 1, [q], [script.failure n q]⟩ := by
  simp only [Script.fails, Bool.or_eq_true] at h
  simp only [run, Script.primitives, Script.reply, Script.failure]
  by_cases hp : script.panics n = true
  · simp only [hp, if_true]
  · simp only [hp, h.resolve_left hp, if_true, if_false, Bool.false_eq_true]

/-- Before it a program goes on with the scripted answer. -/
theorem run_ask_of_not_fails (h : script.fails n q = false) :
    (ask q next).run (script.primitives answer) n
      = ((next (answer q)).run (script.primitives answer) (n + 1)).after q := by
  simp only [Script.fails, Bool.or_eq_false_iff] at h
  simp only [run, Script.primitives, Script.reply, h.1, h.2, if_false, Bool.false_eq_true]

/-- Without a failure a program always goes on. -/
theorem run_ask_never (m : ℕ) :
    (ask q next).run (Script.never.primitives answer) m
      = ((next (answer q)).run (Script.never.primitives answer) (m + 1)).after q :=
  run_ask_of_not_fails rfl

/-- A request that fails ends the program, before anything is done with an answer. -/
theorem contained_of_fails (hf : script.fails n q = true) :
    Contained script answer (ask q next).run (.error .unknownPrimitiveFailure) n := by
  have hr : ∀ answer', (ask q next).run (script.primitives answer') n = _ :=
    fun answer' => run_ask_of_fails hf
  constructor
  · rw [hr]
    rfl
  · intro m
    rw [hr, run_ask_never]
    exact List.prefix_append [q] _
  · intro h
    rw [hr] at h
    exact absurd (h 0 q rfl) (by simp [hf])
  · rintro j q' hq -
    rw [hr] at hq ⊢
    obtain rfl : j = 0 := by
      cases j with
      | zero => rfl
      | succ j => cases hq
    exact ⟨rfl, rfl⟩
  · rintro j q' - - answer' -
    rw [hr, hr]

/-- A request that is answered puts one call before those of the rest. -/
theorem contained_of_not_fails (hf : script.fails n q = false)
    (hrest : Contained script answer (next (answer q)).run (.error .unknownPrimitiveFailure)
      (n + 1)) :
    Contained script answer (ask q next).run (.error .unknownPrimitiveFailure) n := by
  have hr : (ask q next).run (script.primitives answer) n
      = ((next (answer q)).run (script.primitives answer) (n + 1)).after q :=
    run_ask_of_not_fails hf
  -- call `j` of the rest is call `j + 1` of the whole
  have hshift : ∀ j, n + (j + 1) = n + 1 + j := fun j => by omega
  constructor
  · rw [hr]
    simp only [Run.after, List.length_cons, hrest.state]
    omega
  · intro m
    rw [hr, run_ask_never]
    exact List.cons_prefix_cons.2 ⟨rfl, hrest.calls (m + 1)⟩
  · intro h m
    rw [hr] at h ⊢
    rw [run_ask_never]
    obtain ⟨ha, hc, hl⟩ := hrest.unharmed (fun j q' hq => by
      rw [← hshift]
      exact h (j + 1) q' hq) (m + 1)
    exact ⟨ha, congrArg (q :: ·) hc, congrArg (Event.completed q.operation :: ·) hl⟩
  · intro j q' hq h
    rw [hr] at hq ⊢
    cases j with
    | zero =>
      cases hq
      exact absurd h (by simp [hf])
    | succ j =>
      rw [hshift] at h
      obtain ⟨hc, ha⟩ := hrest.stopped j q' hq h
      exact ⟨congrArg (· + 1) hc, ha⟩
  · intro j q' hq h answer' ha
    rw [hr] at hq ha ⊢
    cases j with
    | zero =>
      cases hq
      exact absurd h (by simp [hf])
    | succ j =>
      rw [hshift] at h
      rw [run_ask_of_not_fails hf, ha q List.mem_cons_self]
      exact congrArg (Run.after q) (hrest.discarded j q' hq h answer' fun q' h' =>
        ha q' (List.mem_cons_of_mem _ h'))

/-- **Programs are contained.** -/
theorem contained (p : Program α) (n : ℕ) :
    Contained script answer (fun P => p.run P) (.error .unknownPrimitiveFailure) n := by
  induction p generalizing n with
  | done a => exact contained_of_silent _ _ _
  | ask q next ih =>
    cases hf : script.fails n q with
    | true => exact contained_of_fails hf
    | false => exact contained_of_not_fails hf (ih (answer q) (n + 1))

end Program

/-- **What is contained in a program is contained in an operation that checks first.** -/
theorem Checked.contained (c : Checked (Program α)) (n : ℕ) :
    Contained script answer (fun P => Checked.run P c) (.error .unknownPrimitiveFailure) n := by
  cases c with
  | ok p => exact p.contained n
  | error e => exact contained_of_silent _ _ _

namespace Operation

variable {σ : Type} (op : Operation)

/-- An error is refused in the way of the operation. -/
theorem answer_finish_of_error {r : Run σ (Except Error Answer)} {e : Error}
    (h : r.answer = .error e) : (op.finish r).answer = op.refusal e := by
  rw [finish, h]

/-- Runs with the same answer and the same log are finished alike. -/
theorem finish_congr {r r' : Run σ (Except Error Answer)} (ha : r.answer = r'.answer)
    (hl : r.log = r'.log) :
    (op.finish r).answer = (op.finish r').answer ∧ (op.finish r).log = (op.finish r').log := by
  rcases r with ⟨a, s, calls, log⟩
  rcases r' with ⟨a', s', calls', log'⟩
  obtain rfl : a = a' := ha
  obtain rfl : log = log' := hl
  cases a <;> exact ⟨rfl, rfl⟩

/-- **Operations are contained.** -/
theorem contained (n : ℕ) :
    Contained script answer (fun P => op.run P) (op.refusal .unknownPrimitiveFailure) n := by
  have hrun : ∀ (P : Primitives ℕ) m, op.run P m = op.finish (Checked.run P op.procedure m) :=
    fun P => run_eq_finish P op
  -- what the operation makes of its answer leaves state and calls as the program had them
  obtain ⟨state, calls, unharmed, stopped, discarded⟩ : Contained script answer
      (fun P => Checked.run P op.procedure) (.error .unknownPrimitiveFailure) n :=
    op.procedure.contained n
  constructor
  · rw [hrun, state_finish, calls_finish]
    exact state
  · intro m
    rw [hrun, hrun, calls_finish, calls_finish]
    exact calls m
  · intro h m
    rw [hrun, calls_finish] at h
    obtain ⟨ha, hc, hl⟩ := unharmed h m
    obtain ⟨ha', hl'⟩ := op.finish_congr ha hl
    rw [hrun, hrun, calls_finish, calls_finish]
    exact ⟨ha', hc, hl'⟩
  · intro j q hq h
    rw [hrun, calls_finish] at hq ⊢
    obtain ⟨hc, ha⟩ := stopped j q hq h
    exact ⟨hc, op.answer_finish_of_error ha⟩
  · intro j q hq h answer' ha
    rw [hrun, calls_finish] at hq ha
    rw [hrun, hrun, discarded j q hq h answer' ha]

/-! ### Operations one after the other -/

/-- The number of calls made in a list of runs. -/
def callCount : List (Run σ α) → ℕ
  | [] => 0
  | r :: rest => r.calls.length + callCount rest

/-- Each operation begins where the calls of those before it have left the count. -/
theorem getElem?_runAll {ops : List Operation} {i : ℕ} {op : Operation} (h : ops[i]? = some op)
    (n : ℕ) :
    (runAll (script.primitives answer) ops n)[i]? = some (op.run (script.primitives answer)
      (n + callCount ((runAll (script.primitives answer) ops n).take i))) := by
  induction ops generalizing i n with
  | nil => cases h
  | cons first rest ih =>
    cases i with
    | zero =>
      obtain rfl := Option.some.inj h
      rfl
    | succ i =>
      have hs : (first.run (script.primitives answer) n).state
          = n + (first.run (script.primitives answer) n).calls.length := (first.contained n).state
      rw [runAll, List.getElem?_cons_succ, ih h, hs, List.take_succ_cons, callCount, Nat.add_assoc]

/-- There is one run for each operation. -/
theorem length_runAll (P : Primitives σ) (ops : List Operation) (s : σ) :
    (runAll P ops s).length = ops.length := by
  induction ops generalizing s with
  | nil => rfl
  | cons op rest ih => exact congrArg (· + 1) (ih _)

/-- **A failure harms the operation it meets and no other.**  Whatever calls fail, the operations
of a list all leave a run; each begins with the number of calls made before it, and is contained:
it is unharmed if none of its own calls fails, and refused at the first that does. -/
theorem failures_contained (script : Script) (answer : (q : Request) → q.Answer)
    (ops : List Operation) (n : ℕ) :
    (runAll (script.primitives answer) ops n).length = ops.length ∧
    ∀ i op, ops[i]? = some op → ∃ start,
      start = n + callCount ((runAll (script.primitives answer) ops n).take i) ∧
      (runAll (script.primitives answer) ops n)[i]?
        = some (op.run (script.primitives answer) start) ∧
      Contained script answer (fun P => op.run P) (op.refusal .unknownPrimitiveFailure) start :=
  ⟨length_runAll _ _ _, fun _ op h => ⟨_, rfl, getElem?_runAll h n, op.contained _⟩⟩

/-- Call 1 panics: that is the second of the three calls of a chain over two elements, which is
refused after two calls; the hash after it takes call 2 and is unharmed. -/
theorem failures_contained_in_chain :
    ∃ first second : Run ℕ (Except Error Answer),
      runAll (Script.primitives ⟨(· == 1), fun _ => false, ""⟩ Script.toyAnswer)
          [.pedersenOnElements [List.replicate 32 1, List.replicate 32 2],
            .pedersen (List.replicate 32 1) (List.replicate 32 2)] 0 = [first, second] ∧
      first.answer = .error .unknownPrimitiveFailure ∧ first.calls.length = 2 ∧
      second.answer = (Operation.run (Script.never.primitives Script.toyAnswer)
        (.pedersen (List.replicate 32 1) (List.replicate 32 2)) 0).answer ∧ second.state = 3 := by
  have h := failures_contained ⟨(· == 1), fun _ => false, ""⟩ Script.toyAnswer
    [.pedersenOnElements [List.replicate 32 1, List.replicate 32 2],
      .pedersen (List.replicate 32 1) (List.replicate 32 2)] 0
  obtain ⟨_, rfl, -, h₁⟩ := h.2 0 _ rfl
  obtain ⟨_, rfl, -, h₂⟩ := h.2 1 _ rfl
  refine ⟨_, _, rfl, (h₁.stopped 1 _ rfl rfl).2, (h₁.stopped 1 _ rfl rfl).1,
    (h₂.unharmed ?_ 0).1, h₂.state.trans rfl⟩
  intro j q hq
  cases j with
  | zero => rfl
  | succ j => cases hq

end Operation
end Bridge
end StarkWire
