/-
# Requests with their replies

Put to the primitives again, one after the other from the state in which a run began, the calls of
the run get the replies that they got in it; `exchanges` lists them with these replies.

A program goes on after a value and stops at anything else.  So a run ends in one of two ways
(`Ending`): it has an answer, and all its calls brought values, or it has none, and of its calls
the last, and the last alone, brought no value.  In either case the log tells each call and its
reply, in order.  A program whose answer is made of its last reply alone (`Reports`) hands out what
the last of the exchanges brought (`Reports.exists_last`).
-/

import StarkWire.Bridge.Program
import Mathlib.Data.Nat.Notation

namespace StarkWire

/-- A request and the reply to it. -/
structure Exchange where
  request : Request
  reply : Reply request.Answer

namespace Exchange

/-- Whether the reply is a value. -/
def succeeded (x : Exchange) : Bool :=
  match x.reply with
  | .value _ => true
  | .fault _ => false
  | .panic => false

/-- How the call is logged. -/
def event (x : Exchange) : Bridge.Event :=
  match x.reply with
  | .value _ => .completed x.request.operation
  | .fault f => .faulted x.request.operation f.message
  | .panic => .panicked x.request.operation

/-- The entry of a call that brought a value. -/
def completion (x : Exchange) : Bridge.Event := .completed x.request.operation

/-- A call without a value is logged as a warning. -/
theorem level_event_of_failed {x : Exchange} (h : x.succeeded = false) : x.event.level = .warn := by
  rcases x with ⟨q, a | f | _⟩
  · cases h
  · rfl
  · rfl

end Exchange

variable {σ : Type}

/-- Requests put one after the other, with the replies. -/
def Primitives.exchanges (P : Primitives σ) : List Request → σ → List Exchange
  | [], _ => []
  | q :: rest, s => ⟨q, (P.reply q s).1⟩ :: P.exchanges rest (P.reply q s).2

/-- The exchanges are those of the calls, one for each, in order. -/
theorem Primitives.map_request_exchanges (P : Primitives σ) (calls : List Request) (s : σ) :
    (P.exchanges calls s).map Exchange.request = calls := by
  induction calls generalizing s with
  | nil => rfl
  | cons q rest ih => rw [exchanges, List.map_cons, ih]

namespace Bridge

variable {α β : Type} {P : Primitives σ} {s : σ}

/-- How a run ends that began in state `s`. -/
inductive Ending (P : Primitives σ) (s : σ) (r : Run σ (Except Error α)) : Prop
  /-- All calls brought values, and there is an answer. -/
  | answered (a : α) (answer : r.answer = .ok a)
      (succeeded : ∀ x ∈ P.exchanges r.calls s, x.succeeded = true)
      (log : r.log = (P.exchanges r.calls s).map Exchange.completion)
  /-- The last call brought no value, and there is no answer. -/
  | failed (before : List Exchange) (last : Exchange)
      (answer : r.answer = .error .unknownPrimitiveFailure)
      (exchanges : P.exchanges r.calls s = before ++ [last])
      (succeeded : ∀ x ∈ before, x.succeeded = true) (failed : last.succeeded = false)
      (log : r.log = before.map Exchange.completion ++ [last.event])

/-- There is an answer just when no call failed. -/
theorem Ending.exists_ok_iff {r : Run σ (Except Error α)} (hr : Ending P s r) :
    (∃ a, r.answer = .ok a) ↔ ∀ x ∈ P.exchanges r.calls s, x.succeeded = true := by
  cases hr with
  | answered a answer succeeded log => exact ⟨fun _ => succeeded, fun _ => ⟨a, answer⟩⟩
  | failed before last answer exchanges succeeded failed log =>
    constructor
    · rintro ⟨a, ha⟩
      cases answer.symm.trans ha
    · intro h
      have hlast : last ∈ P.exchanges r.calls s := by
        rw [exchanges]
        exact List.mem_concat_self
      cases failed.symm.trans (h last hlast)

/-- A call that brings a value comes before the exchanges of the rest. -/
theorem Ending.after {r : Run σ (Except Error α)} {q : Request} {a : q.Answer} {s' : σ}
    (hq : P.reply q s = (.value a, s')) (hr : Ending P s' r) : Ending P s (r.after q) := by
  have hx : P.exchanges (r.after q).calls s = ⟨q, .value a⟩ :: P.exchanges r.calls s' := by
    rw [Run.after, Primitives.exchanges, hq]
  cases hr with
  | answered b answer succeeded log =>
    refine .answered b answer ?_ ?_
    · rw [hx]
      exact List.forall_mem_cons.2 ⟨rfl, succeeded⟩
    · rw [hx, List.map_cons, ← log]
      rfl
  | failed before last answer exchanges succeeded failed log =>
    refine .failed (⟨q, .value a⟩ :: before) last answer ?_ ?_ failed ?_
    · rw [hx, exchanges, List.cons_append]
    · exact List.forall_mem_cons.2 ⟨rfl, succeeded⟩
    · rw [List.map_cons, List.cons_append, ← log]
      rfl

namespace Program

variable {q : Request} {next : q.Answer → Program α}

/-- With a value a program goes on in the state that the primitives left. -/
theorem run_ask_of_value {a : q.Answer} {s' : σ} (h : P.reply q s = (.value a, s')) :
    (ask q next).run P s = ((next a).run P s').after q := by
  rw [run, h]

/-- **Programs end in one of the two ways.** -/
theorem ending (p : Program α) (s : σ) : Ending P s (p.run P s) := by
  induction p generalizing s with
  | done a => exact .answered a rfl (List.forall_mem_nil _) rfl
  | ask q next ih =>
    rcases hr : P.reply q s with ⟨a | f | _, s'⟩
    · rw [run_ask_of_value hr]
      exact (ih a s').after hr
    · have hrun : (ask q next).run P s
          = ⟨.error .unknownPrimitiveFailure, s', [q], [.faulted q.operation f.message]⟩ := by
        rw [run, hr]
      rw [hrun]
      exact .failed [] ⟨q, .fault f⟩ rfl (by simp only [Primitives.exchanges, hr]; rfl)
        (List.forall_mem_nil _) rfl rfl
    · have hrun : (ask q next).run P s
          = ⟨.error .unknownPrimitiveFailure, s', [q], [.panicked q.operation]⟩ := by
        rw [run, hr]
      rw [hrun]
      exact .failed [] ⟨q, .panic⟩ rfl (by simp only [Primitives.exchanges, hr]; rfl)
        (List.forall_mem_nil _) rfl rfl

/-- A single request is logged with its reply. -/
theorem log_map_request (q : Request) (f : q.Answer → α) (s : σ) :
    (((request q).map f).run P s).log = [Exchange.event ⟨q, (P.reply q s).1⟩] := by
  simp only [request, map, bind, run]
  rcases P.reply q s with ⟨a | e | _, s'⟩ <;> rfl

/-! ### The last reply -/

/-- The program makes its result of the last reply, by `out`. -/
def Reports (out : (q : Request) → q.Answer → α) : Program α → Prop
  | done _ => False
  | ask q next => ∀ a, next a = done (out q a) ∨ (next a).Reports out

/-- A single request reports its reply. -/
theorem reports_request {out : (q : Request) → q.Answer → α} (q : Request) {f : q.Answer → α}
    (h : ∀ a, f a = out q a) : ((request q).map f).Reports out :=
  fun a => .inl (congrArg done (h a))

/-- What comes before the last request does not matter to what is reported. -/
theorem reports_bind {out : (q : Request) → q.Answer → β} (p : Program α) {f : α → Program β}
    (h : ∀ a, (f a).Reports out) : (p.bind f).Reports out := by
  induction p with
  | done a => exact h a
  | ask q next ih => exact fun a => .inr (ih a)

/-- A result is changed at the end of the second program. -/
theorem map_bind {γ : Type} (p : Program α) (f : α → Program β) (g : β → γ) :
    (p.bind f).map g = p.bind fun a => (f a).map g := by
  induction p with
  | done a => rfl
  | ask q next ih => exact congrArg (ask q) (funext ih)

/-- A result changed twice is changed once. -/
theorem map_map {γ : Type} (p : Program α) (f : α → β) (g : β → γ) :
    (p.map f).map g = p.map (g ∘ f) :=
  map_bind p _ g

/-- A single request with a result changed twice reports its reply. -/
theorem reports_map_request {out : (q : Request) → q.Answer → β} (q : Request)
    {f : q.Answer → α} {g : α → β} (h : ∀ a, g (f a) = out q a) :
    (((request q).map f).map g).Reports out := by
  rw [map_map]
  exact reports_request q h

/-- A program that is run to its end has made its result of the last reply. -/
theorem Reports.exists_last {out : (q : Request) → q.Answer → α} {p : Program α}
    (hp : p.Reports out) {b : α} (h : (p.run P s).answer = .ok b) :
    ∃ q a, (P.exchanges (p.run P s).calls s).getLast? = some ⟨q, .value a⟩ ∧ b = out q a := by
  induction p generalizing s with
  | done a => exact hp.elim
  | ask q next ih =>
    rcases hr : P.reply q s with ⟨a | f | _, s'⟩
    · rw [run_ask_of_value hr] at h ⊢
      have hx : P.exchanges (((next a).run P s').after q).calls s
          = ⟨q, .value a⟩ :: P.exchanges ((next a).run P s').calls s' := by
        rw [Run.after, Primitives.exchanges, hr]
      rcases hp a with hdone | hrest
      · rw [hdone] at h hx ⊢
        rw [hx]
        exact ⟨q, a, rfl, (Except.ok.inj h).symm⟩
      · obtain ⟨q', a', hlast, hb⟩ := ih a hrest h
        refine ⟨q', a', ?_, hb⟩
        rw [hx, List.getLast?_cons, hlast, Option.getD_some]
    · rw [run, hr] at h
      cases h
    · rw [run, hr] at h
      cases h

end Program
end Bridge
end StarkWire
