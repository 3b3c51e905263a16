/-
# Operations as programs

Every operation checks its arguments and then runs one program; a verification settles what comes
of that into a verdict at the end.  `procedure` gives the program of an operation, with its result
as an `Answer`, and `finish` the settling, so that a fact about all operations follows from one
about programs (`run_eq_finish`).
-/

import StarkWire.Bridge.Operation
import Mathlib.Data.Nat.Notation

namespace StarkWire

/-- A buffer is read as a signature just when it is as long as one. -/
theorem Signature.length_eq_iff (buffer : Buffer) :
    buffer.length = Signature.size ↔ ∃ sig, Signature.read buffer = .ok sig := by
  unfold Signature.read checkLength Bytes.ofBuffer?
  by_cases h : buffer.length = Signature.size <;> simp [h, Except.map]

namespace Bridge

variable {σ α β : Type} (P : Primitives σ)

/-- A program with its result changed runs as before and changes its answer. -/
theorem Program.run_map (f : α → β) (p : Program α) (s : σ) :
    (p.map f).run P s = (p.run P s).map (Except.map f) := by
  induction p generalizing s with
  | done a => rfl
  | ask q next ih =>
    simp only [Program.map, Program.bind, Program.run] at ih ⊢
    rcases P.reply q s with ⟨reply, s'⟩
    cases reply with
    | value a =>
      dsimp only
      rw [ih]
      rfl
    | fault e => rfl
    | panic => rfl

/-- So does what is checked first. -/
theorem Checked.run_map (f : α → β) (c : Checked (Program α)) (s : σ) :
    Checked.run P (c.map (Program.map f)) s = (Checked.run P c s).map (Except.map f) := by
  cases c with
  | ok p => exact Program.run_map P f p s
  | error e => rfl

/-- What passes the check has the property. -/
def Always (φ : α → Prop) (c : Checked α) : Prop := ∀ a, c = .ok a → φ a

/-- What a check lets pass is what it gives. -/
theorem always_ok {φ : α → Prop} {a : α} (h : φ a) : Always φ (.ok a) := by
  rintro b hb
  rwa [← Except.ok.inj hb]

/-- A second check may count on what the first lets pass. -/
theorem Always.bind {ψ : α → Prop} {φ : β → Prop} {c : Checked α} {f : α → Checked β}
    (hc : Always ψ c) (h : ∀ a, ψ a → Always φ (f a)) : Always φ (c >>= f) := by
  rcases c with e | a
  · rintro b hb
    cases hb
  · exact h a (hc a rfl)

/-- A second check is often enough by itself. -/
theorem always_bind {φ : β → Prop} {c : Checked α} {f : α → Checked β}
    (h : ∀ a, Always φ (f a)) : Always φ (c >>= f) :=
  Always.bind (ψ := fun _ => True) (fun _ _ => trivial) fun a _ => h a

/-- A property of what is made of the result is one of the result. -/
theorem always_map {φ : β → Prop} {c : Checked α} {f : α → β} (h : Always (fun a => φ (f a)) c) :
    Always φ (c.map f) := by
  rcases c with e | a
  · rintro b hb
    cases hb
  · exact always_ok (h a rfl)

namespace Operation

/-- Wire bytes as an answer. -/
def ofBytes {n : ℕ} (bytes : Bytes n) : Answer := .bytes bytes.toList

/-- The check and the program of an operation. -/
def procedure : Operation → Checked (Program Answer)
  | pedersen first second => (Procedure.pedersen first second).map (Program.map ofBytes)
  | sign privateKey message k => (Procedure.sign privateKey message k).map (Program.map ofBytes)
  | signDeterministic privateKey message seed =>
    (Procedure.signDeterministic privateKey message seed).map (Program.map ofBytes)
  | verify key hash r w => (Procedure.verify key hash r w).map (Program.map .verdict)
  | verifySignature key hash signature =>
    match Signature.read signature with
    | .ok sig =>
      (Procedure.verify key hash sig.r.encode.toList sig.w.encode.toList).map
        (Program.map .verdict)
    | .error e => .error ⟨.signature, e⟩
  | publicKey privateKey => (Procedure.publicKey privateKey).map (Program.map ofBytes)
  | hades grid => (Procedure.hades grid).map (Program.map .grid)
  | hadesState state =>
    (Procedure.hadesState state).map (Program.map fun state => .grid state.toGrid)
  | pedersenOnElements elements =>
    (Procedure.pedersenOnElements elements).map (Program.map ofBytes)
  | poseidonHash first second => (Procedure.poseidonHash first second).map (Program.map ofBytes)
  | poseidonHashSingle value => (Procedure.poseidonHashSingle value).map (Program.map ofBytes)
  | poseidonHashMany elements =>
    (Procedure.poseidonHashMany elements).map (Program.map ofBytes)

/-- What an operation answers instead of a result. -/
def refusal : Operation → Error → Except Error Answer
  | verify .. => fun _ => .ok (.verdict false)
  | verifySignature .. => fun _ => .ok (.verdict false)
  | _ => .error

/-- What an operation logs when it turns an error into its refusal. -/
def epilogue : Operation → Error → List Event
  | verify .. => fun e => [.unverified e]
  | verifySignature _ _ signature => fun e =>
    if signature.length = Signature.size then [.unverified e] else []
  | _ => fun _ => []

/-- The end of an operation: an error becomes its refusal. -/
def finish (op : Operation) (r : Run σ (Except Error Answer)) : Run σ (Except Error Answer) :=
  match r.answer with
  | .ok _ => r
  | .error e => ⟨op.refusal e, r.state, r.calls, r.log ++ op.epilogue e⟩

/-- An operation that keeps its errors and adds nothing to its log ends as it is. -/
theorem finish_eq_self {op : Operation} (r : Run σ (Except Error Answer))
    (hr : ∀ e, op.refusal e = .error e) (hl : ∀ e, op.epilogue e = []) : op.finish r = r := by
  rcases r with ⟨_ | _, _, _, _⟩ <;> simp [finish, hr, hl]

/-- The end of an operation makes no request. -/
@[simp] theorem calls_finish (op : Operation) (r : Run σ (Except Error Answer)) :
    (op.finish r).calls = r.calls := by
  rcases r with ⟨_ | _, _, _, _⟩ <;> rfl

/-- The end of an operation leaves the primitives in their state. -/
@[simp] theorem state_finish (op : Operation) (r : Run σ (Except Error Answer)) :
    (op.finish r).state = r.state := by
  rcases r with ⟨_ | _, _, _, _⟩ <;> rfl

/-- A verdict settled is the answer of the operation, finished. -/
theorem map_settle (r : Run σ (Except Error Bool)) (op : Operation)
    (hr : ∀ e, op.refusal e = .ok (.verdict false)) (hl : ∀ e, op.epilogue e = [.unverified e]) :
    r.settle.map (fun valid => .ok (.verdict valid))
      = op.finish (r.map (Except.map Answer.verdict)) := by
  rcases r with ⟨_ | _, _, _, _⟩ <;> simp [Run.settle, Run.map, finish, Except.map, hr, hl]

/-- **Every operation is its program, finished.** -/
theorem run_eq_finish (op : Operation) (s : σ) :
    op.run P s = op.finish (Checked.run P op.procedure s) := by
  cases op with
  | verify key hash r w =>
    rw [procedure, Checked.run_map]
    exact map_settle _ _ (fun _ => rfl) fun _ => rfl
  | verifySignature key hash signature =>
    rw [run, Bridge.verifySignature, procedure]
    rcases hs : Signature.read signature with e | sig
    · have hl : ¬ signature.length = Signature.size := by
        rw [Signature.length_eq_iff]
        rintro ⟨sig, h⟩
        cases hs.symm.trans h
      simp [Checked.run, Run.map, finish, refusal, epilogue, hl]
    · have hl := (Signature.length_eq_iff signature).2 ⟨sig, hs⟩
      dsimp only
      rw [Checked.run_map]
      exact map_settle _ _ (fun _ => rfl) fun _ => if_pos hl
  | _ =>
    rw [procedure, Checked.run_map, finish_eq_self _ (fun _ => rfl) fun _ => rfl]
    rfl

end Operation
end Bridge
end StarkWire
