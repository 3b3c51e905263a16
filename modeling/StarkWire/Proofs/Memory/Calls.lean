/-
# Calls that keep to their output

A call can fail in three layers: a pointer may be null, an argument may have the wrong length, a
primitive may fail.  The first two are one status, -1, and the third another, -2; nothing else
happens (`Writes`).  The inputs are read and the result is complete before the first byte is
written, so a call that succeeds replaces exactly the bytes at its output by what the bridge
answers on the bytes that were there before, however inputs and output overlap; a call that fails
replaces none, and a verification never does (`Judges`).

In a list of calls the same holds of each of them, in the block and the state that the calls before
it have left (`calls_keep_contract`), for no call changes the length of the block.
-/

import StarkWire.Primitive.Scripted
import StarkWire.Proofs.Bridge.Operation
import StarkWire.Proofs.Bridge.Sizes
import StarkWire.Proofs.Memory.Block

namespace StarkWire
namespace Memory

open Bridge

/-! ### What a call has to do -/

section Contracts

variable {σ : Type} {n : ℕ}

/-- A call with these inputs and this output writes what `bridge`, the operation on the bytes of
the inputs, has answered. -/
structure Writes (memory : Buffer) (inputs : List Span) (out : Option ℕ)
    (bridge : Run σ (Except Error (Bytes n))) (outcome : Outcome) : Prop where
  done_iff : outcome.status = 0 ↔
    (out ≠ none ∧ ∀ i ∈ inputs, i.IsElement) ∧ ∃ result, bridge.answer = .ok result
  invalid_iff : outcome.status = -1 ↔ ¬ (out ≠ none ∧ ∀ i ∈ inputs, i.IsElement)
  failed_iff : outcome.status = -2 ↔
    (out ≠ none ∧ ∀ i ∈ inputs, i.IsElement) ∧ bridge.answer = .error .unknownPrimitiveFailure
  written (h : outcome.status = 0) : ∃ place result, out = some place ∧
    bridge.answer = .ok result ∧ Overwritten memory place result.toList outcome.memory
  kept (h : outcome.status ≠ 0) : outcome.memory = memory

/-- A verification with these inputs gives the verdict of `bridge`, the operation on the bytes of
the inputs. -/
structure Judges (memory : Buffer) (inputs : List Span) (bridge : Run σ Bool)
    (outcome : Outcome) : Prop where
  valid_iff : outcome.status = 1 ↔ (∀ i ∈ inputs, i.IsElement) ∧ bridge.answer = true
  invalid_iff : outcome.status = 0 ↔ ¬ ((∀ i ∈ inputs, i.IsElement) ∧ bridge.answer = true)
  kept : outcome.memory = memory

/-- No byte outside the `n` bytes at the output changes. -/
structure StaysWithin (memory : Buffer) (out : Option ℕ) (n : ℕ) (outcome : Outcome) : Prop where
  length : outcome.memory.length = memory.length
  outside (i : ℕ) (h : ∀ place, out = some place → i < place ∨ place + n ≤ i) :
    outcome.memory[i]? = memory[i]?

/-- What a call has to leave behind when it is made on a block of memory and in state `s`. -/
def Call.Contract (P : Primitives σ) (memory : Buffer) (s : σ) : Call → Outcome → Prop
  | .pedersen a b out =>
    Writes memory [a, b] out (Bridge.pedersen P (a.bytes memory) (b.bytes memory) s)
  | .sign d m k out =>
    Writes memory [d, m, k] out
      (Bridge.sign P (d.bytes memory) (m.bytes memory) (k.bytes memory) s)
  | .verify q h r w =>
    Judges memory [q, h, r, w]
      (Bridge.verify P (q.bytes memory) (h.bytes memory) (r.bytes memory) (w.bytes memory) s)
  | .publicKey d out => Writes memory [d] out (Bridge.publicKey P (d.bytes memory) s)
  | .hades _ _ _ out => StaysWithin memory out 96

/-- The inputs that a call reads as elements. -/
def Call.inputs : Call → List Span
  | .pedersen a b _ => [a, b]
  | .sign d m k _ => [d, m, k]
  | .verify q h r w => [q, h, r, w]
  | .publicKey d _ => [d]
  | .hades .. => []

/-- The place that a call writes to, and how many bytes. -/
def Call.output : Call → Option ℕ × ℕ
  | .pedersen _ _ out => (out, 32)
  | .sign _ _ _ out => (out, 64)
  | .verify .. => (none, 0)
  | .publicKey _ out => (out, 32)
  | .hades _ _ _ out => (out, 96)

/-- Inputs and output of a call lie in a block of the given size, where they are not null. -/
structure Call.Fits (size : ℕ) (call : Call) : Prop where
  inputs : ∀ i ∈ call.inputs, i.Fits size
  output (place : ℕ) (h : call.output.1 = some place) : place + call.output.2 ≤ size

/-- The runs answer the calls one by one, each with what it has to leave behind on the block and
in the state that the one before it has left. -/
inductive Call.Contracts (P : Primitives σ) :
    Buffer → σ → List Call → List (Run σ Outcome) → Prop
  | nil {memory : Buffer} {s : σ} : Contracts P memory s [] []
  | cons {memory : Buffer} {s : σ} {call : Call} {r : Run σ Outcome} {calls : List Call}
      {runs : List (Run σ Outcome)} (first : call.Contract P memory s r.answer)
      (rest : Contracts P r.answer.memory r.state calls runs) :
      Contracts P memory s (call :: calls) (r :: runs)

end Contracts

variable {σ ρ : Type} {n : ℕ} {memory : Buffer} {inputs : List Span}

/-! ### Pointers -/

/-- The inputs are looked at in order, and what is made of their bytes is `result` unless one of
them is null. -/
structure Opens (memory : Buffer) (inputs : List Span) (result : ρ) (c : Except SizeError ρ) :
    Prop where
  whole (h : ∀ i ∈ inputs, ¬ i.IsNull) : c = .ok result
  null (h : ∃ i ∈ inputs, i.IsNull) : ∃ e, c = .error e

/-- Nothing is left to be opened. -/
theorem Opens.pure (result : ρ) : Opens memory [] result (.ok result) where
  whole _ := rfl
  null h := by simp at h

/-- The next buffer is opened before the others, and checked with them. -/
theorem Opens.read {result : ρ} {f : Buffer → Except SizeError ρ} {i : Span} (name : String)
    (hf : Opens memory inputs result (f (i.bytes memory))) :
    Opens memory (i :: inputs) result (i.read memory name >>= f) where
  whole h := by
    rw [Span.read_eq, if_neg (h i List.mem_cons_self)]
    exact hf.whole fun j hj => h j (List.mem_cons_of_mem _ hj)
  null h := by
    rw [Span.read_eq]
    by_cases hi : i.IsNull
    · rw [if_pos hi]
      exact ⟨_, rfl⟩
    · rw [if_neg hi]
      obtain ⟨j, hj, hnull⟩ := h
      rcases List.mem_cons.1 hj with rfl | hj
      · exact absurd hnull hi
      · exact hf.null ⟨j, hj, hnull⟩

/-- **Where the layers meet.**  All inputs are elements just when none is null and the arguments
made of their bytes have the right length. -/
theorem forall_isElement_iff {args : List Argument} (hfit : ∀ i ∈ inputs, i.Fits memory.length)
    (hargs : args.map Argument.buffer = inputs.map (Span.bytes memory)) :
    (∀ i ∈ inputs, i.IsElement) ↔ (∀ i ∈ inputs, ¬ i.IsNull) ∧ ∀ a ∈ args, a.Sized := by
  have hsized : (∀ a ∈ args, a.Sized) ↔ ∀ i ∈ inputs, (i.bytes memory).length = 32 := by
    have h : (∀ b ∈ args.map Argument.buffer, b.length = 32)
        ↔ ∀ b ∈ inputs.map (Span.bytes memory), b.length = 32 := by rw [hargs]
    rwa [List.forall_mem_map, List.forall_mem_map] at h
  rw [hsized, ← forall₂_and]
  exact forall₂_congr fun i hi => Span.isElement_iff (hfit i hi)

/-! ### Single calls -/

/-- A missing output or an input of another size is refused, and nothing is written. -/
theorem Writes.of_invalid {out : Option ℕ} {bridge : Run σ (Except Error (Bytes n))}
    (h : ¬ (out ≠ none ∧ ∀ i ∈ inputs, i.IsElement)) :
    Writes memory inputs out bridge ⟨-1, memory⟩ where
  done_iff := by simp [h]
  invalid_iff := by simp [h]
  failed_iff := by simp [h]
  written h0 := by simp at h0
  kept _ := rfl

/-- Otherwise the call does what the bridge answers: it writes the bytes, or nothing with the status
of a failed primitive. -/
theorem Writes.of_answer {place : ℕ} {bridge : Run σ (Except Error (Bytes n))}
    (hplace : place + n ≤ memory.length) (h : ∀ i ∈ inputs, i.IsElement)
    (hne : ∀ e, bridge.answer ≠ .error (.invalidInputSize e)) :
    Writes memory inputs (some place) bridge
      (store memory place (bridge.answer.map Bytes.toList)) := by
  rcases ha : bridge.answer with (e | _) | result
  · exact absurd ha (hne e)
  · refine ⟨?_, ?_, ?_, ?_, fun _ => rfl⟩
    · simp [store, Except.map, Error.status, Error.kind, ha]
    · simpa [store, Except.map, Error.status, Error.kind] using h
    · simpa [store, Except.map, Error.status, Error.kind, ha] using h
    · intro h0
      cases h0
  · have hover : Overwritten memory place result.toList (memory.splice place result.toList) :=
      Buffer.overwritten_splice (by rwa [result.length_toList])
    refine ⟨?_, ?_, ?_, ?_, ?_⟩
    · simpa [store, Except.map, statusOk, ha] using h
    · simpa [store, Except.map, statusOk] using h
    · simp [store, Except.map, statusOk, ha]
    · exact fun _ => ⟨place, result, rfl, ha, hover⟩
    · intro h0
      exact absurd rfl h0

/-- **Calls that write.**  Whatever is wrong with a pointer or a length is found before the bridge
makes a request. -/
theorem writes_writing {P : Primitives σ} {c : Checked (Program (Bytes n))}
    {args : List Argument} {op : Except SizeError (σ → Run σ (Except Error (Bytes n)))}
    {out : Option ℕ} (hfit : ∀ i ∈ inputs, i.Fits memory.length)
    (hout : ∀ place, out = some place → place + n ≤ memory.length)
    (hargs : args.map Argument.buffer = inputs.map (Span.bytes memory)) (hc : Screens args c)
    (hop : Opens memory inputs (Checked.run P c) op) (s : σ) :
    Writes memory inputs out (Checked.run P c s) (writing memory out op s).answer := by
  have hel := forall_isElement_iff hfit hargs
  cases out with
  | none => exact .of_invalid fun h => h.1 rfl
  | some place =>
    by_cases hnull : ∃ i ∈ inputs, i.IsNull
    -- a null pointer is found when the inputs are opened, before any length is looked at
    · obtain ⟨e, rfl⟩ := hop.null hnull
      obtain ⟨i, hi, hn⟩ := hnull
      exact .of_invalid fun h => (hel.1 h.2).1 i hi hn
    · push Not at hnull
      rw [hop.whole hnull]
      by_cases hsized : ∀ a ∈ args, a.Sized
      · exact .of_answer (hout place rfl) (hel.2 ⟨hnull, hsized⟩) (hc.answer_ne P s hsized)
      · push Not at hsized
        obtain ⟨a, ha⟩ := exists_firstBad_iff.2 hsized
        have hr : (writing memory (some place) (.ok (Checked.run P c)) s).answer
            = ⟨-1, memory⟩ := by
          simp only [writing, hc.run_eq P s ha]
          rfl
        rw [hr]
        obtain ⟨b, hb, hbad⟩ := hsized
        exact .of_invalid fun h => hbad ((hel.1 h.2).2 b hb)

/-- An input of another size counts as a signature that does not hold. -/
theorem Judges.of_invalid {bridge : Run σ Bool}
    (h : ¬ ((∀ i ∈ inputs, i.IsElement) ∧ bridge.answer = true)) :
    Judges memory inputs bridge ⟨0, memory⟩ where
  valid_iff := by simp [h]
  invalid_iff := by simp [h]
  kept := rfl

/-- Otherwise the call tells the verdict of the bridge. -/
theorem Judges.of_answer {bridge : Run σ Bool} (h : ∀ i ∈ inputs, i.IsElement) :
    Judges memory inputs bridge ⟨if bridge.answer then 1 else 0, memory⟩ where
  valid_iff := by
    rw [and_iff_right h]
    cases bridge.answer <;> simp
  invalid_iff := by
    rw [and_iff_right h]
    cases bridge.answer <;> simp
  kept := rfl

/-- The end of a verification, made with what comes of looking at its inputs. -/
def judging (memory : Buffer) (operation : Except SizeError (Run σ Bool)) (s : σ) : Run σ Outcome :=
  match operation with
  | .ok run => run.map fun valid => ⟨if valid then 1 else 0, memory⟩
  | .error _ => refuse memory 0 s

/-- **Calls that give a verdict.**  A null pointer and a wrong length read as any other refusal. -/
theorem judges_judging {P : Primitives σ} {c : Checked (Program Bool)} {args : List Argument}
    {s : σ} {op : Except SizeError (Run σ Bool)} (hfit : ∀ i ∈ inputs, i.Fits memory.length)
    (hargs : args.map Argument.buffer = inputs.map (Span.bytes memory)) (hc : Screens args c)
    (hop : Opens memory inputs (Checked.run P c s).settle op) :
    Judges memory inputs (Checked.run P c s).settle (judging memory op s).answer := by
  have hel := forall_isElement_iff hfit hargs
  by_cases hnull : ∃ i ∈ inputs, i.IsNull
  · obtain ⟨e, rfl⟩ := hop.null hnull
    obtain ⟨i, hi, hn⟩ := hnull
    exact .of_invalid fun hv => (hel.1 hv.1).1 i hi hn
  · push Not at hnull
    rw [hop.whole hnull]
    by_cases hsized : ∀ a ∈ args, a.Sized
    · exact .of_answer (hel.2 ⟨hnull, hsized⟩)
    · push Not at hsized
      obtain ⟨a, ha⟩ := exists_firstBad_iff.2 hsized
      have hr : (Checked.run P c s).settle.answer = false := by
        rw [hc.run_eq P s ha]
        rfl
      have ho : (judging memory (.ok (Checked.run P c s).settle) s).answer = ⟨0, memory⟩ := by
        simp [judging, hr]
      rw [ho]
      exact .of_invalid fun hv => by simp [hr] at hv

/-! ### The permutation -/

/-- A state takes 96 bytes. -/
theorem length_gridBytes_toGrid (state : Poseidon.WireState) :
    (gridBytes state.toGrid).length = 96 := by
  simp [gridBytes, Poseidon.WireState.toGrid, Poseidon.WireState.elements, U256.limbs,
    U256.limbBytes, U256.limbSize]

/-- The permutation of a grid fails or gives the grid of a state. -/
theorem hades_answer (P : Primitives σ) (grid : Grid) (s : σ) :
    (∃ e, (Bridge.hades P grid s).answer = .error e) ∨
      ∃ state : Poseidon.WireState, (Bridge.hades P grid s).answer = .ok state.toGrid := by
  rw [Bridge.hades, Procedure.hades]
  split
  · rename_i state _
    rw [Checked.run_map]
    rcases h : (Checked.run P (Procedure.hadesState state) s).answer with e | result
    · exact .inl ⟨e, by simp [Except.map, h]⟩
    · exact .inr ⟨result, by simp [Except.map, h]⟩
  · rename_i e _
    exact .inl ⟨.invalidInputSize e, rfl⟩

/-- What leaves the memory alone keeps within its output. -/
theorem StaysWithin.of_kept {out : Option ℕ} {k : ℕ} {outcome : Outcome}
    (h : outcome.memory = memory) : StaysWithin memory out k outcome where
  length := by rw [h]
  outside i _ := by rw [h]

/-- What overwrites the output alone keeps within it. -/
theorem StaysWithin.of_overwritten {place k : ℕ} {bytes : Buffer} {outcome : Outcome}
    (hlen : bytes.length = k) (h : Overwritten memory place bytes outcome.memory) :
    StaysWithin memory (some place) k outcome where
  length := h.length
  outside i hi := h.outside i (by rw [hlen]; exact hi place rfl)

/-- The permutation in memory keeps within its 96 bytes. -/
theorem staysWithin_hadesAt (P : Primitives σ) {start out : Option ℕ} {rows cols : ℕ}
    (hout : ∀ place, out = some place → place + 96 ≤ memory.length) (s : σ) :
    StaysWithin memory out 96 (hadesAt P memory start rows cols out s).answer := by
  unfold hadesAt
  by_cases hsize : rows * cols = 0 ∨ countBound ≤ rows * cols
  · rw [if_pos hsize]
    exact .of_kept rfl
  rw [if_neg hsize]
  rcases start with _ | start
  · exact .of_kept rfl
  rcases out with _ | place
  · exact .of_kept rfl
  rcases hades_answer P (pieces cols (limbsOfBytes
    ((memory.drop start).take (U256.limbSize * (rows * cols))))) s with ⟨e, h⟩ | ⟨state, h⟩
  · refine .of_kept ?_
    rw [Run.answer_map, h]
    rfl
  · have hlen := length_gridBytes_toGrid state
    refine .of_overwritten hlen ?_
    rw [Run.answer_map, h]
    exact Buffer.overwritten_splice (by rw [hlen]; exact hout place rfl)

/-! ### Lists of calls -/

/-- What one call leaves behind is what it has to. -/
theorem Call.contract_run (P : Primitives σ) {call : Call} (h : call.Fits memory.length) (s : σ) :
    Call.Contract P memory s call (call.run P memory s).answer := by
  cases call with
  | pedersen a b out =>
    refine writes_writing h.inputs h.output rfl (Procedure.screens_pedersen _ _) ?_ s
    exact .read _ (.read _ (.pure _))
  | sign d m k out =>
    refine writes_writing h.inputs h.output rfl (Procedure.screens_sign _ _ _) ?_ s
    exact .read _ (.read _ (.read _ (.pure _)))
  | verify q m r w =>
    refine judges_judging h.inputs rfl (Procedure.screens_verify _ _ _ _) ?_
    exact .read _ (.read _ (.read _ (.read _ (.pure _))))
  | publicKey d out =>
    refine writes_writing h.inputs h.output rfl (Procedure.screens_publicKey _) ?_ s
    exact .read _ (.pure _)
  | hades start rows cols out => exact staysWithin_hadesAt P h.output s

/-- A call leaves the memory as long as it was. -/
theorem Writes.length {out : Option ℕ} {bridge : Run σ (Except Error (Bytes n))}
    {outcome : Outcome} (h : Writes memory inputs out bridge outcome) :
    outcome.memory.length = memory.length := by
  by_cases h0 : outcome.status = 0
  · obtain ⟨place, result, -, -, hover⟩ := h.written h0
    exact hover.length
  · rw [h.kept h0]

/-- No call changes the length of the block. -/
theorem Call.Contract.length {P : Primitives σ} {s : σ} {call : Call} {outcome : Outcome}
    (h : call.Contract P memory s outcome) : outcome.memory.length = memory.length := by
  cases call with
  | pedersen | sign | publicKey => exact Writes.length h
  | verify => rw [Judges.kept h]
  | hades => exact StaysWithin.length h

/-- **Every call keeps its contract.** -/
theorem calls_keep_contract (P : Primitives σ) {calls : List Call}
    (h : ∀ call ∈ calls, call.Fits memory.length) (s : σ) :
    Call.Contracts P memory s calls (Call.runAll P memory calls s) := by
  induction calls generalizing memory s with
  | nil => exact .nil
  | cons call rest ih =>
    have hcall := call.contract_run P (h call List.mem_cons_self) s
    refine .cons hcall (ih (fun c hc => ?_) _)
    rw [hcall.length]
    exact h c (List.mem_cons_of_mem _ hc)

/-- A hash whose output covers parts of both its inputs, and then one with a null pointer. -/
theorem overlapping_calls_keep_contract :
    let P := Script.primitives ⟨fun _ => false, fun _ => false, ""⟩ Script.toyAnswer
    let calls : List Call :=
      [.pedersen ⟨some 0, 32⟩ ⟨some 32, 32⟩ (some 16), .pedersen ⟨some 0, 32⟩ ⟨none, 32⟩ (some 16)]
    let runs := Call.runAll P (List.replicate 64 1) calls 0
    runs.map (·.answer.status) = [0, -1] ∧
      Call.Contracts P (List.replicate 64 1) 0 calls runs := by
  refine ⟨by decide, calls_keep_contract _ ?_ 0⟩
  simp only [List.forall_mem_cons, List.not_mem_nil, false_imp_iff, implies_true, and_true]
  refine ⟨⟨?_, ?_⟩, ⟨?_, ?_⟩⟩ <;> simp [Call.inputs, Call.output, Span.Fits]

end Memory
end StarkWire
