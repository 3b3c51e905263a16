/-
# The log tells the run

An operation takes one of three courses (`Course`), and each leaves its own log.

| course | log |
| --- | --- |
| an argument is rejected | the rejection of the first such argument |
| all calls bring values | the completion of each call |
| a call fails | the completion of each call before it, then the fault or the panic |

Only a verification has something to add: it has turned an error into a refusal, and says so last,
unless what was rejected was a signature in one buffer.  The words of the log are those of the first
input of another size, or of the calls and their replies (`Operation.records`).  From the log alone
one can therefore read whether the operation answered and how many of its calls brought values
(`log_tells_run`).
-/

import StarkWire.Primitive.Scripted
import StarkWire.Proofs.Bridge.LogText

namespace StarkWire
namespace Bridge
namespace Operation

variable {σ : Type} {P : Primitives σ} {op : Operation} {s : σ}

/-- What an operation does, begun in state `s`: the run `r` answers, calls and logs as one of the
three courses says. -/
inductive Course (P : Primitives σ) (op : Operation) (s : σ) (r : Run σ (Except Error Answer)) :
    Prop
  /-- The first argument to be rejected ends the operation, before any call. -/
  | rejected (e : Rejection) (first : op.rejection? = some e)
      (answer : r.answer = op.refusal (.invalidInputSize e.error)) (calls : r.calls = [])
      (log : r.log = .rejected e :: op.epilogue (.invalidInputSize e.error))
  /-- No argument is rejected, and all calls bring values. -/
  | answered (accepted : op.rejection? = none) (a : Answer) (answer : r.answer = .ok a)
      (succeeded : ∀ x ∈ P.exchanges r.calls s, x.succeeded = true)
      (log : r.log = (P.exchanges r.calls s).map Exchange.completion)
  /-- No argument is rejected, and the last call, it alone, brings no value. -/
  | failed (accepted : op.rejection? = none) (before : List Exchange) (last : Exchange)
      (answer : r.answer = op.refusal .unknownPrimitiveFailure)
      (exchanges : P.exchanges r.calls s = before ++ [last])
      (succeeded : ∀ x ∈ before, x.succeeded = true) (failed : last.succeeded = false)
      (log : r.log = before.map Exchange.completion
        ++ last.event :: op.epilogue .unknownPrimitiveFailure)

/-- The run takes its course, and the log shows which. -/
structure LogTells (P : Primitives σ) (op : Operation) (s : σ) (r : Run σ (Except Error Answer)) :
    Prop where
  course : Course P op s r
  records : r.log.map Event.record = op.records (P.exchanges r.calls s)
  ok_iff (h : op.isVerification = false) :
    (∃ a, r.answer = .ok a) ↔ ∀ e ∈ r.log, e.level ≠ .debug ∧ e.level ≠ .warn
  traces : r.log.countP (fun e => e.level = .trace)
    = (P.exchanges r.calls s).countP Exchange.succeeded

/-! ### The courses -/

/-- An answer is left as it is. -/
theorem finish_of_ok {r : Run σ (Except Error Answer)} {a : Answer} (h : r.answer = .ok a) :
    op.finish r = r := by
  rw [finish, h]

/-- An error becomes the refusal of the operation, and is logged if that hides it. -/
theorem finish_of_error {r : Run σ (Except Error Answer)} {e : Error} (h : r.answer = .error e) :
    op.finish r = ⟨op.refusal e, r.state, r.calls, r.log ++ op.epilogue e⟩ := by
  rw [finish, h]

/-- A program finished by the operation answers or fails as it does by itself. -/
theorem course_of_ending {r : Run σ (Except Error Answer)} (accepted : op.rejection? = none)
    (hr : Ending P s r) : Course P op s (op.finish r) := by
  cases hr with
  | answered a answer succeeded log =>
    rw [finish_of_ok answer]
    exact .answered accepted a answer succeeded log
  | failed before last answer exchanges succeeded failed log =>
    rw [finish_of_error answer]
    refine .failed accepted before last rfl exchanges succeeded failed ?_
    simp only [log, List.append_assoc, List.singleton_append]

/-- **Every operation takes one of the courses.** -/
theorem course_run (P : Primitives σ) (op : Operation) (s : σ) : Course P op s (op.run P s) := by
  have hfail := op.failureOf_procedure
  rw [run_eq_finish]
  rcases hc : op.procedure with e | p <;> rw [hc] at hfail
  · exact .rejected e hfail.symm rfl rfl rfl
  · exact course_of_ending hfail.symm (p.ending s)

/-! ### The words -/

/-- A call that brings a value is written as what there is to say of it. -/
theorem map_record_completions {xs : List Exchange} (h : ∀ x ∈ xs, x.succeeded = true) :
    (xs.map Exchange.completion).map Event.record = xs.map callRecord := by
  rw [List.map_map]
  refine List.map_congr_left fun x hx => ?_
  rw [Function.comp_apply, ← Exchange.record_event]
  rcases x with ⟨q, a | f | _⟩
  · rfl
  · cases h _ hx
  · cases h _ hx

/-- A failed call is all that a verification says of a failure of the primitives. -/
theorem records_epilogue_failed (op : Operation) (h : op.rejection? = none) :
    (op.epilogue .unknownPrimitiveFailure).map Event.record
      = if op.isVerification then [refusalRecord "UnknownPrimitiveFailure"] else [] := by
  cases op with
  | verifySignature q hash signature =>
    have hmem : Input.signature signature ∈ (verifySignature q hash signature).inputs :=
      List.mem_cons_self
    have hsized : signature.length = 64 :=
      Input.rejection?_eq_none_iff.1 (List.findSome?_eq_none_iff.1 h _ hmem)
    have hepilogue : epilogue (.verifySignature q hash signature) .unknownPrimitiveFailure
        = [.unverified .unknownPrimitiveFailure] := if_pos hsized
    rw [hepilogue]
    rfl
  | _ => rfl

/-- **Whatever course a run takes, its log is in these words.** -/
theorem Course.records {r : Run σ (Except Error Answer)} (hr : Course P op s r) :
    r.log.map Event.record = op.records (P.exchanges r.calls s) := by
  cases hr with
  | rejected e first answer calls log =>
    -- the rejection is that of the first input of another size, and the words are about this input
    obtain ⟨i, hfirst, hi⟩ := exists_find?_of_rejection? first
    have hlabel := op.labelled_of_mem_inputs i (List.mem_of_find?_eq_some hfirst)
    rw [log, List.map_cons, Input.record_of_rejection? hlabel hi,
      records_epilogue_rejected hfirst hi, Operation.records, hfirst]
  | answered accepted a answer succeeded log =>
    have hnone : ¬ (op.isVerification ∧ ∃ x ∈ P.exchanges r.calls s, x.succeeded = false) := by
      rintro ⟨-, x, hx, hfailed⟩
      cases (succeeded x hx).symm.trans hfailed
    rw [log, map_record_completions succeeded, Operation.records,
      find?_of_rejection?_eq_none accepted]
    dsimp only
    rw [if_neg hnone, List.append_nil]
  | failed accepted before last answer exchanges succeeded failed log =>
    have hlast : ∃ x ∈ before ++ [last], x.succeeded = false := ⟨last, by simp, failed⟩
    rw [log, List.map_append, map_record_completions succeeded, List.map_cons,
      Exchange.record_event, records_epilogue_failed op accepted, Operation.records,
      find?_of_rejection?_eq_none accepted, exchanges, List.map_append, List.map_singleton,
      List.append_assoc, List.singleton_append]
    simp only [hlast, and_true]

/-! ### Reading the log -/

/-- Without a verdict to give, an operation answers with its error. -/
theorem refusal_of_not_verification (h : op.isVerification = false) (e : Error) :
    op.refusal e = .error e := by
  cases op <;> first | rfl | cases h

/-- What a verification adds is for debugging. -/
theorem level_of_mem_epilogue {e : Error} {event : Event} (h : event ∈ op.epilogue e) :
    event.level = .debug := by
  have hmem : op.epilogue e = [.unverified e] ∨ op.epilogue e = [] := by
    cases op with
    | verify q h r w => exact .inl rfl
    | verifySignature q h signature => exact ite_eq_or_eq _ _ _
    | _ => exact .inr rfl
  rcases hmem with hmem | hmem
  · rw [hmem, List.mem_singleton] at h
    rw [h]
    rfl
  · rw [hmem] at h
    cases h

/-- Completed calls are traced. -/
theorem level_of_mem_completions {xs : List Exchange} {event : Event}
    (h : event ∈ xs.map Exchange.completion) : event.level = .trace := by
  obtain ⟨x, -, rfl⟩ := List.mem_map.1 h
  rfl

/-- There is a trace for each completed call. -/
theorem countP_trace_completions (xs : List Exchange) :
    (xs.map Exchange.completion).countP (fun e => e.level = .trace) = xs.length := by
  rw [List.countP_eq_length.2 fun e h => decide_eq_true (level_of_mem_completions h),
    List.length_map]

/-- What a verification adds is no trace. -/
theorem countP_trace_epilogue (op : Operation) (e : Error) :
    (op.epilogue e).countP (fun e => e.level = .trace) = 0 :=
  List.countP_eq_zero.2 fun event h => by simp [level_of_mem_epilogue h]

/-- An answer leaves completions alone, and an error is logged at a higher level. -/
theorem Course.ok_iff {r : Run σ (Except Error Answer)} (hr : Course P op s r)
    (h : op.isVerification = false) :
    (∃ a, r.answer = .ok a) ↔ ∀ e ∈ r.log, e.level ≠ .debug ∧ e.level ≠ .warn := by
  cases hr with
  | rejected e first answer calls log =>
    rw [answer, refusal_of_not_verification h, log]
    refine iff_of_false (by simp) fun hall => ?_
    exact (hall _ List.mem_cons_self).1 rfl
  | answered accepted a answer succeeded log =>
    rw [answer, log]
    refine iff_of_true ⟨a, rfl⟩ fun e he => ?_
    rw [level_of_mem_completions he]
    decide
  | failed accepted before last answer exchanges succeeded failed log =>
    rw [answer, refusal_of_not_verification h, log]
    refine iff_of_false (by simp) fun hall => ?_
    exact (hall last.event (by simp)).2 (Exchange.level_event_of_failed failed)

/-- **There are as many traces as calls that brought values.** -/
theorem Course.traces {r : Run σ (Except Error Answer)} (hr : Course P op s r) :
    r.log.countP (fun e => e.level = .trace)
      = (P.exchanges r.calls s).countP Exchange.succeeded := by
  cases hr with
  | rejected e first answer calls log =>
    rw [log, calls, List.countP_cons_of_neg (by simp [Event.level]), countP_trace_epilogue]
    rfl
  | answered accepted a answer succeeded log =>
    rw [log, countP_trace_completions, List.countP_eq_length.2 succeeded]
  | failed accepted before last answer exchanges succeeded failed log =>
    have hlast := Exchange.level_event_of_failed failed
    rw [log, exchanges, List.countP_append, List.countP_append, countP_trace_completions,
      List.countP_cons_of_neg (by simp [hlast]), countP_trace_epilogue,
      List.countP_eq_length.2 succeeded, List.countP_singleton]
    simp [failed]

/-- **The log tells the run,** of every operation, on any primitives and any arguments. -/
theorem log_tells_run (P : Primitives σ) (op : Operation) (s : σ) :
    LogTells P op s (op.run P s) where
  course := course_run P op s
  records := (course_run P op s).records
  ok_iff := (course_run P op s).ok_iff
  traces := (course_run P op s).traces

/-- Toy primitives whose second call panics. -/
def secondPanics : Primitives ℕ :=
  Script.primitives ⟨(· == 1), fun _ => false, ""⟩ Script.toyAnswer

/-- The second of the three calls of a chain panics: its log shows one completion and a panic, so
there is no answer, and one call brought a value.  A key of 31 bytes is a rejected scalar; a short
hash is a rejected element and refuses the verification; a short signature and a grid of two rows are
rejected as what they are. -/
theorem log_tells_failed_chain :
    (run secondPanics (.pedersenOnElements [List.replicate 32 1, List.replicate 32 2])
        0).log.map Event.record
      = [⟨"TRACE", "primitive call completed", [("operation", "pedersen")]⟩,
        ⟨"WARN", "primitive panicked", [("operation", "pedersen")]⟩] ∧
    (¬ ∃ a, (run secondPanics (.pedersenOnElements [List.replicate 32 1, List.replicate 32 2])
        0).answer = .ok a) ∧
    (run secondPanics (.publicKey (List.replicate 31 1)) 0).log.map Event.record
      = [⟨"DEBUG", "rejected scalar",
        [("err", "argument `private_key` must be 32 bytes, got 31")]⟩] ∧
    (run secondPanics (.verify (List.replicate 32 1) [] [] []) 0).log.map Event.record
      = [⟨"DEBUG", "rejected field element",
          [("err", "argument `hash` must be 32 bytes, got 0")]⟩,
        ⟨"DEBUG", "verification did not succeed",
          [("error",
            "InvalidInputSize(Length \x7b argument: \"hash\", expected: 32, actual: 0 \x7d)")]⟩] ∧
    (run secondPanics (.verifySignature [] [] [1]) 0).log.map Event.record
      = [⟨"DEBUG", "rejected signature buffer",
        [("err", "argument `signature` must be 64 bytes, got 1")]⟩] ∧
    (run secondPanics (.hades [[], []]) 0).log.map Event.record
      = [⟨"DEBUG", "rejected poseidon grid",
        [("err", "state grid must have 3 rows, got 2")]⟩] := by
  have htells := fun op => log_tells_run secondPanics op 0
  refine ⟨(htells _).records.trans ?_, fun h => ?_, (htells _).records.trans ?_,
    (htells _).records.trans ?_, (htells _).records.trans ?_, (htells _).records.trans ?_⟩
  · decide +kernel
  · have hall := ((htells (.pedersenOnElements [List.replicate 32 1, List.replicate 32 2])).ok_iff
      rfl).1 h
    exact (hall (.panicked "pedersen") (.tail _ (.head _))).2 rfl
  · decide +kernel
  · decide +kernel
  · decide +kernel
  · decide +kernel

end Operation
end Bridge
end StarkWire
