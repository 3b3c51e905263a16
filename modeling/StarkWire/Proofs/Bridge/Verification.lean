/-
# Verification says yes to a yes alone

A verification can go wrong in four ways: an argument has the wrong length, the primitive faults, it
panics, or it says no.  All of them read as no.  What is left is the one way to a yes, four
arguments of 32 bytes and a single call that brings `true` (`JudgedByReply`).

A signature in one buffer is taken apart into its halves, and these are read and written again on
the way to the same verification.  Nothing of this is noticed: a buffer of 64 bytes makes the same
run as its halves, the answer, the calls and the events included, and a buffer of another length is
refused before the other arguments are looked at.
-/

import StarkWire.Primitive.Scripted
import StarkWire.Proofs.Bridge.Exchange
import StarkWire.Proofs.Bridge.Sizes
import StarkWire.Proofs.Bridge.Traffic

namespace StarkWire
namespace Bridge

variable {σ : Type} {P : Primitives σ} {s : σ}

/-- The residue modulo the field prime of the number that a buffer denotes. -/
def residueOf (buffer : Buffer) : Fp := .ofNat (leValue buffer)

/-- The call that a verification of these buffers makes. -/
def verifyRequest (q h r w : Buffer) : Request :=
  .verify (residueOf q) (residueOf h) (residueOf r) (residueOf w)

/-- A no that was found without a call, in state `s`. -/
structure SilentNo (s : σ) (run : Run σ Bool) : Prop where
  answer : run.answer = false
  calls : run.calls = []
  state : run.state = s

/-- The verification of these buffers, begun in state `s`, is decided by the reply to its one call,
if it gets that far. -/
structure JudgedByReply (P : Primitives σ) (s : σ) (q h r w : Buffer) (run : Run σ Bool) :
    Prop where
  true_iff : run.answer = true ↔ (∀ b ∈ [q, h, r, w], b.length = 32) ∧
    P.exchanges run.calls s = [⟨verifyRequest q h r w, .value true⟩]
  asked (length : ∀ b ∈ [q, h, r, w], b.length = 32) : run.calls = [verifyRequest q h r w] ∧
    run.state = (P.reply (verifyRequest q h r w) s).2
  silent (length : ∃ b ∈ [q, h, r, w], b.length ≠ 32) : SilentNo s run

/-- How verifications begun in state `s` are decided, in either form of the signature. -/
structure VerifiesByReply (P : Primitives σ) (s : σ) : Prop where
  halves (q h r w : Buffer) : JudgedByReply P s q h r w (verify P q h r w s)
  whole (q h signature : Buffer) (length : signature.length = 64) :
    verifySignature P q h signature s = verify P q h (signature.take 32) (signature.drop 32) s
  silent (q h signature : Buffer) (length : signature.length ≠ 64) :
    SilentNo s (verifySignature P q h signature s)

/-! ### Four arguments -/

/-- A yes is the reply `true`; a fault and a panic are no more of a yes than `false`. -/
theorem AsksVerdict.true_iff {q h r w : Fp} {run : Run σ Bool}
    (hrun : AsksVerdict P s (.verify q h r w) id run) :
    run.answer = true ↔ P.exchanges run.calls s = [⟨.verify q h r w, .value true⟩] := by
  rw [hrun.calls, hrun.answer]
  simp only [Primitives.exchanges]
  rcases (P.reply (.verify q h r w) s).1 with valid | f | _ <;> simp [outcome, Except.toOption]

/-- On arguments of the right sizes the reply is the verdict. -/
theorem judgedByReply_of_length (q h r w : Bytes 32) :
    JudgedByReply P s q.toList h.toList r.toList w.toList
      (verify P q.toList h.toList r.toList w.toList s) := by
  have hasks := (exactTraffic P s).verify q h r w
  have hlen : ∀ b ∈ [q.toList, h.toList, r.toList, w.toList], b.length = 32 := by
    simp [Bytes.length_toList]
  refine ⟨?_, fun _ => ⟨hasks.calls, hasks.state⟩, ?_⟩
  · rw [and_iff_right hlen]
    exact hasks.true_iff
  · rintro ⟨b, hb, hbad⟩
    exact absurd (hlen b hb) hbad

/-- An argument of the wrong length ends a verification before it makes a call. -/
theorem Screens.settle_of_bad {args : List Argument} {c : Checked (Program Bool)}
    (hc : Screens args c) (hbad : ∃ a ∈ args, ¬ a.Sized) :
    SilentNo s (Checked.run P c s).settle := by
  obtain ⟨a, ha⟩ := exists_firstBad_iff.2 hbad
  rw [hc.run_eq P s ha]
  exact ⟨rfl, rfl, rfl⟩

/-- **The verdict is that of the reply,** or false if an argument has another size. -/
theorem judgedByReply_verify (P : Primitives σ) (q h r w : Buffer) (s : σ) :
    JudgedByReply P s q h r w (verify P q h r w s) := by
  by_cases hlen : ∀ b ∈ [q, h, r, w], b.length = 32
  · simp only [List.forall_mem_cons] at hlen
    obtain ⟨hq, hh, hr, hw, -⟩ := hlen
    exact judgedByReply_of_length ⟨q, hq⟩ ⟨h, hh⟩ ⟨r, hr⟩ ⟨w, hw⟩
  · have hbad : ∃ b ∈ [q, h, r, w], b.length ≠ 32 := by
      push Not at hlen
      exact hlen
    have hsilent : SilentNo s (verify P q h r w s) :=
      (Procedure.screens_verify q h r w).settle_of_bad (by simpa [Argument.Sized] using hbad)
    refine ⟨iff_of_false ?_ fun hv => hlen hv.1, fun hall => absurd hall hlen, fun _ => hsilent⟩
    rw [hsilent.answer]
    decide

/-! ### A signature in one buffer -/

/-- A signature of another length is refused without a request, and logged as such alone. -/
theorem verifySignature_of_length_ne (P : Primitives σ) (q h : Buffer) {signature : Buffer}
    (hlen : signature.length ≠ 64) (s : σ) :
    verifySignature P q h signature s
      = ⟨false, s, [], [.rejected ⟨.signature, .length "signature" 64 signature.length⟩]⟩ := by
  have hread : Signature.read signature = .error (.length "signature" 64 signature.length) := by
    simp [Signature.read, checkLength, Bytes.ofBuffer?, Signature.size, hlen, Except.map]
  rw [verifySignature, hread]

/-- **A verification says yes just when the primitive does.** -/
theorem verifies_by_reply (P : Primitives σ) (s : σ) : VerifiesByReply P s where
  halves q h r w := judgedByReply_verify P q h r w s
  whole q h signature length := verifySignature_toList P q h ⟨signature, length⟩ s
  silent q h _ length := by
    rw [verifySignature_of_length_ne P q h length s]
    exact ⟨rfl, rfl, rfl⟩

/-- As `1 + 4 = 2 + 3`, the toy verification says yes; where it panics instead, or where a byte of the
signature is missing, the answer is no. -/
theorem verifies_by_reply_toy :
    let P := Script.primitives ⟨(· == 1), fun _ => false, ""⟩ Script.toyAnswer
    let q := (wire 1).toList
    let h := (wire 4).toList
    let signature := (wirePair (2, 3)).toList
    signature.length = 64 ∧ (signature.drop 1).length ≠ 64 ∧
    verifySignature P q h signature 0
      = verify P q h (signature.take 32) (signature.drop 32) 0 ∧
    (verifySignature P q h signature 0).answer = true ∧
    (verifySignature P q h signature 1).answer = false ∧
    (verifySignature P q h (signature.drop 1) 0).calls = [] := by
  intro P q h signature
  have hlen : signature.length = 64 := (wirePair (2, 3)).length_toList
  have hdrop : (signature.drop 1).length ≠ 64 := by
    rw [List.length_drop, hlen]
    decide
  exact ⟨hlen, hdrop, (verifies_by_reply P 0).whole q h signature hlen, by decide +kernel,
    by decide +kernel, ((verifies_by_reply P 0).silent q h _ hdrop).calls⟩

end Bridge
end StarkWire
