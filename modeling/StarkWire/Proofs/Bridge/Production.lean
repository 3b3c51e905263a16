/-
# The bridge over the production primitives

On the production primitives an operation on arguments of the right length answers with what the
primitive computes from their residues, as wire bytes; a fault and a panic are the same error.  A
key is answered just when the multiple of the generator has an abscissa (`publicKey_eq_ok_iff`), a
signature just when there is one (`sign_eq_ok_iff`, `signDeterministic_eq_ok_iff`).
-/

import StarkWire.Proofs.Bridge.Deterministic
import StarkWire.Proofs.Primitive.Production

namespace StarkWire
namespace Bridge

/-! ### Keys and signatures -/

/-- The production primitives keep no state, so they reply by a function. -/
theorem repliesWith_reply : RepliesWith Production.primitives Production.reply := fun _ _ => rfl

/-- The public key that is derived. -/
theorem publicKey_answer (d : Bytes 32) :
    (publicKey Production.primitives d.toList ()).answer
      = outcome wire (Production.publicKey (scalar d)) :=
  repliesWith_reply.publicKey_answer d ()

/-- The signature that is made with a nonce. -/
theorem sign_answer (d m k : Bytes 32) :
    (sign Production.primitives d.toList m.toList k.toList ()).answer
      = outcome wirePair (Production.sign (scalar d) (element m) (scalar k)) :=
  repliesWith_reply.sign_answer d m k ()

/-- The nonce that the primitives derive. -/
def derivedNonce (d m : Bytes 32) (seed : Option (Bytes 32)) : Fp :=
  Nonce.generate (element m) (scalar d) (seed.map element)

/-- The signature that is made with a derived nonce. -/
theorem signDeterministic_answer (d m : Bytes 32) (seed : Option (Bytes 32)) :
    (signDeterministic Production.primitives d.toList m.toList (seed.map Bytes.toList) ()).answer
      = outcome wirePair (Production.sign (scalar d) (element m) (derivedNonce d m seed)) :=
  (((exactTraffic Production.primitives ()).signDeterministic d m seed).answered _ rfl).2.2

/-- A public key is derived just when the primitives give its abscissa. -/
theorem publicKey_eq_ok_iff {d pub : Bytes 32} :
    (publicKey Production.primitives d.toList ()).answer = .ok pub
      ↔ ∃ x, Production.publicKey (scalar d) = .value x ∧ wire x = pub := by
  rw [publicKey_answer, outcome_eq_ok_iff]

/-- A signature is made just when the primitives give its `r` and `w`. -/
theorem sign_eq_ok_iff {d m k : Bytes 32} {sig : Bytes 64} :
    (sign Production.primitives d.toList m.toList k.toList ()).answer = .ok sig
      ↔ ∃ r w, Production.sign (scalar d) (element m) (scalar k) = .value (r, w) ∧
          wirePair (r, w) = sig := by
  rw [sign_answer, outcome_eq_ok_iff, Prod.exists]

/-- So is a deterministic one, with the derived nonce. -/
theorem signDeterministic_eq_ok_iff {d m : Bytes 32} {seed : Option (Bytes 32)}
    {sig : Bytes 64} :
    (signDeterministic Production.primitives d.toList m.toList (seed.map Bytes.toList) ()).answer
        = .ok sig
      ↔ ∃ r w, Production.sign (scalar d) (element m) (derivedNonce d m seed) = .value (r, w) ∧
          wirePair (r, w) = sig := by
  rw [signDeterministic_answer, outcome_eq_ok_iff, Prod.exists]

/-- The abscissa of the generator. -/
def baseX : Fp := .ofNat 0x1ef15c18599971b7beced415a40f0c7deacfd9b0d1819e03d723d8bc943cfca

/-- A signature with the nonce 1, from its conventional component. -/
theorem sign_base {d m : Bytes 32} {s w : Fp} (hm : (element m).val < Ecdsa.bound)
    (hs : 0 < s.val ∧ s.val < Ecdsa.bound)
    (he : s.val ≡ baseX.val * (scalar d).val + (element m).val [MOD Scalar.order])
    (hw : w.val < Scalar.order ∧ w.val * s.val ≡ 1 [MOD Scalar.order]) :
    Production.sign (scalar d) (element m) (scalar (.ofValue 32 1)) = .value (baseX, w) := by
  refine Production.sign_eq_value_iff.2 ⟨s, ?_, Scalar.inverse?_eq_some_iff.2 hw⟩
  have hk : (scalar (.ofValue 32 1)).val = 1 := by decide +kernel
  rw [hk]
  exact ⟨hm, by decide +kernel, by decide +kernel, hs, by rwa [Nat.mul_one]⟩

/-! ### Verdicts -/

/-- The run of a verification whose primitive replies in a given way. -/
def verdict (q h r w : Fp) : Reply Bool → Run Unit Bool
  | .value valid => ⟨valid, (), [.verify q h r w], [.completed "verify"]⟩
  | .fault f => ⟨false, (), [.verify q h r w],
      [.faulted "verify" f.message, .unverified .unknownPrimitiveFailure]⟩
  | .panic => ⟨false, (), [.verify q h r w],
      [.panicked "verify", .unverified .unknownPrimitiveFailure]⟩

/-- A verification over the production primitives, with its answer and its log. -/
theorem verify_eq_verdict (q h r w : Bytes 32) :
    verify Production.primitives q.toList h.toList r.toList w.toList ()
      = verdict (element q) (element h) (element r) (element w)
          (Production.verify (element q) (element h) (element r) (element w)) := by
  rw [verify, Procedure.verify_toList]
  simp only [Checked.run, Program.request, Program.run, Production.primitives, Production.reply]
  cases Production.verify (element q) (element h) (element r) (element w) <;> rfl

/-- The verdict is yes just when the primitive says yes. -/
theorem verify_answer_eq_true_iff {q h r w : Bytes 32} :
    (verify Production.primitives q.toList h.toList r.toList w.toList ()).answer = true
      ↔ Production.verify (element q) (element h) (element r) (element w) = .value true := by
  rw [verify_eq_verdict]
  cases Production.verify (element q) (element h) (element r) (element w) <;> simp [verdict]

/-- The bytes of a value are read as the value modulo the prime. -/
theorem element_encode (a : U256) : element a.encode = .ofU256 a :=
  congrArg Fp.ofNat (U256.value_encode a)

/-- On the wire bytes of four values the verdict is that on their residues. -/
theorem verify_encode_eq_true_iff {q h r w : U256} :
    (verify Production.primitives q.encode.toList h.encode.toList r.encode.toList
        w.encode.toList ()).answer = true
      ↔ Production.verify (.ofU256 q) (.ofU256 h) (.ofU256 r) (.ofU256 w) = .value true := by
  rw [verify_answer_eq_true_iff, element_encode, element_encode, element_encode, element_encode]

end Bridge
end StarkWire
