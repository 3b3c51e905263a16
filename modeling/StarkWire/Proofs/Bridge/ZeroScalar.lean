/-
# Zero scalars

A scalar is zero if its value is a multiple of the order.  A zero private key has no public key and
a zero nonce makes no signature; both are refused.  But nothing refuses a zero private key in
signing: it answers wherever there is a signature under the key 0, that is, where `s k ≡ m` modulo
the order with everything in range (`zero_scalar_answers`).
-/

import StarkWire.Proofs.Bridge.Production

namespace StarkWire
namespace Bridge

/-- A multiple of the order is the scalar zero. -/
theorem scalar_val_eq_zero {b : Bytes 32} (h : Scalar.order ∣ b.value) : (scalar b).val = 0 := by
  rw [val_scalar, Nat.mod_eq_zero_of_dvd h]

/-- Signing fails just when there is no signature. -/
theorem outcome_sign_eq_error_iff {d m k : Fp} :
    outcome wirePair (Production.sign d m k) = .error .unknownPrimitiveFailure
      ↔ ¬ ∃ r s, Ecdsa.IsSignature d.val m.val k.val r s := by
  rw [outcome_eq_error_iff, ← Production.exists_sign_eq_value_iff, not_exists]

/-- A multiple of the order is no private key. -/
theorem publicKey_of_dvd {d : Bytes 32} (h : Scalar.order ∣ d.value) :
    (publicKey Production.primitives d.toList ()).answer = .error .unknownPrimitiveFailure := by
  rw [publicKey_answer, outcome_eq_error_iff]
  intro x hx
  rw [Production.publicKey_eq_value_iff, scalar_val_eq_zero h] at hx
  cases hx

/-- A multiple of the order is no nonce. -/
theorem sign_of_dvd_nonce {k : Bytes 32} (h : Scalar.order ∣ k.value) (d m : Bytes 32) :
    (sign Production.primitives d.toList m.toList k.toList ()).answer
      = .error .unknownPrimitiveFailure := by
  rw [sign_answer, outcome_sign_eq_error_iff]
  rintro ⟨r, s, hs⟩
  refine hs.not_order_dvd ?_
  rw [scalar_val_eq_zero h]
  exact dvd_zero _

/-- **What becomes of a zero scalar.**  As a private key in deriving the public key, and as a nonce
in signing, it is refused.  As a private key in signing it is refused just when there is no
signature under the key 0 with that nonce, given or derived. -/
theorem zero_scalar_answers (d m k : Bytes 32) (seed : Option (Bytes 32)) :
    (Scalar.order ∣ d.value →
      (publicKey Production.primitives d.toList ()).answer = .error .unknownPrimitiveFailure) ∧
    (Scalar.order ∣ k.value →
      (sign Production.primitives d.toList m.toList k.toList ()).answer
        = .error .unknownPrimitiveFailure) ∧
    (Scalar.order ∣ d.value →
      ((sign Production.primitives d.toList m.toList k.toList ()).answer
          = .error .unknownPrimitiveFailure
        ↔ ¬ ∃ r s, Ecdsa.IsSignature 0 (element m).val (scalar k).val r s)) ∧
    (Scalar.order ∣ d.value →
      ((signDeterministic Production.primitives d.toList m.toList (seed.map Bytes.toList)
          ()).answer = .error .unknownPrimitiveFailure
        ↔ ¬ ∃ r s, Ecdsa.IsSignature 0 (element m).val (derivedNonce d m seed).val r s)) := by
  refine ⟨publicKey_of_dvd, fun h => sign_of_dvd_nonce h d m, ?_, ?_⟩
  · intro h
    rw [sign_answer, outcome_sign_eq_error_iff, scalar_val_eq_zero h]
  · intro h
    rw [signDeterministic_answer, outcome_sign_eq_error_iff, scalar_val_eq_zero h]

/-- At the bytes of zero: no public key, and no signature of 1 under the key 1. -/
theorem zero_scalar_answers_zero :
    Scalar.order ∣ (Bytes.ofValue 32 0).value ∧
    (publicKey Production.primitives (Bytes.ofValue 32 0).toList ()).answer
      = .error .unknownPrimitiveFailure ∧
    (sign Production.primitives (Bytes.ofValue 32 1).toList (Bytes.ofValue 32 1).toList
      (Bytes.ofValue 32 0).toList ()).answer = .error .unknownPrimitiveFailure := by
  have h : Scalar.order ∣ (Bytes.ofValue 32 0).value := by decide +kernel
  have hd := (zero_scalar_answers (.ofValue 32 0) (.ofValue 32 1) (.ofValue 32 1) none).1 h
  have hk := (zero_scalar_answers (.ofValue 32 1) (.ofValue 32 1) (.ofValue 32 0) none).2.1 h
  exact ⟨h, hd, hk⟩

/-- Every form of the zero key signs: with nonce 1 the signature of 1 is the generator's abscissa
with 1. -/
theorem sign_one_of_dvd_key {d : Bytes 32} (h : Scalar.order ∣ d.value) :
    (sign Production.primitives d.toList (Bytes.ofValue 32 1).toList (Bytes.ofValue 32 1).toList
      ()).answer = .ok (wirePair (baseX, .ofNat 1)) := by
  refine sign_eq_ok_iff.2 ⟨_, _, sign_base (s := .ofNat 1) ?_ ?_ ?_ ?_, rfl⟩
  · decide +kernel
  · decide +kernel
  · rw [scalar_val_eq_zero h, Nat.mul_zero, Nat.zero_add]
    decide +kernel
  · decide +kernel

/-- **A zero key that signs**, as the least and as the greatest of the 32 multiples of the order
that fit in 32 bytes. -/
theorem zero_key_signs :
    (sign Production.primitives (Bytes.ofValue 32 0).toList (Bytes.ofValue 32 1).toList
      (Bytes.ofValue 32 1).toList ()).answer = .ok (wirePair (baseX, .ofNat 1)) ∧
    (sign Production.primitives (Bytes.ofValue 32 (31 * Scalar.order)).toList
      (Bytes.ofValue 32 1).toList (Bytes.ofValue 32 1).toList ()).answer
        = .ok (wirePair (baseX, .ofNat 1)) :=
  ⟨sign_one_of_dvd_key (by decide +kernel), sign_one_of_dvd_key (by decide +kernel)⟩

end Bridge
end StarkWire
