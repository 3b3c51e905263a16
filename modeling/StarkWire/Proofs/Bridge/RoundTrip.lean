/-
# Verifying what one has signed

A signature that `sign` or `signDeterministic` gives out on the production primitives is put to
`verify` and `verifySignature`, with the public key of the same private key.  Both put the same
request, and the verdict is exactly this (`verdict_on_own_signature`): yes, unless `w` is not below
`2 ^ 251`, or the public key is lifted to `-(d G)` and `m ≡ r d` modulo the order.  In the first
case the verifier says no by itself; in the second it panics, and that is settled as a no.

Both cases occur (`own_signature_unconfirmed`).
-/

import StarkWire.Proofs.Bridge.Production

namespace StarkWire
namespace Bridge

/-- Some nonce or some seed makes this the signature of the message under the private key. -/
def Signed (d m : Bytes 32) (sig : Bytes 64) : Prop :=
  (∃ k : Bytes 32, (sign Production.primitives d.toList m.toList k.toList ()).answer = .ok sig) ∨
  ∃ seed : Option (Bytes 32), (signDeterministic Production.primitives d.toList m.toList
    (seed.map Bytes.toList) ()).answer = .ok sig

/-- The verifier takes the public key for that of `-d`, and is to add `m w G` to the negative of
the same point. -/
def Degenerate (d m pub : Bytes 32) (sig : Bytes 64) : Prop :=
  Point.lift? (element pub) = some (-Point.generator.mul (scalar d).val) ∧
    (element m).val ≡ (rBytes sig).value * (scalar d).val [MOD Scalar.order]

/-- However it was made, a signature is one that the signing primitive answered with. -/
theorem Signed.exists_sign {d m : Bytes 32} {sig : Bytes 64} (h : Signed d m sig) :
    ∃ k r w, Production.sign (scalar d) (element m) k = .value (r, w) ∧
      wirePair (r, w) = sig := by
  rcases h with ⟨k, hk⟩ | ⟨seed, hseed⟩
  · exact ⟨_, sign_eq_ok_iff.1 hk⟩
  · exact ⟨_, signDeterministic_eq_ok_iff.1 hseed⟩

/-- The run of a verification of one's own signature. -/
theorem verify_own {d m : Bytes 32} {k r w x : Fp}
    (hs : Production.sign (scalar d) (element m) k = .value (r, w))
    (hx : Production.publicKey (scalar d) = .value x) :
    verify Production.primitives (wire x).toList m.toList (wire r).toList (wire w).toList ()
      = verdict x (element m) r w
          (if w.val < Ecdsa.bound then
            if Point.lift? x = some (-Point.generator.mul (scalar d).val) ∧
                (element m).val ≡ r.val * (scalar d).val [MOD Scalar.order] then .panic
            else .value true
          else .value false) := by
  rw [verify_eq_verdict, element_wire, element_wire, element_wire,
    Production.verify_of_sign hs hx]

/-- **The verdict on one's own signature.**  Its `w` is below the order; both forms of
verification run alike; they say yes just when `w` is below the bound too and the case is not
degenerate; and a panic stands behind a no just in the degenerate case. -/
theorem verdict_on_own_signature {d m pub : Bytes 32} {sig : Bytes 64}
    (hpub : (publicKey Production.primitives d.toList ()).answer = .ok pub)
    (hsig : Signed d m sig) :
    (0 < (wBytes sig).value ∧ (wBytes sig).value < Scalar.order) ∧
    verifySignature Production.primitives pub.toList m.toList sig.toList ()
      = verify Production.primitives pub.toList m.toList (rBytes sig).toList (wBytes sig).toList
          () ∧
    ((verify Production.primitives pub.toList m.toList (rBytes sig).toList (wBytes sig).toList
        ()).answer = true
      ↔ (wBytes sig).value < Ecdsa.bound ∧ ¬ Degenerate d m pub sig) ∧
    (.panicked "verify" ∈ (verify Production.primitives pub.toList m.toList (rBytes sig).toList
        (wBytes sig).toList ()).log
      ↔ (wBytes sig).value < Ecdsa.bound ∧ Degenerate d m pub sig) := by
  obtain ⟨k, r, w, hs, rfl⟩ := hsig.exists_sign
  obtain ⟨x, hx, rfl⟩ := publicKey_eq_ok_iff.1 hpub
  refine ⟨?_, verifySignature_toList _ _ _ _ _, ?_⟩
  · rw [wBytes_wirePair, value_wire]
    exact Production.w_range hs
  simp only [Degenerate, rBytes_wirePair, wBytes_wirePair, value_wire, element_wire]
  rw [verify_own hs hx]
  by_cases hb : w.val < Ecdsa.bound
  · by_cases hd : Point.lift? x = some (-Point.generator.mul (scalar d).val) ∧
        (element m).val ≡ r.val * (scalar d).val [MOD Scalar.order]
    · rw [if_pos hb, if_pos hd]
      simp [verdict, hb, hd]
    · rw [if_pos hb, if_neg hd]
      simp [verdict, hb, hd]
  · rw [if_neg hb]
    simp [verdict, hb]

/-- The abscissa of twice the generator, which is lifted to minus twice the generator. -/
def doubleX : Fp := .ofNat 0x759ca09377679ecd535a81e83039658bf40959283187c654c5416f439403cf5

/-- The public key of 2 is the abscissa of the generator twice. -/
theorem publicKey_double : Production.publicKey (scalar (.ofValue 32 2)) = .value doubleX :=
  Production.publicKey_eq_value_iff.2 (by decide +kernel)

/-- The message 1 signed under the key 2 with the nonce 1 is confirmed. -/
theorem verdict_on_double_one :
    (publicKey Production.primitives (Bytes.ofValue 32 2).toList ()).answer
      = .ok (wire doubleX) ∧
    Signed (.ofValue 32 2) (.ofValue 32 1) (wirePair (baseX,
      .ofNat 0x55f914b8beb1d9273b1042891fb5348d5be79226dcd85177fa5cfe95f7346f)) ∧
    (verify Production.primitives (wire doubleX).toList (Bytes.ofValue 32 1).toList
      (rBytes (wirePair (baseX,
        .ofNat 0x55f914b8beb1d9273b1042891fb5348d5be79226dcd85177fa5cfe95f7346f))).toList
      (wBytes (wirePair (baseX,
        .ofNat 0x55f914b8beb1d9273b1042891fb5348d5be79226dcd85177fa5cfe95f7346f))).toList
      ()).answer = true := by
  have hpub := publicKey_eq_ok_iff.2 ⟨_, publicKey_double, rfl⟩
  have hs := sign_base (d := .ofValue 32 2) (m := .ofValue 32 1)
    (s := .ofNat 0x3de2b830b332e36f7d9da82b481e18fbd59fb361a3033c07ae47b1792879f95)
    (w := .ofNat 0x55f914b8beb1d9273b1042891fb5348d5be79226dcd85177fa5cfe95f7346f)
    (by decide +kernel) (by decide +kernel) (by decide +kernel) (by decide +kernel)
  have hsig : Signed _ _ _ := .inl ⟨_, sign_eq_ok_iff.2 ⟨_, _, hs, rfl⟩⟩
  refine ⟨hpub, hsig, (verdict_on_own_signature hpub hsig).2.2.1.2 ⟨by decide +kernel, ?_⟩⟩
  rintro ⟨-, h⟩
  exact absurd h (by decide +kernel)

/-- A key, a message and a nonce with their public key and signature, not confirmed by either form
of verification. -/
structure Unconfirmed (d m k pub : Bytes 32) (sig : Bytes 64) : Prop where
  publicKey : (publicKey Production.primitives d.toList ()).answer = .ok pub
  sign : (sign Production.primitives d.toList m.toList k.toList ()).answer = .ok sig
  verifySignature : (verifySignature Production.primitives pub.toList m.toList sig.toList
    ()).answer = false
  verify : (verify Production.primitives pub.toList m.toList (rBytes sig).toList
    (wBytes sig).toList ()).answer = false

/-- A signature that the verification refuses is not confirmed in either form. -/
theorem unconfirmed_of_verify {d m k : Bytes 32} {r w x : Fp}
    (hs : Production.sign (scalar d) (element m) (scalar k) = .value (r, w))
    (hx : Production.publicKey (scalar d) = .value x)
    (hv : (Bridge.verify Production.primitives (wire x).toList m.toList (wire r).toList
      (wire w).toList ()).answer = false) :
    Unconfirmed d m k (wire x) (wirePair (r, w)) where
  publicKey := publicKey_eq_ok_iff.2 ⟨_, hx, rfl⟩
  sign := sign_eq_ok_iff.2 ⟨_, _, hs, rfl⟩
  verifySignature := by
    rw [verifySignature_toList, rBytes_wirePair, wBytes_wirePair]
    exact hv
  verify := by
    rw [rBytes_wirePair, wBytes_wirePair]
    exact hv

/-- **Signatures that are not confirmed.**  Under the key 1 there is one whose `w` is `n - 2`,
under the key 2 one whose verification panics. -/
theorem own_signature_unconfirmed :
    Unconfirmed (.ofValue 32 1)
      (.ofValue 32 0x210ea3e7a6668ed041312bea5bf0f37fd138b9bd85bbf38d1c113950d9f56cd)
      (.ofValue 32 1) (wire baseX) (wirePair (baseX, .ofNat (Scalar.order - 2))) ∧
    Unconfirmed (.ofValue 32 2)
      (.ofValue 32 0x3de2b830b332e36f7d9da82b481e18fbd59fb361a3033c07ae47b1792879f94)
      (.ofValue 32 1) (wire doubleX) (wirePair (baseX,
        .ofNat 0x6da01f3816a18c2d5c6cf0487712a6479bb5cca1b24258b0f0c2444c95224bb)) ∧
    .panicked "verify" ∈ (verify Production.primitives (wire doubleX).toList
      (Bytes.ofValue 32
        0x3de2b830b332e36f7d9da82b481e18fbd59fb361a3033c07ae47b1792879f94).toList
      (wire baseX).toList
      (wire (.ofNat 0x6da01f3816a18c2d5c6cf0487712a6479bb5cca1b24258b0f0c2444c95224bb)).toList
      ()).log := by
  have hs₁ := sign_base (d := .ofValue 32 1)
    (m := .ofValue 32 0x210ea3e7a6668ed041312bea5bf0f37fd138b9bd85bbf38d1c113950d9f56cd)
    (s := .ofNat 0x4000000000000087fffffffffffffffdbc08936e573d9190f335120d6e32697)
    (w := .ofNat (Scalar.order - 2))
    (by decide +kernel) (by decide +kernel) (by decide +kernel) (by decide +kernel)
  have hx₁ : Production.publicKey (scalar (.ofValue 32 1)) = .value baseX :=
    Production.publicKey_eq_value_iff.2 (by decide +kernel)
  have hs₂ := sign_base (d := .ofValue 32 2)
    (m := .ofValue 32 0x3de2b830b332e36f7d9da82b481e18fbd59fb361a3033c07ae47b1792879f94)
    (s := .ofNat 0x7bc570616665c6defb3b5056903c31f7ab3f66c34606780f5c8f62f250f3f28)
    (w := .ofNat 0x6da01f3816a18c2d5c6cf0487712a6479bb5cca1b24258b0f0c2444c95224bb)
    (by decide +kernel) (by decide +kernel) (by decide +kernel) (by decide +kernel)
  have hv₁ := verify_own hs₁ hx₁
  have hv₂ := verify_own hs₂ publicKey_double
  rw [if_neg (by decide +kernel)] at hv₁
  rw [if_pos (by decide +kernel), if_pos ⟨by decide +kernel, by decide +kernel⟩] at hv₂
  refine ⟨unconfirmed_of_verify hs₁ hx₁ ?_, unconfirmed_of_verify hs₂ publicKey_double ?_, ?_⟩
  · rw [hv₁, verdict]
  · rw [hv₂, verdict]
  · rw [hv₂, verdict]
    exact List.mem_cons_self

end Bridge
end StarkWire
