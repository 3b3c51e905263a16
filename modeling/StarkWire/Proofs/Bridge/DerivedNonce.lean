/-
# Signing with a derived nonce

A derived nonce goes into the signing request as the field element that it is; a nonce that a caller
gives comes as bytes, and is taken modulo the order first.  A nonce below the order survives the
detour (`scalar_wire`).  So the run that derives it is, after the deriving call, the run that is
given its bytes (`signDeterministic_eq_sign`), and on primitives that reply in one way, the answers
and the signing calls agree whenever the two are made (`signDeterministic_as_sign`).
-/

import StarkWire.Proofs.Bridge.Deterministic
import StarkWire.Proofs.Bridge.Exchange

namespace StarkWire
namespace Bridge

variable {σ : Type}

/-- The request for the nonce of a message under a key. -/
@[reducible] def nonceRequest (d m : Bytes 32) (seed : Option (Bytes 32)) : Request :=
  .nonce (element m) (scalar d) (seed.map element)

/-- Nonces stay below the order. -/
def NoncesReduced (f : (q : Request) → Reply q.Answer) : Prop :=
  ∀ message key seed k, f (.nonce message key seed) = .value k → k.val < Scalar.order

/-- Signing with a derived nonce, as signing with that nonce. -/
structure SignsAsWith (P : Primitives σ) (f : (q : Request) → Reply q.Answer) (d m : Bytes 32)
    (seed : Option (Bytes 32)) : Prop where
  run {k : Fp} (hk : f (nonceRequest d m seed) = .value k) (s : σ) :
    signDeterministic P d.toList m.toList (seed.map Bytes.toList) s
      = (sign P d.toList m.toList (wire k).toList (P.reply (nonceRequest d m seed) s).2).after
          (nonceRequest d m seed)
  answer {k : Fp} (hk : f (nonceRequest d m seed) = .value k) (s s' : σ) :
    (signDeterministic P d.toList m.toList (seed.map Bytes.toList) s).answer
      = (sign P d.toList m.toList (wire k).toList s').answer
  calls {k : Fp} (hk : f (nonceRequest d m seed) = .value k) (s s' : σ) :
    (sign P d.toList m.toList (wire k).toList s').calls = [.sign (scalar d) (element m) k] ∧
    (signDeterministic P d.toList m.toList (seed.map Bytes.toList) s).calls
      = [nonceRequest d m seed, .sign (scalar d) (element m) k]
  underived (hk : ∀ k, f (nonceRequest d m seed) ≠ .value k) (s : σ) :
    (signDeterministic P d.toList m.toList (seed.map Bytes.toList) s).answer
        = .error .unknownPrimitiveFailure ∧
      (signDeterministic P d.toList m.toList (seed.map Bytes.toList) s).calls
        = [nonceRequest d m seed]
  residues {d' m' : Bytes 32} {seed' : Option (Bytes 32)}
    (hd : d.value ≡ d'.value [MOD Scalar.order]) (hm : m.value ≡ m'.value [MOD Fp.prime])
    (hs : Option.Rel (fun a b => a.value ≡ b.value [MOD Fp.prime]) seed seed') (s : σ) :
    signDeterministic P d.toList m.toList (seed.map Bytes.toList) s
      = signDeterministic P d'.toList m'.toList (seed'.map Bytes.toList) s

/-- A scalar below the order is read back from its wire bytes. -/
theorem scalar_wire {k : Fp} (hk : k.val < Scalar.order) : scalar (wire k) = k := by
  rw [scalar, value_wire, Nat.mod_eq_of_lt hk, Fp.ofNat_val]

variable (P : Primitives σ) {d m : Bytes 32} {seed : Option (Bytes 32)} {k : Fp}

/-- **After the call that derives the nonce, the run is that with the nonce given.** -/
theorem signDeterministic_eq_sign {s : σ} (hk : (P.reply (nonceRequest d m seed) s).1 = .value k)
    (hlt : k.val < Scalar.order) :
    signDeterministic P d.toList m.toList (seed.map Bytes.toList) s
      = (sign P d.toList m.toList (wire k).toList (P.reply (nonceRequest d m seed) s).2).after
          (nonceRequest d m seed) := by
  have hreply : P.reply (nonceRequest d m seed) s
      = (.value k, (P.reply (nonceRequest d m seed) s).2) := Prod.ext hk rfl
  rw [signDeterministic, Procedure.signDeterministic_toList, sign, Procedure.sign_toList,
    scalar_wire hlt]
  exact Program.run_ask_of_value hreply

/-- **Signing with a derived nonce is signing with that nonce.** -/
theorem signDeterministic_as_sign {P : Primitives σ} {f : (q : Request) → Reply q.Answer}
    (hP : RepliesWith P f) (hf : NoncesReduced f) (d m : Bytes 32) (seed : Option (Bytes 32)) :
    SignsAsWith P f d m seed where
  run hk s := signDeterministic_eq_sign P ((hP _ s).trans hk) (hf _ _ _ _ hk)
  answer {k} hk s s' := by
    rw [signDeterministic_eq_sign P ((hP _ s).trans hk) (hf _ _ _ _ hk)]
    exact (hP.sign_answer d m (wire k) _).trans (hP.sign_answer d m (wire k) s').symm
  calls {k} hk s s' := by
    have hsign : ∀ s', (sign P d.toList m.toList (wire k).toList s').calls
        = [.sign (scalar d) (element m) k] := by
      intro s'
      have h := ((exactTraffic P s').sign d m (wire k)).calls
      rwa [scalar_wire (hf _ _ _ _ hk)] at h
    rw [signDeterministic_eq_sign P ((hP _ s).trans hk) (hf _ _ _ _ hk)]
    exact ⟨hsign s', congrArg (nonceRequest d m seed :: ·) (hsign _)⟩
  underived hk s := by
    obtain ⟨hcalls, -, hanswer⟩ := ((exactTraffic P s).signDeterministic d m seed).failed
      fun k hr => hk k ((hP _ s).symm.trans hr)
    exact ⟨hanswer, hcalls⟩
  residues hd hm hs s := (residuesDecide P s).signDeterministic hd hm hs

/-- Sums modulo the order for nonces, but none for the message zero. -/
def orderlySum : (q : Request) → Reply q.Answer
  | .nonce message key seed =>
    if message = 0 then .panic
    else .value (.ofNat ((message.val + key.val + (seed.map Fp.val).getD 0) % Scalar.order))
  | q => .value (sumAnswer q)

/-- Primitives that compute such sums and count what they are asked. -/
def orderly : Primitives ℕ := ⟨fun q n => (orderlySum q, n + 1)⟩

/-- The toy nonces are reduced. -/
theorem noncesReduced_orderlySum : NoncesReduced orderlySum := by
  intro message key seed k hk
  simp only [orderlySum] at hk
  split at hk
  · cases hk
  · cases hk
    rw [Fp.val_ofNat]
    exact (Nat.mod_le _ _).trans_lt (Nat.mod_lt _ Scalar.order_pos)

/-- Key `n + 5`, message `n - 1` and seed `p + 1` have the nonce 5, with whose bytes the message is
signed alike; the message `p` has no nonce and is not signed. -/
theorem signDeterministic_as_sign_five :
    RepliesWith orderly orderlySum ∧ NoncesReduced orderlySum ∧
    orderlySum (nonceRequest (.ofValue 32 (Scalar.order + 5)) (.ofValue 32 (Scalar.order - 1))
      (some (.ofValue 32 (Fp.prime + 1)))) = .value 5 ∧
    (signDeterministic orderly (Bytes.ofValue 32 (Scalar.order + 5)).toList
        (Bytes.ofValue 32 (Scalar.order - 1)).toList
        (some (Bytes.ofValue 32 (Fp.prime + 1)).toList) 0).answer
      = (sign orderly (Bytes.ofValue 32 (Scalar.order + 5)).toList
        (Bytes.ofValue 32 (Scalar.order - 1)).toList (wire 5).toList 7).answer ∧
    (∀ k, orderlySum (nonceRequest (.ofValue 32 1) (.ofValue 32 Fp.prime) none) ≠ .value k) ∧
    (signDeterministic orderly (Bytes.ofValue 32 1).toList (Bytes.ofValue 32 Fp.prime).toList none
      0).calls = [.nonce 0 1 none] := by
  have hP : RepliesWith orderly orderlySum := fun q s => rfl
  have hf := noncesReduced_orderlySum
  have hk : orderlySum (nonceRequest (.ofValue 32 (Scalar.order + 5))
      (.ofValue 32 (Scalar.order - 1)) (some (.ofValue 32 (Fp.prime + 1)))) = .value 5 := by
    rw [orderlySum, if_neg (by decide +kernel)]
    exact congrArg Reply.value (by decide +kernel)
  have hpanic : orderlySum (nonceRequest (.ofValue 32 1) (.ofValue 32 Fp.prime) none) = .panic := by
    rw [orderlySum, if_pos (by decide +kernel)]
  have hnone : ∀ k, orderlySum (nonceRequest (.ofValue 32 1) (.ofValue 32 Fp.prime) none)
      ≠ .value k := by
    intro k h
    cases hpanic.symm.trans h
  have hzero : nonceRequest (.ofValue 32 1) (.ofValue 32 Fp.prime) none = .nonce 0 1 none := by
    decide +kernel
  refine ⟨hP, hf, hk, (signDeterministic_as_sign hP hf _ _ _).answer hk 0 7, hnone, ?_⟩
  rw [← hzero]
  exact ((signDeterministic_as_sign hP hf _ _ _).underived hnone 0).2

end Bridge
end StarkWire
