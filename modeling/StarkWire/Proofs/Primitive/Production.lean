/-
# The production primitives verify what they sign, almost

The signer keeps `s` below `2 ^ 251` and answers with its inverse `w` modulo the order, which is
only below the order; the verifier wants `w` below `2 ^ 251`, inverts it back to `s` and goes on
from there.  So a signature of one's own is refused if `w` lies in the gap between the two, and
otherwise it holds, unless the verifier panics (`verify_of_sign`).

Inverting twice leaves a number reduced modulo the order (`Scalar.inverse?_inverse?`), so with the
inverse of any `s` the verifier decides about `s` reduced (`verify_eq_true_iff`).
-/

import StarkWire.Primitive.Production
import StarkWire.Proofs.Curve.Ecdsa

namespace StarkWire

/-- **What inverts a scalar,** told by its congruence. -/
theorem Scalar.inverse?_eq_some_iff {a b : Fp} :
    inverse? a = some b ↔ b.val < order ∧ b.val * a.val ≡ 1 [MOD order] := by
  rw [inverse?, Option.map_eq_some_iff]
  constructor
  · rintro ⟨u, hu, rfl⟩
    rw [Modular.inverse?_eq_some_iff order_pos] at hu
    rwa [Fp.val_ofNat, Nat.mod_eq_of_lt (hu.1.trans order_lt_prime)]
  · intro h
    exact ⟨b.val, (Modular.inverse?_eq_some_iff order_pos).2 h, Fp.ofNat_val b⟩

/-- Every scalar that the order does not divide has an inverse. -/
theorem Scalar.exists_inverse? {a : Fp} (h : ¬ order ∣ a.val) : ∃ b, inverse? a = some b := by
  obtain ⟨u, hu⟩ := Ecdsa.exists_inverse? h
  exact ⟨.ofNat u, by rw [inverse?, hu, Option.map_some]⟩

/-- What is an inverse is a nonzero scalar. -/
theorem Scalar.inverse?_range {a b : Fp} (h : inverse? a = some b) :
    0 < b.val ∧ b.val < order := by
  obtain ⟨hlt, hmul⟩ := inverse?_eq_some_iff.1 h
  refine ⟨Nat.pos_of_ne_zero ?_, hlt⟩
  intro h0
  rw [h0, Nat.zero_mul] at hmul
  exact absurd hmul (by decide)

/-- A number reduced modulo the order is its own representative in the field. -/
theorem Scalar.val_ofNat_mod (v : ℕ) : (Fp.ofNat (v % order)).val = v % order :=
  Nat.mod_eq_of_lt ((Nat.mod_lt v order_pos).trans order_lt_prime)

/-- Inverting twice leaves a number reduced modulo the order. -/
theorem Scalar.inverse?_inverse? {s w : Fp} (h : inverse? s = some w) :
    inverse? w = some (.ofNat (s.val % order)) := by
  obtain ⟨u, hu, rfl⟩ := Option.map_eq_some_iff.1 h
  have hval : (Fp.ofNat u).val = u :=
    Nat.mod_eq_of_lt ((Modular.inverse?_lt order_pos hu).trans order_lt_prime)
  rw [inverse?, hval, Modular.inverse?_inverse? order_pos hu, Option.map_some]

/-- An inverse of the reduced number is one of the number. -/
theorem Scalar.inverse?_eq_some_of_mod {s : Fp} {w : ℕ}
    (h : Modular.inverse? (s.val % order) order = some w) : inverse? s = some (.ofNat w) := by
  have hs : Modular.inverse? s.val order = some w := by
    rw [Modular.inverse?_eq_some_iff order_pos] at h ⊢
    exact ⟨h.1, ((Nat.mod_modEq s.val order).mul_left w).symm.trans h.2⟩
  rw [inverse?, hs, Option.map_some]

/-- An inverse among field elements is one among 256-bit values. -/
theorem Scalar.invertModOrder_toU256 {a b : Fp} (h : inverse? a = some b) :
    invertModOrder a.toU256 = some b.toU256 := by
  rw [invertModOrder, Fp.ofU256_toU256, h, Option.map_some]

namespace Production

open Point

variable {d m k r w x : Fp}

/-- **The public key** is the abscissa of a multiple of the generator, where it has one. -/
theorem publicKey_eq_value_iff : publicKey d = .value x ↔ (generator.mul d.val).x? = some x := by
  unfold publicKey Ecdsa.mulGenerator
  by_cases hd : d = 0
  · rw [if_pos hd, x?_mul_generator_eq_none_iff.2 (Ecdsa.zero_of_val_eq_zero hd)]
    simp
  · rw [if_neg hd]
    cases (generator.mul d.val).x? <;> simp [Reply.ofOption]

/-- **What is signed:** `r` with the inverse of the conventional component. -/
theorem sign_eq_value_iff :
    sign d m k = .value (r, w) ↔
      ∃ s : Fp, Ecdsa.IsSignature d.val m.val k.val r s.val ∧ Scalar.inverse? s = some w := by
  unfold sign
  by_cases hk : k = 0
  · rw [if_pos hk]
    -- a zero nonce is refused before signing, and has no signature anyway
    refine iff_of_false (by simp [Ecdsa.signFault]) ?_
    rintro ⟨s, hs, -⟩
    exact hs.not_order_dvd (Ecdsa.zero_of_val_eq_zero hk)
  rw [if_neg hk]
  constructor
  · intro h
    rcases hs : Ecdsa.sign d m k with ⟨r', s⟩ | f | _
    · rw [hs, Reply.bind] at h
      dsimp only at h
      rcases hw : Scalar.inverse? s with _ | w'
      · rw [hw] at h
        cases h
      · rw [hw] at h
        obtain ⟨rfl, rfl⟩ := Prod.mk.inj (Reply.value.inj h)
        exact ⟨s, Ecdsa.sign_eq_value_iff.1 hs, hw⟩
    · rw [hs] at h
      cases h
    · rw [hs] at h
      cases h
  · rintro ⟨s, hs, hw⟩
    rw [Ecdsa.sign_eq_value_iff.2 hs, Reply.bind]
    simp only [hw]

/-- There is an answer wherever there is a conventional signature: its component has an inverse,
being nonzero and below the order, which is prime. -/
theorem exists_sign_eq_value_iff :
    (∃ a, sign d m k = .value a) ↔ ∃ r s, Ecdsa.IsSignature d.val m.val k.val r s := by
  constructor
  · rintro ⟨⟨r, w⟩, h⟩
    obtain ⟨s, hs, -⟩ := sign_eq_value_iff.1 h
    exact ⟨r, s.val, hs⟩
  · rintro ⟨r, s, hs⟩
    have hval : (Fp.ofNat s).val = s :=
      Nat.mod_eq_of_lt (hs.s_lt_order.trans Scalar.order_lt_prime)
    have hdvd := Nat.not_dvd_of_pos_of_lt hs.s_range.1 hs.s_lt_order
    rw [← hval] at hs hdvd
    obtain ⟨w, hw⟩ := Scalar.exists_inverse? hdvd
    exact ⟨(r, w), sign_eq_value_iff.2 ⟨_, hs, hw⟩⟩

/-- **The faults of signing.**  That the component had no inverse is not among them: it is a nonzero
scalar. -/
theorem sign_fault {f : Fault} (h : sign d m k = .fault f) :
    f = ⟨"sign", "zero nonce"⟩ ∨ f = ⟨"sign", "Invalid message hash"⟩ ∨
      f = ⟨"sign", "Invalid k"⟩ := by
  unfold sign at h
  by_cases hk : k = 0
  · rw [if_pos hk] at h
    cases h
    exact .inl rfl
  rw [if_neg hk] at h
  rcases hs : Ecdsa.sign d m k with ⟨r, s⟩ | g | _
  · obtain ⟨w, hw⟩ := exists_sign_eq_value_iff.2 ⟨r, s.val, Ecdsa.sign_eq_value_iff.1 hs⟩
    rw [sign, if_neg hk, h] at hw
    cases hw
  · rw [hs] at h
    obtain rfl := Reply.fault.inj h
    exact .inr (Ecdsa.sign_fault hs)
  · rw [hs] at h
    cases h

/-- The inverse that stands in a signature is a nonzero scalar. -/
theorem w_range (h : sign d m k = .value (r, w)) : 0 < w.val ∧ w.val < Scalar.order := by
  obtain ⟨s, -, hw⟩ := sign_eq_value_iff.1 h
  exact Scalar.inverse?_range hw

/-- **Verifying a signature of one's own.**  It is refused in the gap between the bound and the
order.  Below, it holds, except where the verifier lifts the public key to `-(d G)` and `m ≡ r d`:
there the first of its two sums is infinity. -/
theorem verify_of_sign (hs : sign d m k = .value (r, w)) (hx : publicKey d = .value x) :
    verify x m r w =
      if w.val < Ecdsa.bound then
        if lift? x = some (-generator.mul d.val) ∧ m.val ≡ r.val * d.val [MOD Scalar.order] then
          .panic
        else .value true
      else .value false := by
  have hpos := (w_range hs).1
  obtain ⟨s, hsig, hw⟩ := sign_eq_value_iff.1 hs
  obtain ⟨hlt, hws⟩ := Scalar.inverse?_eq_some_iff.1 hw
  -- the verifier inverts `w` and so looks at the very component that was signed
  have hsw : Scalar.inverse? w = some s := by
    rw [Scalar.inverse?_eq_some_iff, Nat.mul_comm]
    exact ⟨hsig.s_lt_order, hws⟩
  unfold verify
  by_cases hb : w.val < Ecdsa.bound
  · rw [if_neg (by simp [Ecdsa.inRange_iff.2 ⟨hpos, hb⟩]), hsw, if_pos hb]
    exact Ecdsa.verify_of_isSignature hsig (publicKey_eq_value_iff.1 hx)
      ((Modular.inverse?_eq_some_iff Scalar.order_pos).2 ⟨hlt, hws⟩) ⟨hpos, hb⟩
  · have hr : Ecdsa.inRange w.val = false := by
      rw [Bool.eq_false_iff, ne_eq, Ecdsa.inRange_iff]
      exact fun h => hb h.2
    rw [if_neg hb, hr]
    rfl

/-- A component `w` is accepted if it is in range and its inverse is accepted. -/
theorem verify_eq_true_iff_exists :
    verify x m r w = .value true ↔ (0 < w.val ∧ w.val < Ecdsa.bound) ∧
      ∃ s, Scalar.inverse? w = some s ∧ Ecdsa.verify x m r s = .value true := by
  unfold verify
  by_cases hr : Ecdsa.inRange w.val = true
  · rw [if_neg (by simp [hr]), and_iff_right (Ecdsa.inRange_iff.1 hr)]
    rcases Scalar.inverse? w with _ | s <;> simp
  · rw [if_pos (by simpa using hr)]
    exact iff_of_false (by simp) fun h => hr (Ecdsa.inRange_iff.2 h.1)

/-- **There and back.**  With the inverse `w` of `s` the verifier accepts what `Ecdsa.verify` accepts
with `s` reduced, for that has the bound on `w`, too. -/
theorem verify_eq_true_iff {s : Fp} (hw : Scalar.inverse? s = some w) :
    verify x m r w = .value true
      ↔ Ecdsa.verify x m r (.ofNat (s.val % Scalar.order)) = .value true := by
  rw [verify_eq_true_iff_exists, Scalar.inverse?_inverse? hw]
  simp only [Option.some.injEq, exists_eq_left']
  refine and_iff_right_of_imp fun hv => ?_
  obtain ⟨-, u, hu, hur⟩ := Ecdsa.range_of_verify hv
  rw [Scalar.val_ofNat_mod] at hu
  obtain rfl := Option.some.inj (hw.symm.trans (Scalar.inverse?_eq_some_of_mod hu))
  have hlt : u < Scalar.order := Modular.inverse?_lt Scalar.order_pos hu
  rwa [Fp.val_ofNat, Nat.mod_eq_of_lt (hlt.trans Scalar.order_lt_prime)]

end Production
end StarkWire
