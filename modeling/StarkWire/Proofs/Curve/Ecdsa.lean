/-
# Signing and verifying on the curve

`IsSignature d m k r s` says what a conventional signature `(r, s)` of `m` under key `d` with nonce
`k` is: `r` is the abscissa of `k G`, `s k ≡ r d + m` modulo the order, and everything stays in its
range.  The signer answers with exactly these (`sign_eq_value_iff`) and panics for no nonce that
is prime to the order (`sign_ne_panic`).

The verifier forms `z w G + r w Q` with `w` the inverse of `s` and `Q` the point it lifts from the
public key's abscissa.  When `Q` is `d G` the sum is `k G`; when `Q` is `-d G` the difference is,
and the sum, which is formed first, is infinity just when `m ≡ r d` (`verify_of_isSignature`).
Whatever it accepts has `s` and `w` in range (`range_of_verify`).
-/

import StarkWire.Proofs.Curve.Generator

namespace StarkWire
namespace Ecdsa

open Point

/-- The verifier's range, as a bound on both sides. -/
theorem inRange_iff {a : ℕ} : inRange a = true ↔ 0 < a ∧ a < bound := by
  simp [inRange, Nat.pos_iff_ne_zero]

/-- The pair `(r, s)` signs `m` under the key `d` with the nonce `k`. -/
structure IsSignature (d m k : ℕ) (r : Fp) (s : ℕ) : Prop where
  message_lt : m < bound
  abscissa : (generator.mul k).x? = some r
  r_range : 0 < r.val ∧ r.val < bound
  s_range : 0 < s ∧ s < bound
  equation : s * k ≡ r.val * d + m [MOD Scalar.order]

namespace IsSignature

variable {d m k s : ℕ} {r : Fp}

/-- A nonce that signs is invertible. -/
theorem not_order_dvd (h : IsSignature d m k r s) : ¬ Scalar.order ∣ k := by
  rw [← x?_mul_generator_eq_none_iff, h.abscissa]
  exact Option.some_ne_none r

/-- The range of the verifier lies below the order. -/
theorem s_lt_order (h : IsSignature d m k r s) : s < Scalar.order :=
  h.s_range.2.trans Scalar.bound_lt_order

/-- **What the verifier recovers:** the inverse `w` of `s` takes `r d + m` back to the nonce. -/
theorem mul_modEq_nonce (h : IsSignature d m k r s) {w : ℕ} (hw : w * s ≡ 1 [MOD Scalar.order]) :
    m * w + r.val * w * d ≡ k [MOD Scalar.order] := by
  have h₁ : w * (s * k) ≡ w * (r.val * d + m) [MOD Scalar.order] := h.equation.mul_left w
  have h₂ : w * (s * k) ≡ k [MOD Scalar.order] := by
    rw [← Nat.mul_assoc]
    simpa using hw.mul_right k
  have h₃ : m * w + r.val * w * d = w * (r.val * d + m) := by ring
  rw [h₃]
  exact h₁.symm.trans h₂

end IsSignature

/-- What the order does not divide has an inverse, as the order is prime. -/
theorem exists_inverse? {k : ℕ} (hk : ¬ Scalar.order ∣ k) :
    ∃ u, Modular.inverse? k Scalar.order = some u := by
  have hc := ((Nat.Prime.coprime_iff_not_dvd Scalar.prime_order).2 hk).symm
  rw [← Option.ne_none_iff_exists', ne_eq, Modular.inverse?_eq_none_iff, not_not]
  exact hc

/-- The component is the one number below the order that solves the signature's equation. -/
theorem eq_component_iff {r d m k u s : ℕ} (hs : s < Scalar.order)
    (hu : u * k ≡ 1 [MOD Scalar.order]) :
    s = component r d m u ↔ s * k ≡ r * d + m [MOD Scalar.order] := by
  have hc : component r d m u * k ≡ r * d + m [MOD Scalar.order] := by
    calc component r d m u * k ≡ (r * d + m) * u * k [MOD Scalar.order] :=
          (Nat.mod_modEq _ _).mul_right k
      _ = (r * d + m) * (u * k) := Nat.mul_assoc _ _ _
      _ ≡ (r * d + m) * 1 [MOD Scalar.order] := hu.mul_left _
      _ = r * d + m := Nat.mul_one _
  constructor
  · rintro rfl
    exact hc
  · intro h
    have hk : Nat.gcd Scalar.order k = 1 := (Modular.coprime_of_mul_modEq_one hu).symm
    exact (Nat.ModEq.cancel_right_of_coprime hk (h.trans hc.symm)).eq_of_lt_of_lt hs
      (Nat.mod_lt _ Scalar.order_pos)

/-- Zero is a multiple of the order. -/
theorem zero_of_val_eq_zero {k : Fp} (hk : k = 0) : Scalar.order ∣ k.val := by
  subst hk
  exact dvd_zero _

/-- Signing with a nonce prime to the order, once `k G` and the inverse of `k` are known. -/
theorem sign_eq {d m k x : Fp} {u : ℕ} (hx : (generator.mul k.val).x? = some x)
    (hu : Modular.inverse? k.val Scalar.order = some u) :
    sign d m k =
      if m.val ≥ bound then signFault "Invalid message hash"
      else if !inRange x.val then signFault "Invalid k"
      else if !inRange (component x.val d.val m.val u) then signFault "Invalid k"
      else .value (x, .ofNat (component x.val d.val m.val u)) := by
  have hk : k ≠ 0 := by
    intro h
    rw [x?_mul_generator_eq_none_iff.2 (zero_of_val_eq_zero h)] at hx
    cases hx
  simp only [sign, mulGenerator, hk, if_false, hx, hu, Reply.ofOption, Reply.bind]

/-- Signing with an invertible nonce does not panic. -/
theorem sign_ne_panic {d m k : Fp} (hk : ¬ Scalar.order ∣ k.val) : sign d m k ≠ .panic := by
  obtain ⟨x, hx⟩ := exists_x?_mul_generator hk
  obtain ⟨u, hu⟩ := exists_inverse? hk
  rw [sign_eq hx hu]
  unfold signFault
  split_ifs <;> simp

/-- A fault of signing is one of two, and says nothing of key or nonce. -/
theorem sign_fault {d m k : Fp} {f : Fault} (h : sign d m k = .fault f) :
    f = ⟨"sign", "Invalid message hash"⟩ ∨ f = ⟨"sign", "Invalid k"⟩ := by
  by_cases hk : Scalar.order ∣ k.val
  · simp only [sign, mulGenerator, x?_mul_generator_eq_none_iff.2 hk, Reply.ofOption, Reply.bind,
      signFault] at h
    split_ifs at h <;> cases h <;> simp
  · obtain ⟨x, hx⟩ := exists_x?_mul_generator hk
    obtain ⟨u, hu⟩ := exists_inverse? hk
    rw [sign_eq hx hu] at h
    unfold signFault at h
    split_ifs at h <;> cases h <;> simp

/-- A nonce that the order divides signs nothing. -/
theorem sign_ne_value_of_dvd {d m k : Fp} (hk : Scalar.order ∣ k.val) (a : Fp × Fp) :
    sign d m k ≠ .value a := by
  simp only [sign, mulGenerator, x?_mul_generator_eq_none_iff.2 hk, Reply.ofOption, Reply.bind,
    signFault]
  split_ifs <;> simp

/-- **The signer answers with the signatures, and with them only.** -/
theorem sign_eq_value_iff {d m k r s : Fp} :
    sign d m k = .value (r, s) ↔ IsSignature d.val m.val k.val r s.val := by
  by_cases hk : Scalar.order ∣ k.val
  · exact iff_of_false (sign_ne_value_of_dvd hk _) fun h => h.not_order_dvd hk
  -- any other nonce has a point and an inverse, so all that is left are the ranges
  obtain ⟨x, hx⟩ := exists_x?_mul_generator hk
  obtain ⟨u, hu⟩ := exists_inverse? hk
  have huk := Modular.inverse?_modEq Scalar.order_pos hu
  have hlt : component x.val d.val m.val u < Scalar.order := Nat.mod_lt _ Scalar.order_pos
  have hval : (Fp.ofNat (component x.val d.val m.val u)).val = component x.val d.val m.val u :=
    Nat.mod_eq_of_lt (hlt.trans Scalar.order_lt_prime)
  rw [sign_eq hx hu]
  constructor
  · intro h
    unfold signFault at h
    split_ifs at h with hm hr hs
    obtain ⟨rfl, rfl⟩ := Prod.mk.inj (Reply.value.inj h)
    simp only [Bool.not_eq_true', Bool.not_eq_false, inRange_iff] at hr hs
    rw [hval]
    exact ⟨Nat.lt_of_not_le hm, hx, hr, hs, (eq_component_iff hlt huk).1 rfl⟩
  · intro h
    obtain rfl := Option.some.inj (hx.symm.trans h.abscissa)
    have hs : s.val = component x.val d.val m.val u :=
      (eq_component_iff h.s_lt_order huk).2 h.equation
    rw [if_neg (Nat.not_le_of_lt h.message_lt), if_neg (by simp [inRange_iff.2 h.r_range]),
      if_neg (by rw [← hs]; simp [inRange_iff.2 h.s_range]), ← hs, Fp.ofNat_val]

variable {r : Fp} {a c : Point}

/-- The sum has the abscissa that is looked for, and the difference is not looked at. -/
theorem matchesEither_of_add (h : (a + c).x? = some r) : matchesEither r a c = .value true := by
  simp [matchesEither, h, Reply.ofOption, Reply.bind]

/-- The difference has it; the sum was looked at first, which panics at infinity. -/
theorem matchesEither_of_sub (h : (a - c).x? = some r) :
    matchesEither r a c = if a + c = infinity then .panic else .value true := by
  rcases hx : (a + c).x? with _ | x
  · rw [if_pos (x?_eq_none_iff.1 hx)]
    simp [matchesEither, hx, Reply.ofOption, Reply.bind]
  · have hne : a + c ≠ infinity := by
      rw [ne_eq, ← x?_eq_none_iff, hx]
      exact Option.some_ne_none x
    rw [if_neg hne]
    by_cases hxr : x = r <;> simp [matchesEither, hx, hxr, h, Reply.ofOption, Reply.bind, Reply.map]

/-- The two products that the verifier takes modulo the order, as multiples of the generator. -/
theorem nsmul_base_mod_mul (a d : ℕ) :
    (a % Scalar.order) • d • base = (a * d) • base := by
  rw [← mul_nsmul', nsmul_base_eq_iff]
  exact (Nat.mod_modEq _ _).mul_right d

/-- A multiple of the generator is told by the multiplier modulo the order. -/
theorem nsmul_base_mod (a : ℕ) : (a % Scalar.order) • base = a • base :=
  nsmul_base_eq_iff.2 (Nat.mod_modEq _ _)

/-- The factor that both sides have is cancelled, as it is invertible. -/
theorem mul_modEq_mul_iff {m w r d : ℕ} (hw : Nat.Coprime w Scalar.order) :
    m * w ≡ r * w * d [MOD Scalar.order] ↔ m ≡ r * d [MOD Scalar.order] := by
  rw [Nat.mul_right_comm r w d]
  exact ⟨Nat.ModEq.cancel_right_of_coprime hw.symm, fun h => h.mul_right w⟩

/-- Past its checks the verifier compares `r` with the abscissas of two sums. -/
theorem verify_eq_matchesEither {x m r s : Fp} {q : Point} {w : ℕ} (hm : m.val < bound)
    (hr : 0 < r.val ∧ r.val < bound) (hs : 0 < s.val ∧ s.val < bound) (hq : lift? x = some q)
    (hw : Modular.inverse? s.val Scalar.order = some w) (hwr : 0 < w ∧ w < bound) :
    verify x m r s = matchesEither r (generator.mul (m.val * w % Scalar.order))
      (q.mul (r.val * w % Scalar.order)) := by
  rw [verify, if_neg (Nat.not_le_of_lt hm), if_neg (by simp [inRange_iff.2 hr]),
    if_neg (by simp [inRange_iff.2 hs]), hq]
  simp only [hw]
  rw [if_neg (by simp [inRange_iff.2 hwr])]

/-- **Verifying a signature of one's own.**  Where the lifted point is the negative of `d G`, the
sum is formed of `m w G` and `-(r w d) G`, so it is infinity just when `m ≡ r d`. -/
theorem verify_of_isSignature {d k w : ℕ} {m r s x : Fp} (h : IsSignature d m.val k r s.val)
    (hx : (generator.mul d).x? = some x) (hw : Modular.inverse? s.val Scalar.order = some w)
    (hwr : 0 < w ∧ w < bound) :
    verify x m r s =
      if lift? x = some (-generator.mul d) ∧ m.val ≡ r.val * d [MOD Scalar.order] then .panic
      else .value true := by
  have hws := Modular.inverse?_modEq Scalar.order_pos hw
  have hwc : Nat.Coprime w Scalar.order :=
    Modular.coprime_of_mul_modEq_one (u := s.val) (by rwa [Nat.mul_comm])
  have hd : ¬ Scalar.order ∣ d := by
    rw [← x?_mul_generator_eq_none_iff, hx]
    exact Option.some_ne_none x
  have hD := denotes_mul_generator d
  have hA := denotes_mul_generator (m.val * w % Scalar.order)
  rw [nsmul_base_mod] at hA
  have hk : (m.val * w) • base + (r.val * w * d) • base = k • base := by
    rw [← add_nsmul, nsmul_base_eq_iff]
    exact h.mul_modEq_nonce hws
  have hv : ∀ q, lift? x = some q → verify x m r s = _ := fun q hq =>
    verify_eq_matchesEither h.message_lt h.r_range h.s_range hq hw hwr
  rcases lift?_eq_or_eq_neg hD.onCurve hx with hl | hl
  · -- the sum is `k G`
    have hC := hD.mul (r.val * w % Scalar.order)
    rw [nsmul_base_mod_mul] at hC
    have hsum := (hA.add hC).point_eq (hk ▸ denotes_mul_generator k)
    rw [hv _ hl, matchesEither_of_add (hsum ▸ h.abscissa), if_neg]
    rintro ⟨hn, -⟩
    exact mul_generator_ne_neg hd (Option.some.inj (hl.symm.trans hn))
  · -- the difference is `k G`, but the sum is formed first
    have hC := hD.neg.mul (r.val * w % Scalar.order)
    rw [neg_nsmul, nsmul_base_mod_mul] at hC
    have hdiff := hA.sub hC
    rw [sub_neg_eq_add, hk] at hdiff
    have hdiff' := hdiff.point_eq (denotes_mul_generator k)
    have hzero := (hA.add hC).eq_infinity_iff
    rw [← sub_eq_add_neg, sub_eq_zero, nsmul_base_eq_iff, mul_modEq_mul_iff hwc] at hzero
    rw [hv _ hl, matchesEither_of_sub (hdiff' ▸ h.abscissa)]
    simp only [hl, true_and, hzero]

/-! ### What is accepted -/

/-- A check of the verifier is passed where there is a verdict. -/
theorem check_eq_value_iff {α : Type} {check : Prop} [Decidable check] {detail : String}
    {reply : Reply α} {v : α} :
    (if check then verifyFault detail else reply) = .value v ↔ ¬ check ∧ reply = .value v := by
  by_cases h : check <;> simp [h, verifyFault]

/-- The first sum that has the abscissa is enough, but there must be a first sum. -/
theorem matchesEither_eq_true_iff :
    matchesEither r a c = .value true
      ↔ (a + c).x? = some r ∨ a + c ≠ infinity ∧ (a - c).x? = some r := by
  rcases hx : (a + c).x? with _ | x
  · rw [x?_eq_none_iff] at hx
    simp [matchesEither, hx, x?, Reply.ofOption, Reply.bind]
  · have hne : a + c ≠ infinity := by
      rw [ne_eq, ← x?_eq_none_iff, hx]
      exact Option.some_ne_none x
    by_cases hxr : x = r
    · simp [matchesEither, hx, hxr, Reply.ofOption, Reply.bind]
    · rcases hy : (a - c).x? with _ | y <;>
        simp [matchesEither, hx, hy, hxr, hne, Reply.ofOption, Reply.bind, Reply.map]

/-- **What is accepted:** everything is in range, the inverse `w` of `s` included, the key can be
lifted, and one of the two sums matches. -/
theorem verify_eq_true_iff {x m r s : Fp} :
    verify x m r s = .value true ↔
      m.val < bound ∧ (0 < r.val ∧ r.val < bound) ∧ (0 < s.val ∧ s.val < bound) ∧
        ∃ q w, lift? x = some q ∧ Modular.inverse? s.val Scalar.order = some w ∧
          (0 < w ∧ w < bound) ∧
          matchesEither r (generator.mul (m.val * w % Scalar.order))
            (q.mul (r.val * w % Scalar.order)) = .value true := by
  constructor
  · intro h
    rw [verify, check_eq_value_iff, check_eq_value_iff, check_eq_value_iff] at h
    obtain ⟨hm, hr, hs, h⟩ := h
    rw [Bool.not_eq_true', Bool.not_eq_false, inRange_iff] at hr hs
    rcases hq : lift? x with _ | q
    · rw [hq] at h
      cases h
    rw [hq] at h
    rcases hw : Modular.inverse? s.val Scalar.order with _ | w
    · simp only [hw] at h
      cases h
    simp only [hw, check_eq_value_iff] at h
    rw [Bool.not_eq_true', Bool.not_eq_false, inRange_iff] at h
    exact ⟨Nat.lt_of_not_le hm, hr, hs, q, w, rfl, rfl, h⟩
  · rintro ⟨hm, hr, hs, q, w, hq, hw, hwr, h⟩
    rwa [verify_eq_matchesEither hm hr hs hq hw hwr]

/-- The verifier accepts `s` only if it is in range, and its inverse too. -/
theorem range_of_verify {x m r s : Fp} (h : verify x m r s = .value true) :
    (0 < s.val ∧ s.val < bound) ∧
      ∃ w, Modular.inverse? s.val Scalar.order = some w ∧ 0 < w ∧ w < bound := by
  obtain ⟨-, -, hs, -, w, -, hw, hwr, -⟩ := verify_eq_true_iff.1 h
  exact ⟨hs, w, hw, hwr⟩

/-- What is accepted has been reduced modulo the order already. -/
theorem verify_eq_true_iff_mod {x m r s : Fp} :
    verify x m r s = .value true
      ↔ verify x m r (.ofNat (s.val % Scalar.order)) = .value true ∧ s.val < Scalar.order := by
  by_cases hs : s.val < Scalar.order
  · rw [Nat.mod_eq_of_lt hs, Fp.ofNat_val, and_iff_left hs]
  · refine iff_of_false (fun hv => hs ?_) fun hv => hs hv.2
    exact (range_of_verify hv).1.2.trans Scalar.bound_lt_order

end Ecdsa
end StarkWire
