/-
# Inverting modulo the order

A 256-bit value is taken modulo the field prime `p` and then inverted modulo the order `n`.  The
order is prime, so a residue has an inverse unless it is a multiple of `n`; and as `n < p < 2 n`,
the residues that are multiples of `n` are 0 and `n` itself (`order_dvd_val_iff`).

An inverse modulo `n` says of its number what it is modulo `n` and no more.  So two values have the
same inverse just when their residues modulo `p` agree modulo `n` (`inverse?_eq_inverse?_iff`), and
inverting twice brings back the residue reduced modulo `n`: the value itself if it was below `n`,
another one if it was between `n` and `p`.
-/

import StarkWire.Proofs.Primitive.Production

namespace StarkWire

/-- An element is told by its 256-bit value. -/
theorem Fp.toU256_injective : Function.Injective toU256 :=
  Function.HasLeftInverse.injective ⟨ofU256, ofU256_toU256⟩

namespace Scalar

/-- Below the prime there is one multiple of the order beside zero, the order itself. -/
theorem prime_lt_two_mul_order : Fp.prime < 2 * order := by decide

/-- The multiples of the order below the field prime. -/
theorem order_dvd_val_iff {a : Fp} : order ∣ a.val ↔ a.val = 0 ∨ a.val = order := by
  constructor
  · rintro ⟨k, hk⟩
    have hlt : order * k < order * 2 := by
      rw [← hk, Nat.mul_comm]
      exact a.isLt.trans prime_lt_two_mul_order
    have hk2 : k < 2 := Nat.lt_of_mul_lt_mul_left hlt
    interval_cases k
    · exact .inl hk
    · exact .inr (hk.trans (Nat.mul_one _))
  · rintro (h | h) <;> simp [h]

/-- An inverse is missing from the multiples of the order alone. -/
theorem inverse?_eq_none_iff {a : Fp} : inverse? a = none ↔ order ∣ a.val := by
  rw [inverse?, Option.map_eq_none_iff, Modular.inverse?_eq_none_iff, Nat.coprime_comm,
    prime_order.coprime_iff_not_dvd, not_not]

/-- **What an inverse tells of its number:** the residue modulo the order. -/
theorem inverse?_eq_inverse?_iff {a b : Fp} :
    inverse? a = inverse? b ↔ a.val ≡ b.val [MOD order] := by
  constructor
  · intro h
    rcases hb : inverse? b with _ | u
    · have ha := inverse?_eq_none_iff.1 (h.trans hb)
      exact (Nat.modEq_zero_iff_dvd.2 ha).trans
        (Nat.modEq_zero_iff_dvd.2 (inverse?_eq_none_iff.1 hb)).symm
    · obtain ⟨-, hua⟩ := inverse?_eq_some_iff.1 (h.trans hb)
      obtain ⟨-, hub⟩ := inverse?_eq_some_iff.1 hb
      rw [Nat.mul_comm] at hua hub
      -- one number is inverse to both, so it cancels
      have hu : Nat.gcd order u.val = 1 := (Modular.coprime_of_mul_modEq_one hua).symm
      exact Nat.ModEq.cancel_right_of_coprime hu (hua.trans hub.symm)
  · intro h
    rcases hb : inverse? b with _ | u
    · rw [inverse?_eq_none_iff] at hb ⊢
      exact (h.dvd_iff dvd_rfl).2 hb
    · obtain ⟨hlt, hub⟩ := inverse?_eq_some_iff.1 hb
      exact inverse?_eq_some_iff.2 ⟨hlt, (h.mul_left u.val).trans hub⟩

/-! ### 256-bit values -/

/-- **There is no inverse of zero and of the order,** taken modulo the prime, and only of these
there is none. -/
theorem invertModOrder_eq_none_iff {v : U256} :
    invertModOrder v = none ↔ v.toNat % Fp.prime = 0 ∨ v.toNat % Fp.prime = order := by
  rw [invertModOrder, Option.map_eq_none_iff, inverse?_eq_none_iff, order_dvd_val_iff]
  rfl

/-- Any other value has an inverse, which is a nonzero scalar. -/
theorem exists_invertModOrder {v : U256}
    (h : ¬ (v.toNat % Fp.prime = 0 ∨ v.toNat % Fp.prime = order)) :
    ∃ u, invertModOrder v = some u ∧ (0 < u.toNat ∧ u.toNat < order) ∧
      u.toNat * (v.toNat % Fp.prime) ≡ 1 [MOD order] := by
  obtain ⟨u, hu⟩ := exists_inverse? (a := .ofU256 v) (mt order_dvd_val_iff.1 h)
  refine ⟨u.toU256, by rw [invertModOrder, hu, Option.map_some], ?_⟩
  rw [Fp.toNat_toU256]
  exact ⟨inverse?_range hu, (inverse?_eq_some_iff.1 hu).2⟩

/-- Below the order, inverting twice brings back the value. -/
theorem invertModOrder_invertModOrder {u v : U256} (hv : v.toNat < order)
    (h : invertModOrder v = some u) : invertModOrder u = some v := by
  obtain ⟨w, hw, rfl⟩ := Option.map_eq_some_iff.1 h
  have hval : (Fp.ofU256 v).val = v.toNat := Nat.mod_eq_of_lt (hv.trans order_lt_prime)
  rw [invertModOrder_toU256 (inverse?_inverse? hw), hval, Nat.mod_eq_of_lt hv]
  refine congrArg some (U256.toNat_inj ?_)
  rw [Fp.toNat_toU256, Fp.val_ofNat, Nat.mod_eq_of_lt (hv.trans order_lt_prime)]

/-- Two values have the same inverse just when their representatives agree modulo the order. -/
theorem invertModOrder_eq_iff {v w : U256} :
    invertModOrder v = invertModOrder w
      ↔ v.toNat % Fp.prime ≡ w.toNat % Fp.prime [MOD order] := by
  rw [invertModOrder, invertModOrder, (Option.map_injective Fp.toU256_injective).eq_iff,
    inverse?_eq_inverse?_iff]
  rfl

/-- What inverting makes of a value `v`, whose residue is that modulo the field prime. -/
structure InvertsModOrder (v : U256) : Prop where
  none_iff : invertModOrder v = none ↔ v.toNat % Fp.prime = 0 ∨ v.toNat % Fp.prime = order
  inverse (h : ¬ (v.toNat % Fp.prime = 0 ∨ v.toNat % Fp.prime = order)) :
    ∃ u, invertModOrder v = some u ∧ (0 < u.toNat ∧ u.toNat < order) ∧
      u.toNat * (v.toNat % Fp.prime) ≡ 1 [MOD order]
  there_and_back (h : 1 ≤ v.toNat ∧ v.toNat < order) :
    ∃ u, invertModOrder v = some u ∧ invertModOrder u = some v
  eq_iff (w : U256) : invertModOrder v = invertModOrder w
    ↔ v.toNat % Fp.prime ≡ w.toNat % Fp.prime [MOD order]

/-- **Every 256-bit value is inverted modulo the order, where it can be.** -/
theorem inverts_mod_order (v : U256) : InvertsModOrder v where
  none_iff := invertModOrder_eq_none_iff
  inverse h := exists_invertModOrder h
  there_and_back h := by
    have hres : v.toNat % Fp.prime = v.toNat := Nat.mod_eq_of_lt (h.2.trans order_lt_prime)
    obtain ⟨u, hu, -⟩ := exists_invertModOrder (v := v) (by omega)
    exact ⟨u, hu, invertModOrder_invertModOrder h.2 hu⟩
  eq_iff _ := invertModOrder_eq_iff

/-- Two more than the order lies below the field prime, and has the inverse of 2: inverted twice, it
is 2. -/
theorem inverts_mod_order_above_order :
    (order + 2 < Fp.prime ∧ 1 ≤ (U256.ofNat 2).toNat ∧ (U256.ofNat 2).toNat < order) ∧
    ∃ u, invertModOrder (.ofNat (order + 2)) = some u ∧ invertModOrder u = some (.ofNat 2) := by
  have h : 1 ≤ (U256.ofNat 2).toNat ∧ (U256.ofNat 2).toNat < order := by decide +kernel
  obtain ⟨u, hu, huv⟩ := (inverts_mod_order (.ofNat 2)).there_and_back h
  have heq := ((inverts_mod_order (.ofNat (order + 2))).eq_iff (.ofNat 2)).2 (by decide +kernel)
  exact ⟨⟨by decide, h⟩, u, heq.trans hu, huv⟩

end Scalar
end StarkWire
