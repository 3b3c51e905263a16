/-
# The equation of a signature on the wire

With `d`, `m` and `k` the residues of key, message and nonce, and `r` the abscissa of `k G`, the
signing operation looks for the `s` below the order with `s k ≡ m + r d` (`Ecdsa.solution`).  It
answers just when all of them are in range (`Ecdsa.Signable`), with the bytes of `r` and of the
inverse `w` of `s`, for which the equation reads `w (m + r d) ≡ k` (`sign_satisfies_equation`).
There always is such a `w`, so the fault for an `s` without an inverse never occurs.

The verifying operation gets `w`, inverts it to `s`, and the conventional verification inverts `s`
again: the inverse that it works with is `w` itself (`recomputed_inverse`).  So what is accepted can
be told without `s`, by the points `u G + v Q` and `u G - v Q` with `u` and `v` the products of hash
and `r` with `w` (`Ecdsa.Accepts`).  Here `Q` is either of the two points over the public key, since
the other only exchanges the two sums (`verdict_by_sums`).
-/

import StarkWire.Proofs.Bridge.Exchange
import StarkWire.Proofs.Bridge.Production
import StarkWire.Proofs.Curve.Abscissa

namespace StarkWire

open Point

/-- The inverse in the field of scalars. -/
theorem Scalar.val_inv_of_modEq {a u : ℕ} (hu : u < order) (h : u * a ≡ 1 [MOD order]) :
    ((a : ZMod order)⁻¹).val = u := by
  have hmul : (u : ZMod order) * a = 1 := by
    exact_mod_cast (ZMod.natCast_eq_natCast_iff _ _ _).2 h
  rw [← eq_inv_of_mul_eq_one_left hmul, ZMod.val_natCast_of_lt hu]

namespace Ecdsa

/-! ### Signing -/

/-- The `s` below the order with `s k ≡ m + r d`. -/
def solution (d m k r : ℕ) : ℕ := ((k : ZMod Scalar.order)⁻¹ * (m + r * d)).val

/-- There is a signature of `m` under the key `d` with the nonce `k`, and `r` stands in it. -/
structure Signable (d m k : ℕ) (r : Fp) : Prop where
  nonce_ne_zero : k ≠ 0
  message_lt : m < 2 ^ 251
  abscissa : HasAbscissa (k • base) r
  r_range : 0 < r.val ∧ r.val < 2 ^ 251
  s_range : 0 < solution d m k r.val ∧ solution d m k r.val < 2 ^ 251

variable {d m k s : ℕ} {r : Fp}

/-- The solution is below the order. -/
theorem solution_lt (d m k r : ℕ) : solution d m k r < Scalar.order := ZMod.val_lt _

/-- The solution is the only one. -/
theorem eq_solution_iff {r : ℕ} (hk : ¬ Scalar.order ∣ k) (hs : s < Scalar.order) :
    s = solution d m k r ↔ s * k ≡ r * d + m [MOD Scalar.order] := by
  have hk' : (k : ZMod Scalar.order) ≠ 0 := mt (ZMod.natCast_eq_zero_iff _ _).1 hk
  have hval : s = solution d m k r
      ↔ (s : ZMod Scalar.order) = (k : ZMod Scalar.order)⁻¹ * (m + r * d) := by
    rw [solution, ← ZMod.val_injective _ |>.eq_iff, ZMod.val_natCast_of_lt hs]
  rw [hval, eq_inv_mul_iff_mul_eq₀ hk', ← ZMod.natCast_eq_natCast_iff]
  push_cast
  rw [mul_comm, add_comm (m : ZMod Scalar.order)]

/-- The conventional signatures are those with the solution of the equation. -/
theorem isSignature_iff : IsSignature d m k r s ↔ Signable d m k r ∧ s = solution d m k r.val := by
  constructor
  · intro h
    have hk := h.not_order_dvd
    obtain rfl := (eq_solution_iff hk h.s_lt_order).2 h.equation
    refine ⟨⟨?_, h.message_lt, hasAbscissa_nsmul_base_iff.2 h.abscissa, h.r_range, h.s_range⟩, rfl⟩
    rintro rfl
    exact hk (dvd_zero _)
  · rintro ⟨h, rfl⟩
    have hx := hasAbscissa_nsmul_base_iff.1 h.abscissa
    have hk : ¬ Scalar.order ∣ k := by
      rw [← x?_mul_generator_eq_none_iff, hx]
      exact Option.some_ne_none r
    exact ⟨h.message_lt, hx, h.r_range, h.s_range,
      (eq_solution_iff hk (solution_lt _ _ _ _)).1 rfl⟩

/-- There is a signature just when the equation can be solved within range. -/
theorem exists_isSignature_iff :
    (∃ r s, IsSignature d m k r s) ↔ ∃ r, Signable d m k r := by
  simp only [isSignature_iff, exists_and_left, exists_eq, and_true]

/-- **What the signer answers with:** `r` and the `w` that solves the equation in its other form. -/
theorem Signable.exists_sign {d m k r : Fp} (h : Signable d.val m.val k.val r) :
    ∃ w, Production.sign d m k = .value (r, w) ∧ (0 < w.val ∧ w.val < Scalar.order) ∧
      w.val * (m.val + r.val * d.val) ≡ k.val [MOD Scalar.order] ∧
      Scalar.invertModOrder w.toU256 = some (.ofNat (solution d.val m.val k.val r.val)) := by
  have hlt := solution_lt d.val m.val k.val r.val
  have hval : (Fp.ofNat (solution d.val m.val k.val r.val)).val
      = solution d.val m.val k.val r.val := Nat.mod_eq_of_lt (hlt.trans Scalar.order_lt_prime)
  have hsig : IsSignature d.val m.val k.val r
      (Fp.ofNat (solution d.val m.val k.val r.val)).val := by
    rw [hval]
    exact isSignature_iff.2 ⟨h, rfl⟩
  obtain ⟨w, hw⟩ := Scalar.exists_inverse?
    (Nat.not_dvd_of_pos_of_lt hsig.s_range.1 hsig.s_lt_order)
  refine ⟨w, Production.sign_eq_value_iff.2 ⟨_, hsig, hw⟩, Scalar.inverse?_range hw, ?_, ?_⟩
  · have hnonce := hsig.mul_modEq_nonce (Scalar.inverse?_eq_some_iff.1 hw).2
    have hform : w.val * (m.val + r.val * d.val) = m.val * w.val + r.val * w.val * d.val := by
      ring
    rwa [hform]
  · have hback := Scalar.inverse?_inverse? hw
    rw [hval, Nat.mod_eq_of_lt hlt] at hback
    rw [Scalar.invertModOrder_toU256 hback, Fp.toU256, hval]

/-! ### Verifying -/

/-- The point `u G + v Q`. -/
noncomputable def sumPoint (h r w : Fp) (Q : curve.Point) : curve.Point :=
  (h.val * w.val % Scalar.order) • base + (r.val * w.val % Scalar.order) • Q

/-- The point `u G - v Q`. -/
noncomputable def differencePoint (h r w : Fp) (Q : curve.Point) : curve.Point :=
  (h.val * w.val % Scalar.order) • base - (r.val * w.val % Scalar.order) • Q

/-- With `Q` for the public key `q`, all is in range, and one of the two points matches `r`. -/
structure Accepts (q h r w : Fp) (Q : curve.Point) : Prop where
  w_range : 0 < w.val ∧ w.val < 2 ^ 251
  inverse_lt : ((w.val : ZMod Scalar.order)⁻¹).val < 2 ^ 251
  hash_lt : h.val < 2 ^ 251
  r_range : 0 < r.val ∧ r.val < 2 ^ 251
  key : HasAbscissa Q q
  matching : HasAbscissa (sumPoint h r w Q) r ∨ HasAbscissa (differencePoint h r w Q) r

variable {q h w : Fp} {Q : curve.Point}

/-- The verifier's comparison, in the group. -/
theorem matchesEither_iff_of_denotes {a c : Point} {A C : curve.Point} (ha : Denotes a A)
    (hc : Denotes c C) :
    matchesEither r a c = .value true
      ↔ HasAbscissa (A + C) r ∨ A + C ≠ 0 ∧ HasAbscissa (A - C) r := by
  rw [matchesEither_eq_true_iff, (ha.add hc).x?_eq_some_iff, (ha.sub hc).x?_eq_some_iff, ne_eq,
    (ha.add hc).eq_infinity_iff]

/-- **Inverting twice:** from the inverse of a scalar its inverse is that scalar. -/
theorem recomputed_inverse {s : Fp} (hw : w.val < Scalar.order)
    (hs : Scalar.inverse? w = some s) : Modular.inverse? s.val Scalar.order = some w.val := by
  obtain ⟨-, hmul⟩ := Scalar.inverse?_eq_some_iff.1 hs
  rw [Modular.inverse?_eq_some_iff Scalar.order_pos, Nat.mul_comm]
  exact ⟨hw, hmul⟩

/-- The inverse of `w` is that of its residue. -/
theorem val_inverse {s : Fp} (hs : Scalar.inverse? w = some s) :
    s.val = ((w.val : ZMod Scalar.order)⁻¹).val := by
  obtain ⟨hlt, hmul⟩ := Scalar.inverse?_eq_some_iff.1 hs
  exact (Scalar.val_inv_of_modEq hlt hmul).symm

/-- **What is accepted** is so with the point that the verifier lifts. -/
theorem exists_accepts_of_verify (hv : Production.verify q h r w = .value true) :
    ∃ Q, Accepts q h r w Q := by
  obtain ⟨hwr, s, hs, hv⟩ := Production.verify_eq_true_iff_exists.1 hv
  obtain ⟨hh, hr, hsr, p, u, hp, hu, -, hm⟩ := verify_eq_true_iff.1 hv
  have hw := recomputed_inverse (hwr.2.trans Scalar.bound_lt_order) hs
  obtain rfl : w.val = u := Option.some.inj (hw.symm.trans hu)
  obtain ⟨Q, hpQ, hQ⟩ := exists_denotes_of_lift? hp
  have hsums := (matchesEither_iff_of_denotes (denotes_mul_generator _) (hpQ.mul _)).1 hm
  have hlt : ((w.val : ZMod Scalar.order)⁻¹).val < 2 ^ 251 := by
    rw [← val_inverse hs]
    exact hsr.2
  exact ⟨Q, hwr, hlt, hh, hr, hQ, hsums.imp_right And.right⟩

/-- **What is accepted with either point over the key,** provided that neither sum is infinity. -/
theorem verify_of_accepts (ha : Accepts q h r w Q) (hsum : sumPoint h r w Q ≠ 0)
    (hdiff : differencePoint h r w Q ≠ 0) : Production.verify q h r w = .value true := by
  have hwlt : w.val < Scalar.order := ha.w_range.2.trans Scalar.bound_lt_order
  obtain ⟨s, hs⟩ := Scalar.exists_inverse? (Nat.not_dvd_of_pos_of_lt ha.w_range.1 hwlt)
  have hsr : 0 < s.val ∧ s.val < bound := by
    refine ⟨(Scalar.inverse?_range hs).1, ?_⟩
    rw [val_inverse hs]
    exact ha.inverse_lt
  obtain ⟨p, hp, hpQ⟩ := exists_lift?_of_hasAbscissa ha.key
  refine Production.verify_eq_true_iff_exists.2 ⟨ha.w_range, s, hs, verify_eq_true_iff.2
    ⟨ha.hash_lt, ha.r_range, hsr, p, w.val, hp, recomputed_inverse hwlt hs, ha.w_range, ?_⟩⟩
  rcases hpQ with hpQ | hpQ
  · rw [matchesEither_iff_of_denotes (denotes_mul_generator _) (hpQ.mul _)]
    exact ha.matching.imp_right fun h => ⟨hsum, h⟩
  · -- the lifted point is the negative of `Q`, and the two sums change places
    rw [matchesEither_iff_of_denotes (denotes_mul_generator _) (hpQ.mul _), neg_nsmul,
      sub_neg_eq_add, ← sub_eq_add_neg]
    exact ha.matching.symm.imp_right fun h => ⟨hdiff, h⟩

end Ecdsa

namespace Bridge

/-! ### On the wire -/

/-- What a run of the signing operation on the residues of key, message and nonce does. -/
structure SignsByEquation (d m k : ℕ) (run : Run Unit (Except Error (Bytes 64))) : Prop where
  /-- There is an answer just when there is a signature. -/
  ok_iff : (∃ sig, run.answer = .ok sig) ↔ ∃ r, Ecdsa.Signable d m k r
  /-- The answer is `r` and the `w` that solves the equation and is inverted to `s`. -/
  signed {r : Fp} (h : Ecdsa.Signable d m k r) : ∃ w : Fp, run.answer = .ok (wirePair (r, w)) ∧
    (0 < w.val ∧ w.val < Scalar.order) ∧ w.val * (m + r.val * d) ≡ k [MOD Scalar.order] ∧
    Scalar.invertModOrder w.toU256 = some (.ofNat (Ecdsa.solution d m k r.val))
  /-- There is one error only. -/
  refused (h : ¬ ∃ r, Ecdsa.Signable d m k r) : run.answer = .error .unknownPrimitiveFailure
  /-- An `s` without an inverse is never met with. -/
  invertible : .faulted "sign" "sign: s has no inverse" ∉ run.log

/-- Signing logs the one call that it makes. -/
theorem sign_log (d m k : Bytes 32) :
    (sign Production.primitives d.toList m.toList k.toList ()).log
      = [Exchange.event ⟨.sign (scalar d) (element m) (scalar k),
          Production.sign (scalar d) (element m) (scalar k)⟩] := by
  rw [sign, Procedure.sign_toList]
  exact Program.log_map_request _ _ _

/-- There is an answer where there is a signature. -/
theorem exists_sign_eq_ok_iff {d m k : Bytes 32} :
    (∃ sig, (sign Production.primitives d.toList m.toList k.toList ()).answer = .ok sig)
      ↔ ∃ r, Ecdsa.Signable (scalar d).val (element m).val (scalar k).val r := by
  rw [← Ecdsa.exists_isSignature_iff, ← Production.exists_sign_eq_value_iff]
  simp only [sign_answer, outcome_eq_ok_iff]
  exact ⟨fun ⟨_, a, ha, _⟩ => ⟨a, ha⟩, fun ⟨a, ha⟩ => ⟨_, a, ha, rfl⟩⟩

/-- Signing never reports that `s` has no inverse. -/
theorem uninvertible_not_mem_sign_log (d m k : Bytes 32) :
    .faulted "sign" "sign: s has no inverse"
      ∉ (sign Production.primitives d.toList m.toList k.toList ()).log := by
  rw [sign_log, List.mem_singleton]
  rcases hs : Production.sign (scalar d) (element m) (scalar k) with a | f | _
  · exact fun h => nomatch h
  · intro h
    have hmessage : "sign: s has no inverse" = f.message := (Event.faulted.inj h).2
    rcases Production.sign_fault hs with rfl | rfl | rfl <;>
      exact absurd hmessage (by decide)
  · exact fun h => nomatch h

/-- **The answer of signing satisfies the equation,** and there is one wherever the equation has a
solution in range, under any key. -/
theorem sign_satisfies_equation (d m k : Bytes 32) :
    SignsByEquation (d.value % Scalar.order) (m.value % Fp.prime) (k.value % Scalar.order)
      (sign Production.primitives d.toList m.toList k.toList ()) := by
  rw [← val_scalar d, ← val_scalar k, ← Fp.val_ofNat]
  refine ⟨exists_sign_eq_ok_iff, ?_, ?_, uninvertible_not_mem_sign_log d m k⟩
  · intro r h
    obtain ⟨w, hw, hrange, hequation, hback⟩ := h.exists_sign (m := element m)
    exact ⟨w, sign_eq_ok_iff.2 ⟨r, w, hw, rfl⟩, hrange, hequation, hback⟩
  · intro h
    rw [sign_answer, outcome_eq_error_iff]
    intro a ha
    exact h (exists_sign_eq_ok_iff.1 ⟨_, sign_eq_ok_iff.2 ⟨_, _, ha, rfl⟩⟩)

/-- The base point has the abscissa of the generator. -/
theorem hasAbscissa_base : HasAbscissa (1 • base) baseX :=
  hasAbscissa_nsmul_base_iff.2 (by decide +kernel)

/-- The key `n + 2`, the message `p + 1` and the nonce `n + 1` are signed as 2, 1 and 1. -/
theorem sign_satisfies_equation_unreduced :
    Ecdsa.Signable ((Bytes.ofValue 32 (Scalar.order + 2)).value % Scalar.order)
      ((Bytes.ofValue 32 (Fp.prime + 1)).value % Fp.prime)
      ((Bytes.ofValue 32 (Scalar.order + 1)).value % Scalar.order) baseX ∧
    (sign Production.primitives (Bytes.ofValue 32 (Scalar.order + 2)).toList
        (Bytes.ofValue 32 (Fp.prime + 1)).toList (Bytes.ofValue 32 (Scalar.order + 1)).toList
        ()).answer
      = .ok (wirePair (baseX,
          .ofNat 0x55f914b8beb1d9273b1042891fb5348d5be79226dcd85177fa5cfe95f7346f)) := by
  have hd : (Bytes.ofValue 32 (Scalar.order + 2)).value % Scalar.order = 2 := by decide +kernel
  have hm : (Bytes.ofValue 32 (Fp.prime + 1)).value % Fp.prime = 1 := by decide +kernel
  have hk : (Bytes.ofValue 32 (Scalar.order + 1)).value % Scalar.order = 1 := by decide +kernel
  have hs : 0x3de2b830b332e36f7d9da82b481e18fbd59fb361a3033c07ae47b1792879f95
      = Ecdsa.solution 2 1 1 baseX.val :=
    (Ecdsa.eq_solution_iff (by decide) (by decide)).2 (by decide +kernel)
  have hsigns := sign_satisfies_equation (.ofValue 32 (Scalar.order + 2))
    (.ofValue 32 (Fp.prime + 1)) (.ofValue 32 (Scalar.order + 1))
  rw [hd, hm, hk] at hsigns ⊢
  have h : Ecdsa.Signable 2 1 1 baseX :=
    ⟨by decide, by decide, hasAbscissa_base, by decide +kernel, by rw [← hs]; decide⟩
  obtain ⟨w, hanswer, hrange, hequation, -⟩ := hsigns.signed h
  -- the equation has one solution only
  have hw : w = .ofNat 0x55f914b8beb1d9273b1042891fb5348d5be79226dcd85177fa5cfe95f7346f :=
    Fp.ext (Modular.eq_of_mul_modEq_one hrange.2 (by decide +kernel) hequation
      (by decide +kernel))
  rw [← hw]
  exact ⟨h, hanswer⟩

/-- **The verdict, by the two sums.**  A yes means that all is in range, that one of the sums
matches, and that the inverse of the inverse of `w` is `w`; and where all is in range and one of
them matches, the verdict is yes, unless one of them is infinity. -/
theorem verdict_by_sums (q h r w : Bytes 32) :
    ((verify Production.primitives q.toList h.toList r.toList w.toList ()).answer = true →
      (∃ Q, Ecdsa.Accepts (element q) (element h) (element r) (element w) Q) ∧
      ∃ s, Scalar.inverse? (element w) = some s ∧
        Modular.inverse? s.val Scalar.order = some (element w).val) ∧
    ∀ Q, Ecdsa.Accepts (element q) (element h) (element r) (element w) Q →
      Ecdsa.sumPoint (element h) (element r) (element w) Q ≠ 0 →
      Ecdsa.differencePoint (element h) (element r) (element w) Q ≠ 0 →
      (verify Production.primitives q.toList h.toList r.toList w.toList ()).answer = true := by
  constructor
  · intro h
    rw [verify_answer_eq_true_iff] at h
    obtain ⟨Q, hQ⟩ := Ecdsa.exists_accepts_of_verify h
    obtain ⟨-, s, hs, -⟩ := Production.verify_eq_true_iff_exists.1 h
    have hw : (element w).val < Scalar.order := hQ.w_range.2.trans Scalar.bound_lt_order
    exact ⟨⟨Q, hQ⟩, s, hs, Ecdsa.recomputed_inverse hw hs⟩
  · intro Q hQ hsum hdiff
    rw [verify_answer_eq_true_iff]
    exact Ecdsa.verify_of_accepts hQ hsum hdiff

/-- The hash that is signed with `w = 2` under the key 1 with the nonce 1. -/
def halvingHash : ℕ := 0x210ea3e7a6668ed041312bea5bf0f37fd138b9bd85bbf38d1c113950d9f56ce

/-- That signature, with nothing on the wire reduced: the sum is the generator, and the difference
is not infinity. -/
theorem verdict_by_sums_unreduced :
    (Ecdsa.Accepts (element (.ofValue 32 (Fp.prime + baseX.val)))
        (element (.ofValue 32 (Fp.prime + halvingHash)))
        (element (.ofValue 32 (Fp.prime + baseX.val))) (element (.ofValue 32 (Fp.prime + 2)))
        base ∧
      Ecdsa.sumPoint (element (.ofValue 32 (Fp.prime + halvingHash)))
        (element (.ofValue 32 (Fp.prime + baseX.val))) (element (.ofValue 32 (Fp.prime + 2)))
        base ≠ 0 ∧
      Ecdsa.differencePoint (element (.ofValue 32 (Fp.prime + halvingHash)))
        (element (.ofValue 32 (Fp.prime + baseX.val))) (element (.ofValue 32 (Fp.prime + 2)))
        base ≠ 0) ∧
    (verify Production.primitives (Bytes.ofValue 32 (Fp.prime + baseX.val)).toList
      (Bytes.ofValue 32 (Fp.prime + halvingHash)).toList
      (Bytes.ofValue 32 (Fp.prime + baseX.val)).toList (Bytes.ofValue 32 (Fp.prime + 2)).toList
      ()).answer = true := by
  have hverdict := (verdict_by_sums (.ofValue 32 (Fp.prime + baseX.val))
    (.ofValue 32 (Fp.prime + halvingHash)) (.ofValue 32 (Fp.prime + baseX.val))
    (.ofValue 32 (Fp.prime + 2))).2 base
  have hx : element (.ofValue 32 (Fp.prime + baseX.val)) = baseX := by decide +kernel
  have hh : element (.ofValue 32 (Fp.prime + halvingHash)) = .ofNat halvingHash := by
    decide +kernel
  have hw : element (.ofValue 32 (Fp.prime + 2)) = 2 := by decide +kernel
  rw [hx, hh, hw] at hverdict ⊢
  have hinverse : (((2 : Fp).val : ZMod Scalar.order)⁻¹).val
      = 0x4000000000000087fffffffffffffffdbc08936e573d9190f335120d6e32698 :=
    Scalar.val_inv_of_modEq (by decide) (by decide +kernel)
  have hsum : HasAbscissa (Ecdsa.sumPoint (.ofNat halvingHash) baseX 2 base) baseX := by
    rw [Ecdsa.sumPoint, ← add_nsmul, nsmul_base_eq_iff.2
      (show _ ≡ 1 [MOD Scalar.order] by decide +kernel)]
    exact hasAbscissa_base
  have hdiff : Ecdsa.differencePoint (.ofNat halvingHash) baseX 2 base ≠ 0 := by
    rw [Ecdsa.differencePoint, sub_ne_zero, ne_eq, nsmul_base_eq_iff]
    decide +kernel
  have hkey : HasAbscissa base baseX := by
    simpa using hasAbscissa_base
  have haccepts : Ecdsa.Accepts baseX (.ofNat halvingHash) baseX 2 base :=
    ⟨by decide +kernel, by rw [hinverse]; decide, by decide +kernel, by decide +kernel, hkey,
      .inl hsum⟩
  exact ⟨⟨haccepts, hsum.ne_zero, hdiff⟩, hverdict haccepts hsum.ne_zero hdiff⟩

end Bridge
end StarkWire
