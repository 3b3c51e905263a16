/-
# Points over an abscissa

Two points of the curve lie over an abscissa, each the negative of the other.  `HasAbscissa` says
it of the points of the group; for the point that the program computes with it is what `x?` gives
(`Denotes.x?_eq_some_iff`).

`lift?` finds one of the two wherever there are any, and nothing else: what it finds denotes a point
over the abscissa (`exists_denotes_of_lift?`), and for each point over the abscissa it finds that
point or its negative (`exists_lift?_of_hasAbscissa`).
-/

import StarkWire.Proofs.Curve.Generator

namespace StarkWire

/-- Every class modulo the prime is that of an element. -/
theorem Fp.exists_residue_eq (z : ZMod prime) : ∃ a : Fp, a.residue = z :=
  ⟨.ofNat z.val, by rw [residue_ofNat, ZMod.natCast_zmod_val]⟩

/-- Which of its two values `smaller` picks does not show in the square. -/
theorem Fp.mul_self_smaller (x : Fp) : x.smaller * x.smaller = x * x := by
  unfold smaller
  split
  · rfl
  · rw [← residue_inj]
    simp

namespace Point

variable {p : Point} {P Q : curve.Point} {x : Fp}

/-- The element of the group is a point with the abscissa `x`. -/
def HasAbscissa (P : curve.Point) (x : Fp) : Prop :=
  ∃ (y : ZMod Fp.prime) (h : curve.Nonsingular x.residue y), P = .some x.residue y h

/-- The abscissa that is computed is that of the point in the group. -/
theorem Denotes.x?_eq_some_iff (h : Denotes p P) : p.x? = some x ↔ HasAbscissa P x := by
  cases h with
  | infinity =>
    refine iff_of_false (Option.some_ne_none x).symm ?_
    rintro ⟨y, hy, h⟩
    exact WeierstrassCurve.Affine.Point.some_ne_zero hy h.symm
  | @affine a b hab =>
    constructor
    · intro h
      obtain rfl := Option.some.inj h
      exact ⟨b.residue, hab, rfl⟩
    · rintro ⟨y, hy, h⟩
      obtain ⟨ha, -⟩ := WeierstrassCurve.Affine.Point.some.inj h
      exact congrArg some (Fp.residue_inj.1 ha)

/-- The program's form of a point over an abscissa. -/
theorem HasAbscissa.exists_denotes (h : HasAbscissa P x) : ∃ p, Denotes p P ∧ p.x? = some x := by
  obtain ⟨y, hy, rfl⟩ := h
  obtain ⟨b, rfl⟩ := Fp.exists_residue_eq y
  exact ⟨affine x b, .affine hy, rfl⟩

/-- Zero has no abscissa. -/
theorem HasAbscissa.ne_zero (h : HasAbscissa P x) : P ≠ 0 := by
  obtain ⟨y, hy, rfl⟩ := h
  exact WeierstrassCurve.Affine.Point.some_ne_zero hy

/-- A multiple of the generator has the abscissa that the program computes. -/
theorem hasAbscissa_nsmul_base_iff {k : ℕ} :
    HasAbscissa (k • base) x ↔ (generator.mul k).x? = some x :=
  (denotes_mul_generator k).x?_eq_some_iff.symm

/-- **What is lifted lies over the abscissa.** -/
theorem exists_denotes_of_lift? (h : lift? x = some p) : ∃ Q, Denotes p Q ∧ HasAbscissa Q x := by
  obtain ⟨y, hy, rfl⟩ := Option.map_eq_some_iff.1 h
  have hcurve : (affine x y.smaller).OnCurve :=
    (Fp.mul_self_smaller y).trans (Fp.mul_self_of_sqrt? hy)
  obtain ⟨Q, hQ⟩ := Denotes.exists_of_onCurve hcurve
  exact ⟨Q, hQ, hQ.x?_eq_some_iff.1 rfl⟩

/-- **A point over the abscissa is found, up to its sign.** -/
theorem exists_lift?_of_hasAbscissa (h : HasAbscissa Q x) :
    ∃ p, lift? x = some p ∧ (Denotes p Q ∨ Denotes p (-Q)) := by
  obtain ⟨p, hp, hx⟩ := h.exists_denotes
  rcases lift?_eq_or_eq_neg hp.onCurve hx with hl | hl
  · exact ⟨p, hl, .inl hp⟩
  · exact ⟨-p, hl, .inr hp.neg⟩

end Point
end StarkWire
