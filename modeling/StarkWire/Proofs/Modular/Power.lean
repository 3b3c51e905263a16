/-
# Powers by squaring, and primes

`pow` computes the power that its name says (`pow_eq`), with a number of multiplications that is
linear in the length of the exponent.  That makes Lucas's test cheap for primes of 252 bits: a
number `m` is prime if some `a` has order `m - 1` modulo `m`, which is the case when its power
`m - 1` is one and none of its powers `(m - 1) / q` is, for the primes `q` that divide `m - 1`
(`prime_of_lucas`).

The larger of these `q` are proved prime in the same way, so a large prime comes at the end of a
chain of steps, each resting on those before it (`prime_of_chainPasses`).
-/

import StarkWire.Modular
import Mathlib.Data.List.Prime
import Mathlib.NumberTheory.LucasPrimality

namespace StarkWire
namespace Modular

/-- The low `w + 1` bits are twice the low `w` bits of the half, and the last bit. -/
theorem mod_two_pow_succ (e w : ℕ) :
    e % 2 ^ (w + 1) = e / 2 % 2 ^ w + e / 2 % 2 ^ w + e % 2 := by
  rw [Nat.pow_succ', Nat.mod_mul]
  omega

/-- The low `w` bits of the exponent are used up by `w` squarings. -/
theorem powBits_eq (m b w e : ℕ) : powBits m b w e = b ^ (e % 2 ^ w) % m := by
  induction w generalizing e with
  | zero => simp [powBits, Nat.mod_one]
  | succ w ih =>
    have hsq : b ^ (e / 2 % 2 ^ w) % m * (b ^ (e / 2 % 2 ^ w) % m) % m =
        b ^ (e / 2 % 2 ^ w + e / 2 % 2 ^ w) % m := by
      rw [← Nat.mul_mod, ← pow_add]
    simp only [powBits, ih, hsq, mod_two_pow_succ]
    split
    · rename_i h
      rw [h, pow_succ, Nat.mod_mul_mod]
    · rename_i h
      rw [Nat.mod_two_ne_one.1 h, Nat.add_zero]

/-- **The loop computes the power.**  The width that it takes is enough for all bits of the
exponent. -/
theorem pow_eq (m b e : ℕ) : pow m b e = b ^ e % m := by
  rw [pow, powBits_eq, Nat.mod_eq_of_lt Nat.lt_log2_self]

/-- A power is 1 in the ring of residues just when the computed power is 1. -/
theorem natCast_pow_eq_one_iff {m : ℕ} (hm : 1 < m) (a e : ℕ) :
    (a : ZMod m) ^ e = 1 ↔ pow m a e = 1 := by
  rw [pow_eq, ← Nat.cast_pow, ← Nat.cast_one, ZMod.natCast_eq_natCast_iff', Nat.mod_eq_of_lt hm]

/-- **Lucas's test.**  `qs` are the prime factors of `m - 1`, each as often as it divides. -/
theorem prime_of_lucas {m : ℕ} (a : ℕ) (qs : List ℕ) (hm : 1 < m) (hq : ∀ q ∈ qs, q.Prime)
    (hprod : qs.prod = m - 1) (hone : pow m a (m - 1) = 1)
    (hne : ∀ q ∈ qs, pow m a ((m - 1) / q) ≠ 1) : m.Prime := by
  refine lucas_primality m (a : ZMod m) ((natCast_pow_eq_one_iff hm _ _).2 hone) ?_
  intro q hqp hdvd
  rw [← hprod, Prime.dvd_prod_iff hqp.prime] at hdvd
  obtain ⟨x, hx, hqx⟩ := hdvd
  obtain rfl := (Nat.prime_dvd_prime_iff_eq hqp (hq x hx)).1 hqx
  rw [ne_eq, natCast_pow_eq_one_iff hm]
  exact hne q hx

/-- One prime of a chain. -/
structure LucasStep where
  /-- The prime. -/
  m : ℕ
  /-- A generator of its units. -/
  base : ℕ
  /-- The prime factors of `m - 1`, each as often as it divides. -/
  factors : List ℕ

/-- The step passes Lucas's test, with factors that are all in `known`. -/
def LucasStep.passes (known : List ℕ) (s : LucasStep) : Bool :=
  1 < s.m ∧ (∀ q ∈ s.factors, q ∈ known) ∧ s.factors.prod = s.m - 1 ∧
    pow s.m s.base (s.m - 1) = 1 ∧ ∀ q ∈ s.factors, pow s.m s.base ((s.m - 1) / q) ≠ 1

/-- Every step passes, once those before it are known as well. -/
def chainPasses : (known : List ℕ) → List LucasStep → Bool
  | _, [] => true
  | known, s :: rest => s.passes known && chainPasses (s.m :: known) rest

/-- A step that passes its test proves its number to be prime, if the factors that it names are. -/
theorem LucasStep.prime_of_passes {known : List ℕ} (hk : ∀ q ∈ known, q.Prime) {s : LucasStep}
    (h : s.passes known = true) : s.m.Prime := by
  simp only [passes, decide_eq_true_eq] at h
  obtain ⟨hm, hq, hprod, hone, hne⟩ := h
  exact prime_of_lucas s.base s.factors hm (fun q hqs => hk q (hq q hqs)) hprod hone hne

/-- **A chain that passes proves its numbers prime.** -/
theorem prime_of_chainPasses {known : List ℕ} (hk : ∀ q ∈ known, q.Prime)
    {steps : List LucasStep} (h : chainPasses known steps = true) :
    ∀ p ∈ steps.map LucasStep.m, p.Prime := by
  induction steps generalizing known with
  | nil =>
    rintro p hp
    cases hp
  | cons s rest ih =>
    rw [chainPasses, Bool.and_eq_true] at h
    have hs := LucasStep.prime_of_passes hk h.1
    rw [List.map_cons, List.forall_mem_cons]
    refine ⟨hs, ih ?_ h.2⟩
    rw [List.forall_mem_cons]
    exact ⟨hs, hk⟩

end Modular
end StarkWire
