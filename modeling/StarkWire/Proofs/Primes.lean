/-
# The two moduli are prime

Both are proved prime by one chain of Lucas's tests.  For the field modulus `p - 1 = 2 ^ 192 * q`
has small factors only.  For the order, `n - 1` has a prime factor of 202 bits, which is proved
prime in the same way, and so on down the chain of largest factors; 3 generates the units modulo
both `p` and `n`.

The two lie close together, `2 ^ 251 < n < p`, and both are odd.
-/

import StarkWire.Field
import StarkWire.Scalar
import StarkWire.Curve.Ecdsa
import StarkWire.Proofs.Modular.Power
import Mathlib.Tactic.NormNum.Prime

namespace StarkWire

/-- The primes at the foot of the chain. -/
def smallPrimes : List ℕ :=
  [2, 3, 5, 7, 13, 17, 19, 37, 41, 43, 53, 61, 67, 2887, 4391, 131797, 565787, 1481071, 10108547,
    22206313, 74436419, 74837449, 98714381, 166848103]

/-- The chain up to the two moduli.  The last number but one is the largest prime factor of
`n - 1`. -/
def primeChain : List Modular.LucasStep :=
  [⟨Fp.prime, 3, List.replicate 192 2 ++ [5, 7, 98714381, 166848103]⟩,
    ⟨11753132899, 3, [2, 3, 13, 19, 41, 67, 2887]⟩,
    ⟨12904939923103, 3, [2, 3, 3, 61, 11753132899]⟩,
    ⟨1803099112058626586861, 2, [2, 2, 5, 37, 43, 4391, 12904939923103]⟩,
    ⟨28547348873, 3, [2, 2, 2, 7, 17, 53, 565787]⟩,
    ⟨5470365079085120887157193270902448565659295524958143968059153, 15,
      [2, 2, 2, 2, 3, 131797, 10108547, 22206313, 74837449, 28547348873,
        1803099112058626586861]⟩,
    ⟨Scalar.order, 3, [2, 3, 1481071, 74436419,
      5470365079085120887157193270902448565659295524958143968059153]⟩]

/-- The small primes are found prime by trial division. -/
theorem prime_of_mem_smallPrimes : ∀ q ∈ smallPrimes, q.Prime := by
  simp only [smallPrimes, List.forall_mem_cons]
  norm_num

/-- Every number of the chain is prime: its test rests on primes that stand before it. -/
theorem prime_of_mem_primeChain : ∀ p ∈ primeChain.map Modular.LucasStep.m, p.Prime :=
  Modular.prime_of_chainPasses prime_of_mem_smallPrimes (by decide +kernel)

/-- **The modulus of the field is prime,** as the chain ends with it. -/
theorem Fp.prime_prime : Fp.prime.Prime :=
  prime_of_mem_primeChain _ (List.mem_of_getElem? (i := 0) rfl)

/-- **The order of the curve is prime,** by its own chain. -/
theorem Scalar.prime_order : Scalar.order.Prime :=
  prime_of_mem_primeChain _ (List.mem_of_getElem? (i := 6) rfl)

instance : Fact Fp.prime.Prime := ⟨Fp.prime_prime⟩

instance : Fact Scalar.order.Prime := ⟨Scalar.prime_order⟩

namespace Scalar

/-- There are scalars. -/
theorem order_pos : 0 < order := prime_order.pos

/-- Every scalar is the representative of a field element. -/
theorem order_lt_prime : order < Fp.prime := by decide

/-- What the library accepts as a scalar of a signature is below the order. -/
theorem bound_lt_order : Ecdsa.bound < order := by decide

end Scalar
end StarkWire
