/-
# Multiples of the generator

The production primitives take multiples of the generator to derive a public key and to sign.  Here
that multiplication is a parameter: `Production.multiplyingWith multiply` is the set of production
primitives with `multiply` in its place (`multiplyingWith_mulGenerator`), so what scalars it is
handed can be told by what it may do on the others.

A request whose scalar is below the order hands it nonzero scalars below the order at most, since
zero is refused first; there every multiplication that is right does (`replyOver_eq`), and none of
these requests panics (`publicKey_ne_panic`, `sign_ne_panic`).
-/

import StarkWire.Proofs.Primitive.Production

namespace StarkWire

/-- The key or the nonce in the request is below the order. -/
def Request.Reduced : Request → Prop
  | .sign _ _ k => k.val < Scalar.order
  | .publicKey key => key.val < Scalar.order
  | _ => True

namespace Ecdsa

/-- The conventional signature, by a given multiplication of the generator. -/
def signOver (multiply : ℕ → Reply Fp) (d m k : Fp) : Reply (Fp × Fp) :=
  if m.val ≥ bound then signFault "Invalid message hash"
  else if k = 0 then signFault "Invalid k"
  else
    (multiply k.val).bind fun r =>
      if !inRange r.val then signFault "Invalid k"
      else
        (Reply.ofOption (Modular.inverse? k.val Scalar.order)).bind fun kInv =>
          let s := component r.val d.val m.val kInv
          if !inRange s then signFault "Invalid k" else .value (r, .ofNat s)

end Ecdsa

namespace Production

/-- A signature `(r, w)`, by a given multiplication of the generator. -/
def signOver (multiply : ℕ → Reply Fp) (key message k : Fp) : Reply (Fp × Fp) :=
  if k = 0 then Ecdsa.signFault "zero nonce"
  else
    (Ecdsa.signOver multiply key message k).bind fun (r, s) =>
      match Scalar.inverse? s with
      | some w => .value (r, w)
      | none => Ecdsa.signFault "s has no inverse"

/-- The abscissa of the public key, by a given multiplication of the generator. -/
def publicKeyOver (multiply : ℕ → Reply Fp) (key : Fp) : Reply Fp :=
  if key = 0 then .fault ⟨"get_public_key", "zero private key"⟩ else multiply key.val

/-- The reply to each request, with a given multiplication for keys and signatures. -/
def replyOver (multiply : ℕ → Reply Fp) : (q : Request) → Reply q.Answer
  | .sign key message k => signOver multiply key message k
  | .publicKey key => publicKeyOver multiply key
  | q => reply q

/-- The production primitives with a given multiplication for keys and signatures. -/
def multiplyingWith (multiply : ℕ → Reply Fp) : Primitives Unit :=
  ⟨fun q s => (replyOver multiply q, s)⟩

/-- With the multiplication of the library the replies are those of the production primitives. -/
theorem replyOver_mulGenerator (q : Request) : replyOver Ecdsa.mulGenerator q = reply q := by
  cases q <;> rfl

/-- With the multiplication that they use these are the production primitives. -/
theorem multiplyingWith_mulGenerator : multiplyingWith Ecdsa.mulGenerator = primitives := by
  simp only [multiplyingWith, replyOver_mulGenerator, primitives]

/-- The multiplication is that of the generator on the nonzero scalars below the order.  Elsewhere
it may do anything, such as panic. -/
def RightOnScalars (multiply : ℕ → Reply Fp) : Prop :=
  ∀ j, 0 < j → j < Scalar.order → multiply j = Ecdsa.mulGenerator j

/-- A representative is positive unless the element is zero. -/
theorem val_pos_of_ne_zero {k : Fp} (hk : k ≠ 0) : 0 < k.val :=
  Nat.pos_of_ne_zero fun h0 => hk (Fp.ext h0)

variable {multiply : ℕ → Reply Fp} {q : Request}

/-- **A reduced request hands on nonzero scalars only.** -/
theorem replyOver_eq (h : RightOnScalars multiply) (hq : q.Reduced) :
    replyOver multiply q = reply q := by
  have hscalar : ∀ k : Fp, k ≠ 0 → k.val < Scalar.order →
      multiply k.val = Ecdsa.mulGenerator k.val :=
    fun k hk hlt => h k.val (val_pos_of_ne_zero hk) hlt
  rw [← replyOver_mulGenerator]
  cases q with
  | sign key message k =>
    by_cases hk : k = 0
    · rw [replyOver, replyOver, signOver, signOver, if_pos hk, if_pos hk]
    · rw [replyOver, replyOver, signOver, signOver, Ecdsa.signOver, Ecdsa.signOver, hscalar k hk hq]
  | publicKey key =>
    by_cases hk : key = 0
    · rw [replyOver, replyOver, publicKeyOver, publicKeyOver, if_pos hk, if_pos hk]
    · rw [replyOver, replyOver, publicKeyOver, publicKeyOver, hscalar key hk hq]
  | _ => rfl

/-- A nonzero scalar is no multiple of the order. -/
theorem not_order_dvd_of_ne_zero {k : Fp} (hk : k ≠ 0) (hlt : k.val < Scalar.order) :
    ¬ Scalar.order ∣ k.val :=
  Nat.not_dvd_of_pos_of_lt (val_pos_of_ne_zero hk) hlt

/-- A reduced key is refused or has an abscissa. -/
theorem publicKey_ne_panic {d : Fp} (hd : d.val < Scalar.order) : publicKey d ≠ .panic := by
  unfold publicKey Ecdsa.mulGenerator
  split_ifs with h0
  · simp
  · obtain ⟨x, hx⟩ := Point.exists_x?_mul_generator (not_order_dvd_of_ne_zero h0 hd)
    rw [hx]
    simp [Reply.ofOption]

/-- With a reduced nonce the production primitives do not panic: a zero one is refused before the
library is asked. -/
theorem sign_ne_panic {d m k : Fp} (hk : k.val < Scalar.order) : sign d m k ≠ .panic := by
  unfold sign
  split_ifs with h0
  · simp [Ecdsa.signFault]
  · have hne := Ecdsa.sign_ne_panic (d := d) (m := m) (not_order_dvd_of_ne_zero h0 hk)
    rcases hs : Ecdsa.sign d m k with ⟨r, s⟩ | f | _
    · simp only [Reply.bind]
      split
      · simp
      · simp [Ecdsa.signFault]
    · simp [Reply.bind]
    · exact absurd hs hne

end Production
end StarkWire
