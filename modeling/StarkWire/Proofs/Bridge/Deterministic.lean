/-
# Primitives that reply in one way

Primitives may count or record what they are asked, and still reply to each request in one fixed
way (`RepliesWith`).  Then the answer of an operation is a function of its arguments: what the
reply gives, as wire bytes, whatever the state.

Keys, messages and signatures reach such primitives only through bytes: the key is reduced when the
public key is derived and again for signing, the message for signing and again for verifying, and
both parts of the signature are written, joined, cut apart and read.  Nothing of this is noticed:
if the primitives verify what they sign (`Faithful`), so does the bridge
(`signature_verifies_over_wire`).
-/

import StarkWire.Proofs.Bridge.Sizes
import StarkWire.Proofs.Bridge.Traffic

namespace StarkWire
namespace Bridge

variable {α β σ : Type}

/-! ### Replies and answers -/

/-- There is an answer just when the reply is a value that it is made of. -/
theorem outcome_eq_ok_iff {f : α → β} {reply : Reply α} {b : β} :
    outcome f reply = .ok b ↔ ∃ a, reply = .value a ∧ f a = b := by
  cases reply <;> simp [outcome]

/-- The operation fails just when the reply is no value. -/
theorem outcome_eq_error_iff {f : α → β} {reply : Reply α} :
    outcome f reply = .error .unknownPrimitiveFailure ↔ ∀ a, reply ≠ .value a := by
  cases reply <;> simp [outcome]

/-- Canonical bytes are read as the element that they were made of. -/
theorem element_wire (a : Fp) : element (wire a) = a := by
  rw [← toWire_eq_wire, element_toWire]

/-- Canonical bytes denote the representative. -/
theorem value_wire (a : Fp) : (wire a).value = a.val := by
  rw [← toWire_eq_wire, Fp.value_toWire]

/-- The first half of a signature on the wire is `r`. -/
@[simp] theorem rBytes_wirePair (sig : Fp × Fp) : rBytes (wirePair sig) = wire sig.1 :=
  Bytes.front_append (m := 32) (n := 32) _ _

/-- The second half of a signature on the wire is `w`. -/
@[simp] theorem wBytes_wirePair (sig : Fp × Fp) : wBytes (wirePair sig) = wire sig.2 :=
  Bytes.back_append (m := 32) (n := 32) _ _

/-- The primitives reply to each request in one way, whatever their state. -/
def RepliesWith (P : Primitives σ) (f : (q : Request) → Reply q.Answer) : Prop :=
  ∀ q s, (P.reply q s).1 = f q

namespace RepliesWith

variable {P : Primitives σ} {f : (q : Request) → Reply q.Answer} (hP : RepliesWith P f)
include hP

/-- The public key is the reply for the key as a scalar. -/
theorem publicKey_answer (d : Bytes 32) (s : σ) :
    (publicKey P d.toList s).answer = outcome wire (f (.publicKey (scalar d))) := by
  rw [← hP _ s]
  exact ((exactTraffic P s).publicKey d).answer

/-- The signature is the reply for key and nonce as scalars. -/
theorem sign_answer (d m k : Bytes 32) (s : σ) :
    (sign P d.toList m.toList k.toList s).answer
      = outcome wirePair (f (.sign (scalar d) (element m) (scalar k))) := by
  rw [← hP _ s]
  exact ((exactTraffic P s).sign d m k).answer

/-- The verdict is the reply, or false if it is no value. -/
theorem verify_answer (q h r w : Bytes 32) (s : σ) :
    (verify P q.toList h.toList r.toList w.toList s).answer
      = (outcome id (f (.verify (element q) (element h) (element r) (element w)))).toOption.getD
          false := by
  rw [← hP _ s]
  exact ((exactTraffic P s).verify q h r w).answer

/-- A derived nonce goes into the signing request as it came. -/
theorem signDeterministic_eq_ok_iff {d m : Bytes 32} {seed : Option (Bytes 32)} {s : σ}
    {sig : Bytes 64} :
    (signDeterministic P d.toList m.toList (seed.map Bytes.toList) s).answer = .ok sig
      ↔ ∃ k, f (.nonce (element m) (scalar d) (seed.map element)) = .value k ∧
          outcome wirePair (f (.sign (scalar d) (element m) k)) = .ok sig := by
  obtain ⟨failed, answered⟩ := (exactTraffic P s).signDeterministic d m seed
  simp only [hP _ _] at failed answered
  constructor
  · intro h
    by_cases hk : ∃ k, f (.nonce (element m) (scalar d) (seed.map element)) = .value k
    · obtain ⟨k, hk⟩ := hk
      exact ⟨k, hk, (answered k hk).2.2.symm.trans h⟩
    · rw [not_exists] at hk
      cases (failed hk).2.2.symm.trans h
  · rintro ⟨k, hk, h⟩
    exact (answered k hk).2.2.trans h

end RepliesWith

/-! ### Signatures over the wire -/

/-- What is signed under a key is verified under its public key. -/
def Faithful (f : (q : Request) → Reply q.Answer) : Prop :=
  ∀ x m k q r w, f (.publicKey x) = .value q → f (.sign x m k) = .value (r, w) →
    f (.verify q m r w) = .value true

/-- In some state, some nonce or some seed makes this the signature of the message under the
private key. -/
def SignedOver (P : Primitives σ) (d m : Buffer) (sig : Bytes 64) : Prop :=
  (∃ k s, (sign P d m k s).answer = .ok sig) ∨
    ∃ seed s, (signDeterministic P d m seed s).answer = .ok sig

/-- An argument of the right length is 32 bytes. -/
theorem exists_toList {a : Argument} (h : a.Sized) : ∃ b : Bytes 32, b.toList = a.buffer :=
  ⟨⟨a.buffer, h⟩, rfl⟩

/-- A seed that is read is none or 32 bytes. -/
theorem exists_seed {seed : Option Buffer}
    (h : ∀ a ∈ seed.toList.map (⟨.element, "seed", ·⟩ : Buffer → Argument), a.Sized) :
    ∃ b : Option (Bytes 32), b.map Bytes.toList = seed := by
  cases seed with
  | none => exact ⟨none, rfl⟩
  | some seed =>
    obtain ⟨b, rfl⟩ := exists_toList (h ⟨.element, "seed", seed⟩ List.mem_cons_self)
    exact ⟨some b, rfl⟩

/-- However it was made, a signature carries a pair that the primitives signed with. -/
theorem SignedOver.exists_sign {P : Primitives σ} {f : (q : Request) → Reply q.Answer}
    (hP : RepliesWith P f) {d m : Buffer} {sig : Bytes 64} (h : SignedOver P d m sig) :
    ∃ (d' m' : Bytes 32) (k r w : Fp), d'.toList = d ∧ m'.toList = m ∧
      f (.sign (scalar d') (element m') k) = .value (r, w) ∧ wirePair (r, w) = sig := by
  rcases h with ⟨k, s, h⟩ | ⟨seed, s, h⟩
  -- there is a signature, so no argument was rejected: all of them are wire bytes
  · have hargs := (Procedure.screens_sign d m k).sized_of_ok P s h
    simp only [List.forall_mem_cons] at hargs
    obtain ⟨hd, hm, hk, -⟩ := hargs
    obtain ⟨d, rfl⟩ := exists_toList hd
    obtain ⟨m, rfl⟩ := exists_toList hm
    obtain ⟨k, rfl⟩ := exists_toList hk
    rw [hP.sign_answer, outcome_eq_ok_iff, Prod.exists] at h
    obtain ⟨r, w, hs, rfl⟩ := h
    exact ⟨d, m, scalar k, r, w, rfl, rfl, hs, rfl⟩
  · have hargs := (Procedure.screens_signDeterministic d m seed).sized_of_ok P s h
    simp only [List.cons_append, List.nil_append, List.forall_mem_cons] at hargs
    obtain ⟨hd, hm, hseed⟩ := hargs
    obtain ⟨d, rfl⟩ := exists_toList hd
    obtain ⟨m, rfl⟩ := exists_toList hm
    obtain ⟨seed, rfl⟩ := exists_seed hseed
    obtain ⟨k, -, h⟩ := hP.signDeterministic_eq_ok_iff.1 h
    rw [outcome_eq_ok_iff, Prod.exists] at h
    obtain ⟨r, w, hs, rfl⟩ := h
    exact ⟨d, m, k, r, w, rfl, rfl, hs, rfl⟩

/-- **The wire keeps signatures valid.**  If the primitives verify what they sign, then whatever
the bridge has signed under a private key it verifies under the public key of that key, from one
buffer or from two, in whatever states the calls are made. -/
theorem signature_verifies_over_wire {P : Primitives σ} {f : (q : Request) → Reply q.Answer}
    (hP : RepliesWith P f) (hf : Faithful f) {d m : Buffer} {pub : Bytes 32} {sig : Bytes 64}
    {s₀ : σ} (hpub : (publicKey P d s₀).answer = .ok pub) (hsig : SignedOver P d m sig) (s : σ) :
    (verify P pub.toList m (rBytes sig).toList (wBytes sig).toList s).answer = true ∧
    (verifySignature P pub.toList m sig.toList s).answer = true := by
  obtain ⟨d, m, k, r, w, rfl, rfl, hs, rfl⟩ := hsig.exists_sign hP
  rw [hP.publicKey_answer, outcome_eq_ok_iff] at hpub
  obtain ⟨x, hx, rfl⟩ := hpub
  have hv : (verify P (wire x).toList m.toList (wire r).toList (wire w).toList s).answer
      = true := by
    rw [hP.verify_answer, element_wire, element_wire, element_wire, hf _ _ _ _ _ _ hx hs]
    rfl
  rw [verifySignature_toList, rBytes_wirePair, wBytes_wirePair]
  exact ⟨hv, hv⟩

/-- Sums in place of the curve: the signature of `m` under `x` with nonce `k` is `(k, x + m)`. -/
def sumAnswer : (q : Request) → q.Answer
  | .pedersen a b => a + b
  | .sign key message k => (k, key + message)
  | .verify key message _ w => key + message = w
  | .publicKey key => key
  | .permute s => s
  | .nonce message key _ => message + key

/-- Primitives that compute sums and count what they are asked. -/
def summing : Primitives ℕ := ⟨fun q n => (.value (sumAnswer q), n + 1)⟩

/-- Key `n + 5`, message `p + 2` and nonce `2 n + 3` are signed as 5, 2 and 3. -/
theorem signature_verifies_over_sums :
    RepliesWith summing (fun q => .value (sumAnswer q)) ∧
    Faithful (fun q => .value (sumAnswer q)) ∧
    (publicKey summing (Bytes.ofValue 32 (Scalar.order + 5)).toList 0).answer = .ok (wire 5) ∧
    SignedOver summing (Bytes.ofValue 32 (Scalar.order + 5)).toList
      (Bytes.ofValue 32 (Fp.prime + 2)).toList (wirePair (3, 7)) ∧
    (verifySignature summing (wire 5).toList (Bytes.ofValue 32 (Fp.prime + 2)).toList
      (wirePair (3, 7)).toList 2).answer = true := by
  have hP : RepliesWith summing (fun q => .value (sumAnswer q)) := fun q s => rfl
  have hf : Faithful (fun q => .value (sumAnswer q)) := by
    rintro x m k q r w hq hs
    obtain rfl : x = q := Reply.value.inj hq
    obtain ⟨rfl, rfl⟩ := Prod.mk.inj (Reply.value.inj hs)
    simp [sumAnswer]
  have hpub : (publicKey summing (Bytes.ofValue 32 (Scalar.order + 5)).toList 0).answer
      = .ok (wire 5) := by
    rw [hP.publicKey_answer]
    decide +kernel
  have hsig : SignedOver summing (Bytes.ofValue 32 (Scalar.order + 5)).toList
      (Bytes.ofValue 32 (Fp.prime + 2)).toList (wirePair (3, 7)) := by
    refine .inl ⟨(Bytes.ofValue 32 (2 * Scalar.order + 3)).toList, 1, ?_⟩
    rw [hP.sign_answer]
    decide +kernel
  exact ⟨hP, hf, hpub, hsig, (signature_verifies_over_wire hP hf hpub hsig 2).2⟩

end Bridge
end StarkWire
