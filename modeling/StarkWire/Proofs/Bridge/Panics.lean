/-
# No panic in keys and signatures

The production primitives panic where a multiple of the generator is infinity, which is at the
multiples of the order, the order itself included.  The primitives refuse zero only.  That is enough
since every key and every nonce comes to them below the order: those that a caller gives are reduced
as they are read (`always_readScalar`), and a derived one is below the order already
(`noncesReduced_reply`).

So whatever the buffers are, deriving a public key and signing make requests with reduced scalars
only (`Program.Makes`).  On these no primitive panics, and the multiplication is handed nonzero
scalars below the order: what it does elsewhere does not show in a run (`never_panics`).
-/

import StarkWire.Proofs.Bridge.DerivedNonce
import StarkWire.Proofs.Bridge.Operation
import StarkWire.Proofs.Bridge.Production
import StarkWire.Proofs.Primitive.Multiplication

namespace StarkWire
namespace Bridge

variable {σ α β : Type}

/-! ### Requests of one kind -/

namespace Program

/-- All requests that the program makes on the replies `f` satisfy `φ`. -/
def Makes (f : (q : Request) → Reply q.Answer) (φ : Request → Prop) : Program α → Prop
  | done _ => True
  | ask q next => φ q ∧ ∀ a, f q = .value a → (next a).Makes f φ

variable {f : (q : Request) → Reply q.Answer} {φ : Request → Prop} {p : Program α}

/-- A single request is all that its program makes. -/
theorem makes_map_request {q : Request} (hq : φ q) (g : q.Answer → α) :
    ((request q).map g).Makes f φ :=
  ⟨hq, fun _ _ => trivial⟩

/-- Primitives that reply alike to the requests that are made have the same run. -/
theorem Makes.run_congr {P P' : Primitives σ} (hP : RepliesWith P f)
    (h : ∀ q s, φ q → P'.reply q s = P.reply q s) (hp : p.Makes f φ) (s : σ) :
    p.run P' s = p.run P s := by
  induction p generalizing s with
  | done a => rfl
  | ask q next ih =>
    have hq := hP q s
    rw [run, run, h q s hp.1]
    rcases hr : P.reply q s with ⟨a | e | _, s'⟩
    · rw [hr] at hq
      dsimp only
      rw [ih a (hp.2 a hq.symm)]
    · rfl
    · rfl

/-- Where no request that is made gets a panic for a reply, none is logged. -/
theorem Makes.panicked_not_mem_log {P : Primitives σ} (hP : RepliesWith P f)
    (h : ∀ q, φ q → f q ≠ .panic) (hp : p.Makes f φ) (s : σ) (operation : String) :
    .panicked operation ∉ (p.run P s).log := by
  induction p generalizing s with
  | done a => exact List.not_mem_nil
  | ask q next ih =>
    have hq := hP q s
    rw [run]
    rcases hr : P.reply q s with ⟨a | e | _, s'⟩
    · rw [hr] at hq
      exact fun hmem => ih a (hp.2 a hq.symm) s' ((List.mem_cons.1 hmem).resolve_left (by simp))
    · simp
    · rw [hr] at hq
      exact absurd hq.symm (h q hp.1)

end Program

/-! ### Keys and signatures -/

/-- A request with a reduced scalar to which the production primitives do not panic. -/
structure Handled (q : Request) : Prop where
  reduced : q.Reduced
  ne_panic : Production.reply q ≠ .panic

/-- A reduced key is multiplied or refused. -/
theorem handled_publicKey {d : Fp} (hd : d.val < Scalar.order) : Handled (.publicKey d) :=
  ⟨hd, Production.publicKey_ne_panic hd⟩

/-- A reduced nonce is multiplied or refused. -/
theorem handled_sign {d m k : Fp} (hk : k.val < Scalar.order) : Handled (.sign d m k) :=
  ⟨hk, Production.sign_ne_panic hk⟩

/-- Deriving a nonce multiplies nothing. -/
theorem handled_nonce (m d : Fp) (seed : Option Fp) : Handled (.nonce m d seed) :=
  ⟨trivial, fun h => nomatch h⟩

/-- **The generator derives nonzero scalars below the order.** -/
theorem nonce_range (message key : Fp) (seed : Option Fp) :
    0 < (Nonce.generate message key seed).val ∧
      (Nonce.generate message key seed).val < Scalar.order := by
  rw [Nonce.generate, Fp.val_ofNat,
    Nat.mod_eq_of_lt ((Nonce.search_range _ _).2.trans Scalar.order_lt_prime)]
  exact Nonce.search_range _ _

/-- So the production primitives answer with reduced nonces. -/
theorem noncesReduced_reply : NoncesReduced Production.reply := by
  intro message key seed k hk
  obtain rfl := Reply.value.inj hk
  exact (nonce_range message key seed).2

/-- A scalar that a caller gives is reduced as it is read. -/
theorem always_readScalar (argument : String) (buffer : Buffer) :
    Always (fun a => a.val < Scalar.order) (readScalar argument buffer) := by
  unfold readScalar
  split
  · refine always_ok ?_
    rw [Scalar.val_ofU256_reduce]
    exact Nat.mod_lt _ Scalar.order_pos
  · exact fun a h => nomatch h

/-- The operation makes requests with reduced scalars only, none of which gets a panic. -/
def Careful (c : Checked (Program α)) : Prop :=
  Always (fun p => p.Makes Production.reply Handled) c

/-- Deriving a key reduces it before the request. -/
theorem careful_publicKey (d : Buffer) : Careful (Procedure.publicKey d) :=
  (always_readScalar _ d).bind fun _ hkey =>
    always_ok (Program.makes_map_request (handled_publicKey hkey) _)

/-- Signing reduces the nonce before the request. -/
theorem careful_sign (d m k : Buffer) : Careful (Procedure.sign d m k) :=
  always_bind fun _ => always_bind fun _ => (always_readScalar _ k).bind fun _ hk =>
    always_ok (Program.makes_map_request (handled_sign hk) _)

/-- The nonce is not read from the wire here; the primitives derive it below the order. -/
theorem makes_signDeterministic (key message : Fp) (seed : Option Fp) :
    Program.Makes Production.reply Handled
      ((Program.request (.nonce message key seed)).bind fun k =>
        (Program.request (.sign key message k)).map wireSignature) := by
  refine ⟨handled_nonce message key seed, fun k hk => ?_⟩
  exact Program.makes_map_request (handled_sign (noncesReduced_reply _ _ _ _ hk)) _

/-- Deterministic signing takes a nonce that is reduced already. -/
theorem careful_signDeterministic (d m : Buffer) (seed : Option Buffer) :
    Careful (Procedure.signDeterministic d m seed) := by
  refine always_bind fun key => always_bind fun message => ?_
  cases seed with
  | none => exact always_ok (makes_signDeterministic key message none)
  | some seed => exact always_bind fun seed => always_ok (makes_signDeterministic key message seed)

/-- Over the production primitives no panic is caught, and the multiplication of the generator is
handed nonzero scalars below the order only: any that is right on those does. -/
structure Unpanicked (operation : Primitives Unit → Unit → Run Unit (Except Error α)) : Prop where
  no_panic (name : String) : .panicked name ∉ (operation Production.primitives ()).log
  scalars {multiply : ℕ → Reply Fp} (h : Production.RightOnScalars multiply) :
    operation (Production.multiplyingWith multiply) () = operation Production.primitives ()

/-- **A careful operation catches no panic,** and hands on only scalars on which multiplications
agree. -/
theorem Careful.unpanicked {c : Checked (Program α)} (hc : Careful c) :
    Unpanicked fun P => c.run P := by
  rcases c with e | p
  · exact ⟨fun name => by simp [Checked.run], fun _ => rfl⟩
  · have hp := hc p rfl
    -- every request is one that the primitives handle, whichever replies came before
    refine ⟨fun name => hp.panicked_not_mem_log repliesWith_reply (fun q hq => hq.ne_panic) () name,
      fun h => hp.run_congr repliesWith_reply (fun q s hq => ?_) ()⟩
    exact Prod.ext (Production.replyOver_eq h hq.reduced) rfl

/-- **A key is answered unless it is a multiple of the order.** -/
theorem exists_publicKey_iff {d : Bytes 32} :
    (∃ pub, (publicKey Production.primitives d.toList ()).answer = .ok pub)
      ↔ ¬ Scalar.order ∣ d.value := by
  have hval : (scalar d).val = d.value % Scalar.order := val_scalar d
  have hiff : (∃ pub, (publicKey Production.primitives d.toList ()).answer = .ok pub)
      ↔ ∃ x, (Point.generator.mul (scalar d).val).x? = some x := by
    constructor
    · rintro ⟨pub, h⟩
      obtain ⟨x, hx, -⟩ := publicKey_eq_ok_iff.1 h
      exact ⟨x, Production.publicKey_eq_value_iff.1 hx⟩
    · rintro ⟨x, hx⟩
      exact ⟨wire x, publicKey_eq_ok_iff.2 ⟨x, Production.publicKey_eq_value_iff.2 hx, rfl⟩⟩
  rw [hiff, ← Option.isSome_iff_exists, ← Option.ne_none_iff_isSome, ne_eq,
    Point.x?_mul_generator_eq_none_iff, hval, Nat.dvd_mod_iff (dvd_refl _)]

/-- **Deriving a key and signing never panic**, whatever the buffers are. -/
theorem never_panics (d m k : Buffer) (seed : Option Buffer) :
    Unpanicked (publicKey · d) ∧ Unpanicked (sign · d m k) ∧
      Unpanicked (signDeterministic · d m seed) ∧
      ∀ key : Bytes 32, (∃ pub, (publicKey Production.primitives key.toList ()).answer = .ok pub)
        ↔ ¬ Scalar.order ∣ key.value :=
  ⟨(careful_publicKey d).unpanicked, (careful_sign d m k).unpanicked,
    (careful_signDeterministic d m seed).unpanicked, fun _ => exists_publicKey_iff⟩

/-- The multiplication of the generator by a nonzero scalar; by anything else it panics. -/
def strictMul (j : ℕ) : Reply Fp :=
  if 0 < j ∧ j < Scalar.order then Ecdsa.mulGenerator j else .panic

/-- A multiplication that panics at the order does for the key `n`, which has no public key, and for
`n + 1`, which has one.  One that always panics shows at the key 1. -/
theorem never_panics_strictMul :
    strictMul Scalar.order = .panic ∧ Production.RightOnScalars strictMul ∧
    publicKey (Production.multiplyingWith strictMul) (Bytes.ofValue 32 Scalar.order).toList ()
      = publicKey Production.primitives (Bytes.ofValue 32 Scalar.order).toList () ∧
    (¬ ∃ pub, (publicKey Production.primitives (Bytes.ofValue 32 Scalar.order).toList ()).answer
      = .ok pub) ∧
    (∃ pub, (publicKey Production.primitives (Bytes.ofValue 32 (Scalar.order + 1)).toList ()).answer
      = .ok pub) ∧
    (publicKey (Production.multiplyingWith fun _ => .panic) (Bytes.ofValue 32 1).toList ()).log
      = [.panicked "get_public_key"] := by
  have hmul : Production.RightOnScalars strictMul := fun j h0 hn => if_pos ⟨h0, hn⟩
  have hkeys := never_panics (Bytes.ofValue 32 Scalar.order).toList [] [] none
  refine ⟨if_neg (by simp), hmul, hkeys.1.scalars hmul, ?_, ?_, ?_⟩
  · rw [hkeys.2.2.2, not_not]
    exact Nat.dvd_of_mod_eq_zero (by decide +kernel)
  · rw [hkeys.2.2.2, Nat.dvd_iff_mod_eq_zero]
    decide +kernel
  · have hone : scalar (.ofValue 32 1) = 1 := by decide +kernel
    rw [publicKey, Procedure.publicKey_toList, hone]
    rfl

end Bridge
end StarkWire
