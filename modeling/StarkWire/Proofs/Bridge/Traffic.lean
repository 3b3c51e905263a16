/-
# The requests behind each operation

What an operation asks of the primitives, and what it makes of the reply, said without its
program.  Most operations put one request (`Asks`); a signature with a derived nonce puts two, the
second only if the first brought a nonce (`AsksTwice`).  Private keys and nonces go out modulo the
order, everything else modulo the field prime, and a value comes back as the bytes of its least
representative (`wire`, `wirePair`, `wireRows`).

Since the requests are made of remainders alone, two runs whose arguments agree in these moduli
are one and the same run.
-/

import StarkWire.Primitive.Scripted
import StarkWire.Proofs.Bridge.Arguments

namespace StarkWire
namespace Bridge

variable {σ α β : Type}

/-- A field element on the wire: 32 little-endian bytes of its least representative. -/
def wire (a : Fp) : Bytes 32 := .ofValue 32 a.val

/-- A signature on the wire, `r` before `w`. -/
def wirePair (sig : Fp × Fp) : Bytes 64 := (wire sig.1).append (wire sig.2)

/-- The four limbs of the least representative, the least significant first. -/
def wireLimbs (a : Fp) : List UInt64 :=
  (List.range 4).map fun j => .ofNat (a.val / 2 ^ (64 * j))

/-- A state as rows of limbs, one for each element. -/
def wireRows (s : Poseidon.State) : Grid := [s.s0, s.s1, s.s2].map wireLimbs

/-- What a caller gets to see of a reply: its value in the form `f`, or that there is none. -/
def outcome (f : α → β) : Reply α → Except Error β
  | .value a => .ok (f a)
  | .fault _ => .error .unknownPrimitiveFailure
  | .panic => .error .unknownPrimitiveFailure

/-- The run puts the request `q` and no other, and answers with the reply in the form `f`. -/
structure Asks (P : Primitives σ) (s : σ) (q : Request) (f : q.Answer → α)
    (r : Run σ (Except Error α)) : Prop where
  calls : r.calls = [q]
  state : r.state = (P.reply q s).2
  answer : r.answer = outcome f (P.reply q s).1

/-- The run puts `q₁` and, if that brings a value, a request `q₂` made with it; the answer is the
reply to the latter in the form `f`. -/
structure AsksTwice (P : Primitives σ) (s : σ) (q₁ : Request) (q₂ : q₁.Answer → Request)
    (f : ∀ a, (q₂ a).Answer → α) (r : Run σ (Except Error α)) : Prop where
  failed : (∀ a, (P.reply q₁ s).1 ≠ .value a) →
    r.calls = [q₁] ∧ r.state = (P.reply q₁ s).2 ∧ r.answer = .error .unknownPrimitiveFailure
  answered : ∀ a, (P.reply q₁ s).1 = .value a →
    r.calls = [q₁, q₂ a] ∧ r.state = (P.reply (q₂ a) (P.reply q₁ s).2).2 ∧
      r.answer = outcome (f a) (P.reply (q₂ a) (P.reply q₁ s).2).1

/-- The run puts the request `q` and no other, and its verdict is the reply; no value is a no. -/
structure AsksVerdict (P : Primitives σ) (s : σ) (q : Request) (verdict : q.Answer → Bool)
    (r : Run σ Bool) : Prop where
  calls : r.calls = [q]
  state : r.state = (P.reply q s).2
  answer : r.answer = (outcome verdict (P.reply q s).1).toOption.getD false

/-- What each operation puts to the primitives `P` in state `s`, and what it answers. -/
structure ExactTraffic (P : Primitives σ) (s : σ) : Prop where
  pedersen (a b : Bytes 32) :
    Asks P s (.pedersen (element a) (element b)) wire (pedersen P a.toList b.toList s)
  sign (d m k : Bytes 32) :
    Asks P s (.sign (scalar d) (element m) (scalar k)) wirePair
      (sign P d.toList m.toList k.toList s)
  signDeterministic (d m : Bytes 32) (seed : Option (Bytes 32)) :
    AsksTwice P s (.nonce (element m) (scalar d) (seed.map element))
      (fun k => .sign (scalar d) (element m) k) (fun _ => wirePair)
      (signDeterministic P d.toList m.toList (seed.map Bytes.toList) s)
  verify (q h r w : Bytes 32) :
    AsksVerdict P s (.verify (element q) (element h) (element r) (element w)) id
      (verify P q.toList h.toList r.toList w.toList s)
  verifySignature (q h : Bytes 32) (sig : Bytes 64) :
    AsksVerdict P s
      (.verify (element q) (element h) (element (rBytes sig)) (element (wBytes sig))) id
      (verifySignature P q.toList h.toList sig.toList s)
  publicKey (d : Bytes 32) :
    Asks P s (.publicKey (scalar d)) wire (publicKey P d.toList s)
  hades (a b c : U256) :
    Asks P s (.permute ⟨.ofNat a.toNat, .ofNat b.toNat, .ofNat c.toNat⟩) wireRows
      (hades P [a.limbs, b.limbs, c.limbs] s)

/-- The runs of each operation from state `s` depend on the remainders of its arguments alone. -/
structure ResiduesDecide (P : Primitives σ) (s : σ) : Prop where
  pedersen {a a' b b' : Bytes 32} (ha : a.value ≡ a'.value [MOD Fp.prime])
    (hb : b.value ≡ b'.value [MOD Fp.prime]) :
    pedersen P a.toList b.toList s = pedersen P a'.toList b'.toList s
  sign {d d' m m' k k' : Bytes 32} (hd : d.value ≡ d'.value [MOD Scalar.order])
    (hm : m.value ≡ m'.value [MOD Fp.prime]) (hk : k.value ≡ k'.value [MOD Scalar.order]) :
    sign P d.toList m.toList k.toList s = sign P d'.toList m'.toList k'.toList s
  signDeterministic {d d' m m' : Bytes 32} {seed seed' : Option (Bytes 32)}
    (hd : d.value ≡ d'.value [MOD Scalar.order]) (hm : m.value ≡ m'.value [MOD Fp.prime])
    (hs : Option.Rel (fun a b => a.value ≡ b.value [MOD Fp.prime]) seed seed') :
    signDeterministic P d.toList m.toList (seed.map Bytes.toList) s
      = signDeterministic P d'.toList m'.toList (seed'.map Bytes.toList) s
  verify {q q' h h' r r' w w' : Bytes 32} (hq : q.value ≡ q'.value [MOD Fp.prime])
    (hh : h.value ≡ h'.value [MOD Fp.prime]) (hr : r.value ≡ r'.value [MOD Fp.prime])
    (hw : w.value ≡ w'.value [MOD Fp.prime]) :
    verify P q.toList h.toList r.toList w.toList s
      = verify P q'.toList h'.toList r'.toList w'.toList s
  publicKey {d d' : Bytes 32} (hd : d.value ≡ d'.value [MOD Scalar.order]) :
    publicKey P d.toList s = publicKey P d'.toList s
  hades {a a' b b' c c' : U256} (ha : a.toNat ≡ a'.toNat [MOD Fp.prime])
    (hb : b.toNat ≡ b'.toNat [MOD Fp.prime]) (hc : c.toNat ≡ c'.toNat [MOD Fp.prime]) :
    hades P [a.limbs, b.limbs, c.limbs] s = hades P [a'.limbs, b'.limbs, c'.limbs] s

/-! ### The forms of an answer -/

/-- Elements leave as the canonical bytes of their representatives. -/
theorem toWire_eq_wire : Fp.toWire = wire := funext Fp.toWire_eq

/-- A signature leaves as two elements, `r` first. -/
theorem wireSignature_eq_wirePair : wireSignature = wirePair := by
  funext sig
  simp only [wireSignature, wirePair, ← toWire_eq_wire]
  rfl

/-- An element leaves as four limbs of its representative. -/
theorem limbs_toU256 (a : Fp) : a.toU256.limbs = wireLimbs a := by
  simp only [Fp.toU256, U256.ofNat, U256.limbs, wireLimbs, Nat.div_div_eq_div_mul,
    U256.limbBase]
  simp [List.range, List.range.loop]

/-- A state leaves as three rows of limbs. -/
theorem toGrid_toWire (s : Poseidon.State) : s.toWire.toGrid = wireRows s := by
  simp only [Poseidon.State.toWire, Poseidon.WireState.toGrid, Poseidon.WireState.elements,
    wireRows, List.map_cons, List.map_nil, limbs_toU256]

/-- On three rows of limbs the permutation of a grid is one request, with the rows as elements. -/
theorem Procedure.hades_limbs (a b c : U256) :
    Procedure.hades [a.limbs, b.limbs, c.limbs]
      = .ok ((Program.request (.permute ⟨.ofNat a.toNat, .ofNat b.toNat, .ofNat c.toNat⟩)).map
          wireRows) := by
  rw [← show Poseidon.WireState.toGrid ∘ Poseidon.State.toWire = wireRows from
    funext toGrid_toWire]
  rfl

/-! ### One request, and two -/

/-- A program of one request asks for it and answers with the reply. -/
theorem asks_request (P : Primitives σ) (s : σ) (q : Request) (f : q.Answer → α) :
    Asks P s q f (((Program.request q).map f).run P s) := by
  simp only [Program.request, Program.map, Program.bind, Program.run]
  rcases hr : P.reply q s with ⟨reply, s'⟩
  cases reply with
  | value a => exact ⟨rfl, by rw [hr]; rfl, by rw [hr]; rfl⟩
  | fault e => exact ⟨rfl, by rw [hr], by rw [hr]; rfl⟩
  | panic => exact ⟨rfl, by rw [hr], by rw [hr]; rfl⟩

/-- A request for a verdict that is settled answers true just when the reply is a true value. -/
theorem asksVerdict_request (P : Primitives σ) (s : σ) (q h r w : Fp) :
    AsksVerdict P s (.verify q h r w) id
      ((Program.request (.verify q h r w)).run P s).settle := by
  simp only [Program.request, Program.run]
  rcases hr : P.reply (.verify q h r w) s with ⟨reply, s'⟩
  cases reply <;> exact ⟨rfl, by rw [hr]; rfl, by rw [hr]; rfl⟩

/-- A program of two requests makes the second with the value of the first. -/
theorem asksTwice_request (P : Primitives σ) (s : σ) (q₁ : Request) (q₂ : q₁.Answer → Request)
    (f : ∀ a, (q₂ a).Answer → α) :
    AsksTwice P s q₁ q₂ f
      (((Program.request q₁).bind fun a => (Program.request (q₂ a)).map (f a)).run P s) := by
  simp only [Program.request, Program.bind, Program.run]
  rcases hr : P.reply q₁ s with ⟨reply, s'⟩
  constructor
  · intro h
    cases reply with
    | value a => exact absurd (by rw [hr]) (h a)
    | fault e => exact ⟨rfl, by rw [hr], rfl⟩
    | panic => exact ⟨rfl, by rw [hr], rfl⟩
  · rintro a ha
    rw [hr] at ha
    dsimp only at ha
    subst ha
    have h := asks_request P s' (q₂ a) (f a)
    rw [hr]
    exact ⟨congrArg (q₁ :: ·) h.calls, h.state, h.answer⟩

/-- **Every fixed operation makes exactly its requests,** and answers with the replies in canonical
form. -/
theorem exactTraffic (P : Primitives σ) (s : σ) : ExactTraffic P s where
  pedersen a b := by
    rw [Bridge.pedersen, Procedure.pedersen_toList, toWire_eq_wire]
    exact asks_request P s _ _
  sign d m k := by
    rw [Bridge.sign, Procedure.sign_toList, wireSignature_eq_wirePair]
    exact asks_request P s _ _
  signDeterministic d m seed := by
    rw [Bridge.signDeterministic, Procedure.signDeterministic_toList, wireSignature_eq_wirePair]
    exact asksTwice_request P s _ _ _
  verify q h r w := by
    rw [Bridge.verify, Procedure.verify_toList]
    exact asksVerdict_request P s _ _ _ _
  verifySignature q h sig := by
    rw [verifySignature_toList, Bridge.verify, Procedure.verify_toList]
    exact asksVerdict_request P s _ _ _ _
  publicKey d := by
    rw [Bridge.publicKey, Procedure.publicKey_toList, toWire_eq_wire]
    exact asks_request P s _ _
  hades a b c := by
    rw [Bridge.hades, Procedure.hades_limbs]
    exact asks_request P s _ _

/-- The Poseidon hash of a pair asks for one permutation and answers with the first element. -/
theorem asks_poseidonHash (P : Primitives σ) (s : σ) (a b : Bytes 32) :
    Asks P s (.permute ⟨element a, element b, 2⟩) (fun t => wire t.s0)
      (poseidonHash P a.toList b.toList s) := by
  rw [poseidonHash, Procedure.poseidonHash_toList, ← toWire_eq_wire]
  exact asks_request P s _ _

/-- The Poseidon hash of one element does so too. -/
theorem asks_poseidonHashSingle (P : Primitives σ) (s : σ) (a : Bytes 32) :
    Asks P s (.permute ⟨element a, 0, 1⟩) (fun t => wire t.s0)
      (poseidonHashSingle P a.toList s) := by
  rw [poseidonHashSingle, Procedure.poseidonHashSingle_toList, ← toWire_eq_wire]
  exact asks_request P s _ _

/-- The permutation of a state asks for it, with the elements modulo the prime. -/
theorem asks_hadesState (P : Primitives σ) (s : σ) (a b c : U256) :
    Asks P s (.permute ⟨.ofNat a.toNat, .ofNat b.toNat, .ofNat c.toNat⟩) Poseidon.State.toWire
      (hadesState P ⟨a, b, c⟩ s) :=
  asks_request P s _ _

/-- **Arguments with the same residues are the same** to the primitives and in the answer. -/
theorem residuesDecide (P : Primitives σ) (s : σ) : ResiduesDecide P s where
  pedersen ha hb := by
    rw [Bridge.pedersen, Bridge.pedersen, Procedure.pedersen_toList, Procedure.pedersen_toList,
      element_congr ha, element_congr hb]
  sign hd hm hk := by
    rw [Bridge.sign, Bridge.sign, Procedure.sign_toList, Procedure.sign_toList, scalar_congr hd,
      element_congr hm, scalar_congr hk]
  signDeterministic {d d' m m' seed seed'} hd hm hs := by
    have h : seed.map element = seed'.map element := by
      cases hs with
      | none => rfl
      | some h => exact congrArg some (element_congr h)
    rw [Bridge.signDeterministic, Bridge.signDeterministic, Procedure.signDeterministic_toList,
      Procedure.signDeterministic_toList, scalar_congr hd, element_congr hm, h]
  verify hq hh hr hw := by
    rw [Bridge.verify, Bridge.verify, Procedure.verify_toList, Procedure.verify_toList,
      element_congr hq, element_congr hh, element_congr hr, element_congr hw]
  publicKey hd := by
    rw [Bridge.publicKey, Bridge.publicKey, Procedure.publicKey_toList, Procedure.publicKey_toList,
      scalar_congr hd]
  hades ha hb hc := by
    rw [Bridge.hades, Bridge.hades, Procedure.hades_limbs, Procedure.hades_limbs,
      Fp.ofNat_eq_of_modEq ha, Fp.ofNat_eq_of_modEq hb, Fp.ofNat_eq_of_modEq hc]

/-- **The traffic of every operation, exactly.** -/
theorem traffic (P : Primitives σ) (s : σ) : ExactTraffic P s ∧ ResiduesDecide P s :=
  ⟨exactTraffic P s, residuesDecide P s⟩

/-- The keys 1 and `n + 1`, in the second call of a script that never fails: both ask for the public
key of 1. -/
theorem traffic_of_unreduced_key :
    (Bytes.ofValue 32 (Scalar.order + 1)).value ≡ (Bytes.ofValue 32 1).value
      [MOD Scalar.order] ∧
    publicKey (Script.primitives ⟨fun _ => false, fun _ => false, ""⟩ Script.toyAnswer)
        (Bytes.ofValue 32 (Scalar.order + 1)).toList 1
      = publicKey (Script.primitives ⟨fun _ => false, fun _ => false, ""⟩ Script.toyAnswer)
        (Bytes.ofValue 32 1).toList 1 ∧
    (publicKey (Script.primitives ⟨fun _ => false, fun _ => false, ""⟩ Script.toyAnswer)
      (Bytes.ofValue 32 (Scalar.order + 1)).toList 1).calls = [.publicKey 1] := by
  have h : (Bytes.ofValue 32 (Scalar.order + 1)).value ≡ (Bytes.ofValue 32 1).value
      [MOD Scalar.order] := by decide +kernel
  have hs : scalar (.ofValue 32 (Scalar.order + 1)) = 1 := by decide +kernel
  obtain ⟨hexact, hresidues⟩ :=
    traffic (Script.primitives ⟨fun _ => false, fun _ => false, ""⟩ Script.toyAnswer) 1
  refine ⟨h, hresidues.publicKey h, ?_⟩
  rw [(hexact.publicKey _).calls, hs]

end Bridge
end StarkWire
