/-
# Answers passed on

An operation that succeeds, other than a verification, hands out elements of the last reply it got:
all of them, or the first of a permuted state where it is a hash (`handedOut`).  Each stands in the
answer as the representative below the field prime, in 32 bytes or in a row of four limbs, and
nothing else stands there (`answerOf`).

Such bytes can be passed on.  Where an operation reads an element it asks with that very element
(`ReadAsElement`), and where it reads a scalar it asks with the element modulo the order
(`ReadAsScalar`); the row does in a grid what the bytes do in a buffer (`ReadAsRow`).  So a caller
who chains operations loses nothing between one primitive and the next
(`answer_passes_on`).
-/

import StarkWire.Primitive.Scripted
import StarkWire.Proofs.Bridge.Log
import StarkWire.Proofs.Bridge.Traffic

namespace StarkWire
namespace Bridge

variable {σ α β : Type}

/-! ### Where an argument goes -/

/-- Wherever the bytes `b` are an argument that is an element, the operation asks with `x`. -/
structure ReadAsElement (P : Primitives σ) (s : σ) (b : Bytes 32) (x : Fp) : Prop where
  pedersenFirst (c : Bytes 32) :
    Asks P s (.pedersen x (element c)) wire (pedersen P b.toList c.toList s)
  pedersenSecond (c : Bytes 32) :
    Asks P s (.pedersen (element c) x) wire (pedersen P c.toList b.toList s)
  signMessage (d k : Bytes 32) :
    Asks P s (.sign (scalar d) x (scalar k)) wirePair (sign P d.toList b.toList k.toList s)
  deterministicMessage (d : Bytes 32) (seed : Option (Bytes 32)) :
    AsksTwice P s (.nonce x (scalar d) (seed.map element)) (fun k => .sign (scalar d) x k)
      (fun _ => wirePair) (signDeterministic P d.toList b.toList (seed.map Bytes.toList) s)
  deterministicSeed (d m : Bytes 32) :
    AsksTwice P s (.nonce (element m) (scalar d) (some x))
      (fun k => .sign (scalar d) (element m) k) (fun _ => wirePair)
      (signDeterministic P d.toList m.toList (some b.toList) s)
  verifyKey (h r w : Bytes 32) :
    AsksVerdict P s (.verify x (element h) (element r) (element w)) id
      (verify P b.toList h.toList r.toList w.toList s)
  verifyHash (q r w : Bytes 32) :
    AsksVerdict P s (.verify (element q) x (element r) (element w)) id
      (verify P q.toList b.toList r.toList w.toList s)
  verifyR (q h w : Bytes 32) :
    AsksVerdict P s (.verify (element q) (element h) x (element w)) id
      (verify P q.toList h.toList b.toList w.toList s)
  verifyW (q h r : Bytes 32) :
    AsksVerdict P s (.verify (element q) (element h) (element r) x) id
      (verify P q.toList h.toList r.toList b.toList s)
  signatureKey (h : Bytes 32) (sig : Bytes 64) :
    AsksVerdict P s (.verify x (element h) (element (rBytes sig)) (element (wBytes sig))) id
      (verifySignature P b.toList h.toList sig.toList s)
  signatureHash (q : Bytes 32) (sig : Bytes 64) :
    AsksVerdict P s (.verify (element q) x (element (rBytes sig)) (element (wBytes sig))) id
      (verifySignature P q.toList b.toList sig.toList s)
  signatureR (q h w : Bytes 32) :
    AsksVerdict P s (.verify (element q) (element h) x (element w)) id
      (verifySignature P q.toList h.toList (b.toList ++ w.toList) s)
  signatureW (q h r : Bytes 32) :
    AsksVerdict P s (.verify (element q) (element h) (element r) x) id
      (verifySignature P q.toList h.toList (r.toList ++ b.toList) s)
  poseidonFirst (c : Bytes 32) :
    Asks P s (.permute ⟨x, element c, 2⟩) (fun t => wire t.s0)
      (poseidonHash P b.toList c.toList s)
  poseidonSecond (c : Bytes 32) :
    Asks P s (.permute ⟨element c, x, 2⟩) (fun t => wire t.s0)
      (poseidonHash P c.toList b.toList s)
  poseidonSingle :
    Asks P s (.permute ⟨x, 0, 1⟩) (fun t => wire t.s0) (poseidonHashSingle P b.toList s)
  /-- In a list, `x` takes its place in what is chained. -/
  pedersenList (before after : List (Bytes 32)) :
    pedersenOnElements P (before.map Bytes.toList ++ b.toList :: after.map Bytes.toList) s
      = ((terminatedChain (before.map element ++ x :: after.map element)).map wire).run P s
  /-- In a list, `x` takes its place in what is absorbed. -/
  poseidonList (before after : List (Bytes 32)) :
    poseidonHashMany P (before.map Bytes.toList ++ b.toList :: after.map Bytes.toList) s
      = ((sponge ⟨0, 0, 0⟩ (before.map element ++ x :: after.map element)).map
          fun t => wire t.s0).run P s

/-- Wherever the bytes `b` are a private key or a nonce, the operation asks with `y`. -/
structure ReadAsScalar (P : Primitives σ) (s : σ) (b : Bytes 32) (y : Fp) : Prop where
  signKey (m k : Bytes 32) :
    Asks P s (.sign y (element m) (scalar k)) wirePair (sign P b.toList m.toList k.toList s)
  signNonce (d m : Bytes 32) :
    Asks P s (.sign (scalar d) (element m) y) wirePair (sign P d.toList m.toList b.toList s)
  deterministicKey (m : Bytes 32) (seed : Option (Bytes 32)) :
    AsksTwice P s (.nonce (element m) y (seed.map element)) (fun k => .sign y (element m) k)
      (fun _ => wirePair) (signDeterministic P b.toList m.toList (seed.map Bytes.toList) s)
  publicKey : Asks P s (.publicKey y) wire (publicKey P b.toList s)

/-- Wherever the limbs of `a` are a row of a grid, or `a` is an element of a state, the permutation
is asked for with `x`. -/
structure ReadAsRow (P : Primitives σ) (s : σ) (a : U256) (x : Fp) : Prop where
  first (b c : U256) :
    Asks P s (.permute ⟨x, .ofNat b.toNat, .ofNat c.toNat⟩) wireRows
      (hades P [a.limbs, b.limbs, c.limbs] s)
  second (b c : U256) :
    Asks P s (.permute ⟨.ofNat b.toNat, x, .ofNat c.toNat⟩) wireRows
      (hades P [b.limbs, a.limbs, c.limbs] s)
  third (b c : U256) :
    Asks P s (.permute ⟨.ofNat b.toNat, .ofNat c.toNat, x⟩) wireRows
      (hades P [b.limbs, c.limbs, a.limbs] s)
  stateFirst (b c : U256) :
    Asks P s (.permute ⟨x, .ofNat b.toNat, .ofNat c.toNat⟩) Poseidon.State.toWire
      (hadesState P ⟨a, b, c⟩ s)
  stateSecond (b c : U256) :
    Asks P s (.permute ⟨.ofNat b.toNat, x, .ofNat c.toNat⟩) Poseidon.State.toWire
      (hadesState P ⟨b, a, c⟩ s)
  stateThird (b c : U256) :
    Asks P s (.permute ⟨.ofNat b.toNat, .ofNat c.toNat, x⟩) Poseidon.State.toWire
      (hadesState P ⟨b, c, a⟩ s)

variable (P : Primitives σ) (s : σ)

/-- A signature put together of its halves is verified as these are. -/
theorem verifySignature_append (q h : Buffer) (r w : Bytes 32) :
    verifySignature P q h (r.toList ++ w.toList) s = verify P q h r.toList w.toList s := by
  have hsplit := verifySignature_toList P q h (r.append w) s
  rwa [rBytes, wBytes, Bytes.front_append, Bytes.back_append] at hsplit

/-- Every argument that is an element is read as the element that its bytes stand for. -/
theorem readAsElement (b : Bytes 32) : ReadAsElement P s b (element b) where
  pedersenFirst c := (exactTraffic P s).pedersen b c
  pedersenSecond c := (exactTraffic P s).pedersen c b
  signMessage d k := (exactTraffic P s).sign d b k
  deterministicMessage d seed := (exactTraffic P s).signDeterministic d b seed
  deterministicSeed d m := (exactTraffic P s).signDeterministic d m (some b)
  verifyKey h r w := (exactTraffic P s).verify b h r w
  verifyHash q r w := (exactTraffic P s).verify q b r w
  verifyR q h w := (exactTraffic P s).verify q h b w
  verifyW q h r := (exactTraffic P s).verify q h r b
  signatureKey h sig := (exactTraffic P s).verifySignature b h sig
  signatureHash q sig := (exactTraffic P s).verifySignature q b sig
  signatureR q h w := by
    rw [verifySignature_append]
    exact (exactTraffic P s).verify q h b w
  signatureW q h r := by
    rw [verifySignature_append]
    exact (exactTraffic P s).verify q h r b
  poseidonFirst c := asks_poseidonHash P s b c
  poseidonSecond c := asks_poseidonHash P s c b
  poseidonSingle := asks_poseidonHashSingle P s b
  pedersenList before after := by
    -- in a list the element stands at its place among the others
    have hlist := Procedure.pedersenOnElements_toList (before ++ b :: after)
    rw [List.map_append, List.map_append, List.map_cons, List.map_cons] at hlist
    rw [pedersenOnElements, hlist, toWire_eq_wire]
    rfl
  poseidonList before after := by
    have hlist := Procedure.poseidonHashMany_toList (before ++ b :: after)
    rw [List.map_append, List.map_append, List.map_cons, List.map_cons] at hlist
    rw [poseidonHashMany, hlist, ← toWire_eq_wire]
    rfl

/-- Bytes are read as a scalar by every operation that takes one. -/
theorem readAsScalar (b : Bytes 32) : ReadAsScalar P s b (scalar b) where
  signKey m k := (exactTraffic P s).sign b m k
  signNonce d m := (exactTraffic P s).sign d m b
  deterministicKey m seed := (exactTraffic P s).signDeterministic b m seed
  publicKey := (exactTraffic P s).publicKey b

/-- A row is read as an element by the permutation of a grid. -/
theorem readAsRow (a : U256) : ReadAsRow P s a (.ofNat a.toNat) where
  first b c := (exactTraffic P s).hades a b c
  second b c := (exactTraffic P s).hades b a c
  third b c := (exactTraffic P s).hades b c a
  stateFirst b c := asks_hadesState P s a b c
  stateSecond b c := asks_hadesState P s b a c
  stateThird b c := asks_hadesState P s b c a

/-! ### What comes out goes in -/

/-- The element `x` can be passed on as the value `a`, in 32 bytes or in a row of limbs. -/
structure PassesOn (P : Primitives σ) (s : σ) (a : U256) (x : Fp) : Prop where
  bytes_lt : a.encode.value < Fp.prime
  row_lt : a.toNat < Fp.prime
  asElement : ReadAsElement P s a.encode x
  asScalar : ReadAsScalar P s a.encode (.ofNat (x.val % Scalar.order))
  asRow : ReadAsRow P s a x

/-- A representative below the prime stands for the element it was made from. -/
theorem passesOn (x : Fp) : PassesOn P s x.toU256 x := by
  have hval : x.toU256.encode.value = x.val := x.value_toWire
  have helement : element x.toU256.encode = x := element_toWire x
  have hscalar : scalar x.toU256.encode = .ofNat (x.val % Scalar.order) := by rw [scalar, hval]
  have hrow : Fp.ofNat x.toU256.toNat = x := x.ofU256_toU256
  have asElement := readAsElement P s x.toU256.encode
  have asScalar := readAsScalar P s x.toU256.encode
  have asRow := readAsRow P s x.toU256
  rw [helement] at asElement
  rw [hscalar] at asScalar
  rw [hrow] at asRow
  exact ⟨hval ▸ x.isLt, x.toNat_toU256 ▸ x.isLt, asElement, asScalar, asRow⟩

namespace Operation

/-- Whether the answer is a grid. -/
def answersGrid : Operation → Bool
  | hades _ => true
  | hadesState _ => true
  | _ => false

/-- The elements of a reply that an operation hands out.  A hash keeps to the first of a permuted
state, and a nonce goes into a signature only. -/
def handedOut (op : Operation) : (q : Request) → q.Answer → List Fp
  | .pedersen _ _, hash => [hash]
  | .sign _ _ _, (r, w) => [r, w]
  | .verify _ _ _ _, _ => []
  | .publicKey _, x => [x]
  | .permute _, t => if op.answersGrid then [t.s0, t.s1, t.s2] else [t.s0]
  | .nonce _ _ _, _ => []

/-- Values in the form in which an operation answers: rows of limbs, or 32 bytes each. -/
def answerOf (op : Operation) (values : List U256) : Answer :=
  if op.answersGrid then .grid (values.map U256.limbs)
  else .bytes (values.flatMap fun a => a.encode.toList)

/-- The answer that an operation makes of its last reply. -/
def report (op : Operation) (q : Request) (a : q.Answer) : Answer :=
  op.answerOf ((op.handedOut q a).map Fp.toU256)

end Operation

/-! ### The last reply makes the answer -/

namespace Operation

/-- An element is reported as its value. -/
theorem report_bytes (op : Operation) (h : op.answersGrid = false) (x : Fp) :
    ofBytes x.toWire = op.answerOf ([x].map Fp.toU256) := by
  simp [answerOf, h, ofBytes, Fp.toWire]

/-- A signature is reported as the values of `r` and `w`. -/
theorem report_signature (op : Operation) (h : op.answersGrid = false) (sig : Fp × Fp) :
    ofBytes (wireSignature sig) = op.answerOf ([sig.1, sig.2].map Fp.toU256) := by
  have happend : (wireSignature sig).toList
      = sig.1.toU256.encode.toList ++ sig.2.toU256.encode.toList := rfl
  simp [answerOf, h, ofBytes, happend]

/-- A sponge hands out an element of the state that the last permutation left. -/
theorem reports_sponge {out : (q : Request) → q.Answer → α} {f : Poseidon.State → α}
    (h : ∀ t t', f t' = out (.permute t) t') (t : Poseidon.State) (elements : List Fp) :
    ((sponge t elements).map f).Reports out := by
  fun_induction sponge t elements with
  | case1 t a b rest ih => exact fun t' => .inr (ih t')
  | case2 t a => exact Program.reports_request _ (h _)
  | case3 t => exact Program.reports_request _ (h _)

/-- The nonce of a signature is not handed out. -/
theorem reports_deterministic (op : Operation) (h : op.answersGrid = false) (d m : Fp)
    (seed : Option Fp) :
    (((Program.request (.nonce m d seed)).bind fun k =>
      (Program.request (.sign d m k)).map wireSignature).map ofBytes).Reports op.report := by
  rw [Program.map_bind]
  exact Program.reports_bind _ fun k => Program.reports_map_request _ (report_signature op h)

/-- **The last reply makes the answer,** of every operation that is no verification. -/
theorem reports_procedure (op : Operation) (h : op.isVerification = false) :
    Always (Program.Reports op.report) op.procedure := by
  cases op with
  | pedersen a b =>
    refine always_map (always_bind fun a => always_bind fun b => always_ok ?_)
    exact Program.reports_map_request _ (report_bytes _ rfl)
  | sign d m k =>
    refine always_map (always_bind fun d => always_bind fun m => always_bind fun k => always_ok ?_)
    exact Program.reports_map_request _ (report_signature _ rfl)
  | signDeterministic d m seed =>
    -- a seed is read only if there is one
    cases seed with
    | none =>
      exact always_map (always_bind fun d => always_bind fun m =>
        always_ok (reports_deterministic _ rfl d m none))
    | some seed =>
      exact always_map (always_bind fun d => always_bind fun m => always_bind fun seed =>
        always_ok (reports_deterministic _ rfl d m seed))
  | verify q h r w => cases h
  | verifySignature q h sig => cases h
  | publicKey d =>
    refine always_map (always_bind fun d => always_ok ?_)
    exact Program.reports_map_request _ (report_bytes _ rfl)
  | hades grid =>
    rw [procedure, Procedure.hades]
    rcases Poseidon.WireState.ofGrid grid with e | state
    · rintro p hp
      cases hp
    · refine always_ok ?_
      rw [Program.map_map]
      exact Program.reports_map_request _ fun _ => rfl
  | hadesState state => exact always_ok (Program.reports_map_request _ fun _ => rfl)
  | pedersenOnElements elements =>
    refine always_map (always_bind fun elements => always_ok ?_)
    rw [Program.map_map, terminatedChain, Program.map_bind]
    exact Program.reports_bind _ fun acc => Program.reports_request _ (report_bytes _ rfl)
  | poseidonHash a b =>
    refine always_map (always_bind fun a => always_bind fun b => always_ok ?_)
    exact Program.reports_map_request _ fun t => report_bytes _ rfl t.s0
  | poseidonHashSingle a =>
    refine always_map (always_bind fun a => always_ok ?_)
    exact Program.reports_map_request _ fun t => report_bytes _ rfl t.s0
  | poseidonHashMany elements =>
    refine always_map (always_bind fun elements => always_ok ?_)
    rw [Program.map_map]
    exact reports_sponge (fun _ t => report_bytes _ rfl t.s0) _ _

/-- What has no refusal of its own is its program and nothing else. -/
theorem run_of_not_verification {op : Operation} (h : op.isVerification = false) :
    op.run P s = Checked.run P op.procedure s := by
  have hepilogue : ∀ e, op.epilogue e = [] := by
    cases op <;> first | exact fun _ => rfl | cases h
  rw [run_eq_finish, finish_eq_self _ (refusal_of_not_verification h) hepilogue]

/-- **An answer can be passed on.**  An operation other than a verification that answers at all
answers with elements of the last reply, each as its representative below the prime; and wherever
an operation takes one of these values, it asks with the element that the primitives returned, or
with that element modulo the order. -/
theorem answer_passes_on {op : Operation} (h : op.isVerification = false) {answer : Answer}
    (ha : (op.run P s).answer = .ok answer) :
    ∃ q v, (P.exchanges (op.run P s).calls s).getLast? = some ⟨q, .value v⟩ ∧
      answer = op.answerOf ((op.handedOut q v).map Fp.toU256) ∧
      ∀ x ∈ op.handedOut q v, ∀ s', PassesOn P s' x.toU256 x := by
  rw [run_of_not_verification P s h] at ha ⊢
  rcases hc : op.procedure with e | p
  · rw [hc] at ha
    cases ha
  · rw [hc] at ha
    obtain ⟨q, v, hlast, hreport⟩ := (reports_procedure op h p hc).exists_last ha
    exact ⟨q, v, hlast, hreport, fun x _ s' => passesOn P s' x⟩

/-- The toy hash of 1 and `p - 1` is `p - 1`, which is above the order: asked for a public key, it
is taken modulo the order; hashed again, it is itself. -/
theorem answer_passes_on_above_order :
    Scalar.order < Fp.prime - 1 ∧
    (run (Script.primitives ⟨fun _ => false, fun _ => false, ""⟩ Script.toyAnswer)
        (.pedersen (Bytes.ofValue 32 1).toList (Bytes.ofValue 32 (Fp.prime - 1)).toList) 0).answer
      = .ok (.bytes (U256.ofNat (Fp.prime - 1)).encode.toList) ∧
    (Bridge.publicKey (Script.primitives ⟨fun _ => false, fun _ => false, ""⟩ Script.toyAnswer)
        (U256.ofNat (Fp.prime - 1)).encode.toList 1).calls
      = [.publicKey (.ofNat ((Fp.prime - 1) % Scalar.order))] ∧
    (Bridge.poseidonHashSingle
        (Script.primitives ⟨fun _ => false, fun _ => false, ""⟩ Script.toyAnswer)
        (U256.ofNat (Fp.prime - 1)).encode.toList 1).calls
      = [.permute ⟨.ofNat (Fp.prime - 1), 0, 1⟩] := by
  have ha : (run (Script.primitives ⟨fun _ => false, fun _ => false, ""⟩ Script.toyAnswer)
        (.pedersen (Bytes.ofValue 32 1).toList (Bytes.ofValue 32 (Fp.prime - 1)).toList) 0).answer
      = .ok (.bytes (U256.ofNat (Fp.prime - 1)).encode.toList) := by decide +kernel
  obtain ⟨q, v, hlast, -, hpass⟩ := answer_passes_on _ _ rfl ha
  -- the one call is the hash, whose value is all that is handed out
  cases hlast
  have hp := hpass (.ofNat (Fp.prime - 1)) (by decide +kernel) 1
  exact ⟨by decide, ha, hp.asScalar.publicKey.calls, hp.asElement.poseidonSingle.calls⟩

end Operation
end Bridge
end StarkWire
