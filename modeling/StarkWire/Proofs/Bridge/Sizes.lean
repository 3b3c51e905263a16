/-
# The first argument of the wrong size

An operation that answers with bytes reads its arguments in a fixed order, each as 32 bytes, before
it makes any request.  `Screens args c` says that the check `c` does this to the list `args`: it
rejects the first argument of another length, under its name and with the length that it has, and
lets a list without such an argument pass.  Checks made one after the other screen the arguments of
both (`Screens.bind`), so each operation is screened by following its steps.

What passes is a program, and programs fail in one way only, by a primitive
(`Program.answer_run`).  Hence an operation answers with a size error just when it has an argument
of the wrong length, the error is that of the first, and no request has been made
(`first_bad_argument`).
-/

import StarkWire.Bridge.Chain
import StarkWire.Proofs.Bridge.Arguments

namespace StarkWire

/-- A buffer of another length is no element, and the error has its name and its length. -/
theorem readElement_eq_error {buffer : Buffer} (argument : String)
    (h : buffer.length ≠ U256.size) :
    readElement argument buffer = .error (.length argument U256.size buffer.length) := by
  simp [readElement, checkLength, Bytes.ofBuffer?, h, Except.map]

namespace Bridge

/-- An argument that an operation reads as 32 bytes. -/
structure Argument where
  role : Role
  name : String
  buffer : Buffer

namespace Argument

/-- The argument has the length of an element. -/
def Sized (a : Argument) : Prop := a.buffer.length = 32

instance (a : Argument) : Decidable a.Sized := inferInstanceAs (Decidable (_ = _))

/-- What is wrong with an argument of another length. -/
def sizeError (a : Argument) : SizeError := .length a.name 32 a.buffer.length

end Argument

/-- The argument `a` is the first in the list that does not have the length of an element. -/
def FirstBad (args : List Argument) (a : Argument) : Prop :=
  ∃ before after, args = before ++ a :: after ∧ (∀ b ∈ before, b.Sized) ∧ ¬ a.Sized

/-- The run, begun in state `s`, answers with a size error just when one of the arguments has the
wrong length; the error is that of the first such argument, and then no request has been made. -/
structure ChecksSizes {σ α : Type} (args : List Argument) (s : σ) (r : Run σ (Except Error α)) :
    Prop where
  refused_iff : (∃ e, r.answer = .error (.invalidInputSize e)) ↔ ∃ a ∈ args, a.buffer.length ≠ 32
  error_iff (e : SizeError) : r.answer = .error (.invalidInputSize e) ↔
    ∃ a, FirstBad args a ∧ e = .length a.name 32 a.buffer.length
  silent (h : ∃ a ∈ args, a.buffer.length ≠ 32) : r.calls = [] ∧ r.state = s

/-- Every operation that answers with bytes checks its arguments in order. -/
structure ChecksArguments {σ : Type} (P : Primitives σ) (s : σ) : Prop where
  pedersen (a b : Buffer) :
    ChecksSizes [⟨.element, "first", a⟩, ⟨.element, "second", b⟩] s (pedersen P a b s)
  sign (d m k : Buffer) :
    ChecksSizes [⟨.scalar, "private_key", d⟩, ⟨.element, "message", m⟩, ⟨.scalar, "k", k⟩] s
      (sign P d m k s)
  signDeterministic (d m : Buffer) (seed : Option Buffer) :
    ChecksSizes ([⟨.scalar, "private_key", d⟩, ⟨.element, "message", m⟩]
        ++ seed.toList.map (⟨.element, "seed", ·⟩)) s (signDeterministic P d m seed s)
  publicKey (d : Buffer) : ChecksSizes [⟨.scalar, "private_key", d⟩] s (publicKey P d s)
  poseidonHash (a b : Buffer) :
    ChecksSizes [⟨.element, "first", a⟩, ⟨.element, "second", b⟩] s (poseidonHash P a b s)
  poseidonHashSingle (a : Buffer) :
    ChecksSizes [⟨.element, "value", a⟩] s (poseidonHashSingle P a s)
  pedersenOnElements (as : List Buffer) :
    ChecksSizes (as.map (⟨.element, "element", ·⟩)) s (pedersenOnElements P as s)
  poseidonHashMany (as : List Buffer) :
    ChecksSizes (as.map (⟨.element, "element", ·⟩)) s (poseidonHashMany P as s)

/-! ### The first bad argument of a list -/

variable {args xs ys : List Argument} {a : Argument}

/-- Where there is a first bad argument there is a bad one. -/
theorem FirstBad.exists_mem (h : FirstBad args a) : ∃ b ∈ args, ¬ b.Sized := by
  obtain ⟨before, after, rfl, -, ha⟩ := h
  exact ⟨a, List.mem_append_right _ List.mem_cons_self, ha⟩

/-- The first bad argument is what a search from the left finds. -/
theorem firstBad_iff_find? :
    FirstBad args a ↔ args.find? (fun b => decide ¬ b.Sized) = some a := by
  simp only [List.find?_eq_some_iff_append, FirstBad, decide_eq_true_eq, Bool.not_eq_eq_eq_not,
    Bool.not_true, decide_eq_false_iff_not, not_not]
  constructor
  · rintro ⟨before, after, rfl, hb, ha⟩
    exact ⟨ha, before, after, rfl, hb⟩
  · rintro ⟨ha, before, after, rfl, hb⟩
    exact ⟨before, after, rfl, hb, ha⟩

/-- Where there is a bad argument there is a first one. -/
theorem exists_firstBad_iff : (∃ a, FirstBad args a) ↔ ∃ a ∈ args, ¬ a.Sized := by
  simp only [firstBad_iff_find?, ← Option.isSome_iff_exists, List.find?_isSome,
    decide_eq_true_eq]

/-- The first bad argument of two lists is in the first list, unless all there are good. -/
theorem firstBad_append (h : FirstBad (xs ++ ys) a) :
    FirstBad xs a ∨ (∀ x ∈ xs, x.Sized) ∧ FirstBad ys a := by
  rw [firstBad_iff_find?, List.find?_append, Option.or_eq_some_iff] at h
  simp only [firstBad_iff_find?]
  refine h.imp_right fun ⟨hx, hy⟩ => ⟨fun x hm => ?_, hy⟩
  have hs := List.find?_eq_none.1 hx x hm
  simpa using hs

/-! ### Checks -/

variable {σ α β : Type}

/-- The check rejects the first bad argument of the list, and nothing else. -/
structure Screens (args : List Argument) (c : Checked α) : Prop where
  rejects {a : Argument} (h : FirstBad args a) : c = .error ⟨a.role, a.sizeError⟩
  accepts (h : ∀ a ∈ args, a.Sized) : ∃ v, c = .ok v

namespace Screens

/-- Without a check every list passes, the empty one to begin with. -/
theorem pure (v : α) : Screens [] (.ok v) where
  rejects h := by
    obtain ⟨b, hb, -⟩ := h.exists_mem
    cases hb
  accepts _ := ⟨v, rfl⟩

/-- A second check comes after the first, so its arguments do too. -/
theorem bind {c : Checked α} {f : α → Checked β} (hc : Screens xs c)
    (hf : ∀ v, Screens ys (f v)) : Screens (xs ++ ys) (c >>= f) where
  rejects h := by
    rcases firstBad_append h with hx | ⟨hx, hy⟩
    · rw [hc.rejects hx]
      rfl
    · obtain ⟨v, rfl⟩ := hc.accepts hx
      exact (hf v).rejects hy
  accepts h := by
    obtain ⟨v, rfl⟩ := hc.accepts fun a ha => h a (List.mem_append_left _ ha)
    exact (hf v).accepts fun a ha => h a (List.mem_append_right _ ha)

/-- What is done after the check does not change whom it rejects. -/
theorem map {c : Checked α} (hc : Screens args c) (f : α → β) : Screens args (c.map f) where
  rejects h := by
    rw [hc.rejects h]
    rfl
  accepts h := by
    obtain ⟨v, rfl⟩ := hc.accepts h
    exact ⟨f v, rfl⟩

end Screens

/-- Reading one argument screens that argument. -/
theorem screens_read {c : Checked α} {role : Role} {name : String} {buffer : Buffer}
    (hok : ∀ b : Bytes 32, b.toList = buffer → ∃ v, c = .ok v)
    (herr : buffer.length ≠ 32 → c = .error ⟨role, .length name 32 buffer.length⟩) :
    Screens [⟨role, name, buffer⟩] c where
  rejects h := by
    rw [firstBad_iff_find?, List.find?_singleton, Option.ite_none_right_eq_some] at h
    obtain ⟨hb, ha⟩ := h
    obtain rfl := Option.some.inj ha
    exact herr (of_decide_eq_true hb)
  accepts h := hok ⟨buffer, h _ List.mem_cons_self⟩ rfl

/-- Reading an element screens one argument. -/
theorem screens_readElement (name : String) (buffer : Buffer) :
    Screens [⟨.element, name, buffer⟩] (readElement name buffer) := by
  refine screens_read ?_ fun h => ?_
  · rintro b rfl
    exact ⟨_, readElement_toList name b⟩
  · rw [readElement, readElement_eq_error name h]
    rfl

/-- Reading a scalar screens one argument too, but logs it as a scalar. -/
theorem screens_readScalar (name : String) (buffer : Buffer) :
    Screens [⟨.scalar, name, buffer⟩] (readScalar name buffer) := by
  refine screens_read ?_ fun h => ?_
  · rintro b rfl
    exact ⟨_, readScalar_toList name b⟩
  · rw [readScalar, readElement_eq_error name h]
    rfl

/-- All elements of a list are read before anything else is done. -/
theorem screens_readElements (buffers : List Buffer) :
    Screens (buffers.map (⟨.element, "element", ·⟩)) (readElements buffers) := by
  induction buffers with
  | nil => exact .pure []
  | cons buffer rest ih =>
    exact (screens_readElement "element" buffer).bind fun a => ih.map (a :: ·)

namespace Procedure

/-- Hashing a pair reads both elements in order. -/
theorem screens_pedersen (a b : Buffer) :
    Screens [⟨.element, "first", a⟩, ⟨.element, "second", b⟩] (pedersen a b) :=
  (screens_readElement _ a).bind fun _ => (screens_readElement _ b).map _

/-- Signing reads the key, the message and then the nonce. -/
theorem screens_sign (d m k : Buffer) :
    Screens [⟨.scalar, "private_key", d⟩, ⟨.element, "message", m⟩, ⟨.scalar, "k", k⟩]
      (sign d m k) :=
  (screens_readScalar _ d).bind fun _ => (screens_readElement _ m).bind fun _ =>
    (screens_readScalar _ k).map _

/-- Deterministic signing reads the key, the message and then the seed, if there is one. -/
theorem screens_signDeterministic (d m : Buffer) (seed : Option Buffer) :
    Screens ([⟨.scalar, "private_key", d⟩, ⟨.element, "message", m⟩]
      ++ seed.toList.map (⟨.element, "seed", ·⟩)) (signDeterministic d m seed) := by
  refine (screens_readScalar _ d).bind fun key => (screens_readElement _ m).bind fun message => ?_
  -- a seed is an argument only if there is one
  cases seed with
  | none => exact .pure _
  | some seed => exact ((screens_readElement "seed" seed).map some).map _

/-- Verifying reads the public key, the hash, `r` and then `w`. -/
theorem screens_verify (q h r w : Buffer) :
    Screens [⟨.element, "public_key", q⟩, ⟨.element, "hash", h⟩, ⟨.element, "r", r⟩,
      ⟨.element, "w", w⟩] (verify q h r w) :=
  (screens_readElement _ q).bind fun _ => (screens_readElement _ h).bind fun _ =>
    (screens_readElement _ r).bind fun _ => (screens_readElement _ w).map _

/-- Deriving a public key reads the private one. -/
theorem screens_publicKey (d : Buffer) :
    Screens [⟨.scalar, "private_key", d⟩] (publicKey d) :=
  (screens_readScalar _ d).map _

/-- The Poseidon hash of a pair reads both elements in order. -/
theorem screens_poseidonHash (a b : Buffer) :
    Screens [⟨.element, "first", a⟩, ⟨.element, "second", b⟩] (poseidonHash a b) :=
  (screens_readElement _ a).bind fun _ => (screens_readElement _ b).map _

/-- The Poseidon hash of one element reads it. -/
theorem screens_poseidonHashSingle (a : Buffer) :
    Screens [⟨.element, "value", a⟩] (poseidonHashSingle a) :=
  (screens_readElement _ a).map _

/-- Hashing a list reads all elements in order before it makes a request. -/
theorem screens_pedersenOnElements (as : List Buffer) :
    Screens (as.map (⟨.element, "element", ·⟩)) (pedersenOnElements as) :=
  (screens_readElements as).map _

/-- So does the Poseidon hash of a list. -/
theorem screens_poseidonHashMany (as : List Buffer) :
    Screens (as.map (⟨.element, "element", ·⟩)) (poseidonHashMany as) :=
  (screens_readElements as).map _

end Procedure

/-! ### Runs -/

variable (P : Primitives σ) (s : σ)

/-- A program fails in one way only. -/
theorem Program.answer_run (p : Program α) :
    (∃ a, (p.run P s).answer = .ok a) ∨ (p.run P s).answer = .error .unknownPrimitiveFailure := by
  induction p generalizing s with
  | done a => exact .inl ⟨a, rfl⟩
  | ask q next ih =>
    rw [run]
    rcases P.reply q s with ⟨answer | f | _, s'⟩
    · exact ih answer s'
    · exact .inr rfl
    · exact .inr rfl

namespace Screens

variable {c : Checked (Program α)}

/-- What a bad argument leads to. -/
theorem run_eq (hc : Screens args c) (h : FirstBad args a) :
    Checked.run P c s
      = ⟨.error (.invalidInputSize a.sizeError), s, [], [.rejected ⟨a.role, a.sizeError⟩]⟩ := by
  rw [hc.rejects h]
  rfl

/-- Without a bad argument there is no size error: programs fail by a primitive alone. -/
theorem answer_ne (hc : Screens args c) (h : ∀ a ∈ args, a.Sized) (e : SizeError) :
    (Checked.run P c s).answer ≠ .error (.invalidInputSize e) := by
  obtain ⟨p, rfl⟩ := hc.accepts h
  intro he
  rcases p.answer_run P s with ⟨a, ha⟩ | ha
  · cases he.symm.trans ha
  · cases he.symm.trans ha

/-- An operation that answers had only arguments of the right length. -/
theorem sized_of_ok (hc : Screens args c) {v : α} (h : (Checked.run P c s).answer = .ok v) :
    ∀ a ∈ args, a.Sized := by
  by_contra! hbad
  obtain ⟨a, ha⟩ := exists_firstBad_iff.2 hbad
  rw [hc.run_eq P s ha] at h
  cases h

/-- **What is screened and then run checks its sizes.** -/
theorem checksSizes (hc : Screens args c) : ChecksSizes args s (Checked.run P c s) where
  refused_iff := by
    constructor
    · rintro ⟨e, he⟩
      by_contra! h
      exact hc.answer_ne P s h e he
    · intro h
      obtain ⟨a, ha⟩ := exists_firstBad_iff.2 h
      exact ⟨_, by rw [hc.run_eq P s ha]⟩
  error_iff e := by
    constructor
    · intro he
      by_cases h : ∃ a ∈ args, ¬ a.Sized
      · obtain ⟨a, ha⟩ := exists_firstBad_iff.2 h
        rw [hc.run_eq P s ha] at he
        cases he
        exact ⟨a, ha, rfl⟩
      · push Not at h
        exact absurd he (hc.answer_ne P s h e)
    · rintro ⟨a, ha, rfl⟩
      rw [hc.run_eq P s ha]
      rfl
  silent h := by
    obtain ⟨a, ha⟩ := exists_firstBad_iff.2 h
    rw [hc.run_eq P s ha]
    exact ⟨rfl, rfl⟩

end Screens

/-- **The first bad argument wins, and nothing runs.** -/
theorem first_bad_argument : ChecksArguments P s where
  pedersen a b := (Procedure.screens_pedersen a b).checksSizes P s
  sign d m k := (Procedure.screens_sign d m k).checksSizes P s
  signDeterministic d m seed := (Procedure.screens_signDeterministic d m seed).checksSizes P s
  publicKey d := (Procedure.screens_publicKey d).checksSizes P s
  poseidonHash a b := (Procedure.screens_poseidonHash a b).checksSizes P s
  poseidonHashSingle a := (Procedure.screens_poseidonHashSingle a).checksSizes P s
  pedersenOnElements as := (Procedure.screens_pedersenOnElements as).checksSizes P s
  poseidonHashMany as := (Procedure.screens_poseidonHashMany as).checksSizes P s

/-- After a good element the first of two bad ones is reported, and the good one is not hashed. -/
example : pedersenOnElements P [List.replicate 32 1, List.replicate 31 2, List.replicate 33 3] s
    = ⟨.error (.invalidInputSize (.length "element" 32 31)), s, [],
        [.rejected ⟨.element, .length "element" 32 31⟩]⟩ := rfl

end Bridge
end StarkWire
