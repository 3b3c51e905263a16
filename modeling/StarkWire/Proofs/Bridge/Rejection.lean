/-
# The first rejected argument

Every operation checks its arguments one by one and stops at the first of a wrong size.  `inputs`
lists what each operation checks, in order: most arguments are 32 bytes, a signature in one buffer
is 64, and a grid is three rows of four limbs.  A verification of a signature in one buffer checks
that buffer first; its halves then need no check.

The check of an operation fails just when one of its inputs is rejected, and with the rejection of
the first that is (`failureOf_procedure`).
-/

import StarkWire.Proofs.Bridge.Operation
import StarkWire.Proofs.Bridge.Sizes

namespace StarkWire

variable {ε α β : Type}

/-- The error of a computation that fails. -/
def failureOf : Except ε α → Option ε
  | .ok _ => none
  | .error e => some e

/-- What is made of the result does not make it fail. -/
theorem failureOf_map (f : α → β) (c : Except ε α) : failureOf (c.map f) = failureOf c := by
  cases c <;> rfl

/-- What is wrong with a grid that is not three rows of four limbs: the number of its rows, or else
the first row of another length. -/
def gridFault (grid : Grid) : Option SizeError :=
  if grid.length ≠ 3 then some (.gridRows 3 grid.length)
  else grid.zipIdx.findSome? fun (row, i) =>
    if row.length = 4 then none else some (.gridColumns i 4 row.length)

/-- Rows are checked from the first on, each under its number. -/
theorem failureOf_checkRows (cols row : ℕ) (grid : Grid) :
    failureOf (checkRows cols row grid) = (grid.zipIdx row).findSome? fun (values, i) =>
      if values.length = cols then none else some (.gridColumns i cols values.length) := by
  induction grid generalizing row with
  | nil => rfl
  | cons values rest ih =>
    rw [checkRows, List.zipIdx_cons, List.findSome?_cons]
    by_cases h : values.length = cols
    · simp only [h, ne_eq, not_true_eq_false, if_false, if_true]
      exact ih (row + 1)
    · simp only [h, ne_eq, not_false_eq_true, if_false, if_true]
      rfl

/-- The number of rows is checked before the rows. -/
theorem failureOf_checkGridShape (grid : Grid) (rows cols : ℕ) :
    failureOf (checkGridShape grid rows cols)
      = if grid.length ≠ rows then some (.gridRows rows grid.length)
        else grid.zipIdx.findSome? fun (values, i) =>
          if values.length = cols then none else some (.gridColumns i cols values.length) := by
  unfold checkGridShape
  split_ifs
  · rfl
  · exact failureOf_checkRows cols 0 grid

/-- A grid is read as a state unless it has a fault. -/
theorem failureOf_ofGrid (grid : Grid) :
    failureOf (Poseidon.WireState.ofGrid grid) = gridFault grid :=
  (failureOf_map _ _).trans (failureOf_checkGridShape grid 3 4)

/-- A buffer of another length fails with both lengths. -/
theorem failureOf_checkLength (argument : String) (n : ℕ) (buffer : Buffer) :
    failureOf (checkLength argument n buffer)
      = if buffer.length = n then none else some (.length argument n buffer.length) := by
  unfold checkLength Bytes.ofBuffer?
  by_cases h : buffer.length = n <;> simp [h, failureOf]

namespace Bridge

/-- Something that an operation checks before it makes a request. -/
inductive Input where
  /-- An argument of 32 bytes. -/
  | argument (a : Argument)
  /-- A signature in one buffer. -/
  | signature (buffer : Buffer)
  /-- A state grid. -/
  | grid (rows : Grid)

namespace Input

/-- A field element. -/
def element (name : String) (buffer : Buffer) : Input := .argument ⟨.element, name, buffer⟩

/-- A private key or a nonce. -/
def scalar (name : String) (buffer : Buffer) : Input := .argument ⟨.scalar, name, buffer⟩

/-- Why the input is rejected, if it is. -/
def rejection? : Input → Option Rejection
  | argument a =>
    if a.buffer.length = 32 then none else some ⟨a.role, .length a.name 32 a.buffer.length⟩
  | signature buffer =>
    if buffer.length = 64 then none
    else some ⟨.signature, .length "signature" 64 buffer.length⟩
  | grid rows => (gridFault rows).map (⟨.grid, ·⟩)

end Input

namespace Screens

variable {args : List Argument} {c : Checked α}

/-- Screening is to reject the first argument that is to be rejected. -/
theorem failureOf_eq (hc : Screens args c) :
    failureOf c = (args.map .argument).findSome? Input.rejection? := by
  by_cases h : ∃ a ∈ args, ¬ a.Sized
  · obtain ⟨a, ha⟩ := exists_firstBad_iff.2 h
    obtain ⟨before, after, rfl, hbefore, hbad⟩ := id ha
    have hnone : (before.map .argument).findSome? Input.rejection? = none := by
      refine List.findSome?_eq_none_iff.2 fun x hx => ?_
      obtain ⟨b, hb, rfl⟩ := List.mem_map.1 hx
      exact if_pos (hbefore b hb)
    have hsome : Input.rejection? (.argument a) = some ⟨a.role, a.sizeError⟩ := if_neg hbad
    rw [hc.rejects ha, List.map_append, List.findSome?_append, hnone, List.map_cons,
      List.findSome?_cons, hsome]
    rfl
  · push Not at h
    obtain ⟨v, rfl⟩ := hc.accepts h
    refine (List.findSome?_eq_none_iff.2 fun x hx => ?_).symm
    obtain ⟨a, ha, rfl⟩ := List.mem_map.1 hx
    exact if_pos (h a ha)

end Screens

namespace Operation

/-- What an operation checks, in order. -/
def inputs : Operation → List Input
  | pedersen first second => [.element "first" first, .element "second" second]
  | sign privateKey message k =>
    [.scalar "private_key" privateKey, .element "message" message, .scalar "k" k]
  | signDeterministic privateKey message seed =>
    [.scalar "private_key" privateKey, .element "message" message]
      ++ seed.toList.map (.element "seed")
  | verify key hash r w =>
    [.element "public_key" key, .element "hash" hash, .element "r" r, .element "w" w]
  | verifySignature key hash signature =>
    [.signature signature, .element "public_key" key, .element "hash" hash]
  | publicKey privateKey => [.scalar "private_key" privateKey]
  | hades grid => [.grid grid]
  | hadesState _ => []
  | pedersenOnElements elements => elements.map (.element "element")
  | poseidonHash first second => [.element "first" first, .element "second" second]
  | poseidonHashSingle value => [.element "value" value]
  | poseidonHashMany elements => elements.map (.element "element")

/-- The rejection of the first input that is rejected. -/
def rejection? (op : Operation) : Option Rejection := op.inputs.findSome? Input.rejection?

/-- A verification of a signature in one buffer checks it first; its halves are as long as they
should be. -/
theorem failureOf_verifySignature (key hash signature : Buffer) :
    failureOf (verifySignature key hash signature).procedure
      = (verifySignature key hash signature).rejection? := by
  have hread : failureOf (Signature.read signature)
      = if signature.length = 64 then none else some (.length "signature" 64 signature.length) :=
    (failureOf_map _ _).trans (failureOf_checkLength _ _ _)
  rw [rejection?, inputs, List.findSome?_cons, Input.rejection?, procedure]
  rcases hs : Signature.read signature with e | sig
  · rw [hs] at hread
    have hsize : ¬ signature.length = 64 := by
      intro h
      rw [if_pos h] at hread
      cases hread
    rw [if_neg hsize] at hread ⊢
    obtain rfl := Option.some.inj hread
    rfl
  · have hsize : signature.length = 64 := (Signature.length_eq_iff signature).2 ⟨sig, hs⟩
    -- the halves are encodings, so behind the signature only key and hash can be rejected
    have hscreens := (Procedure.screens_verify key hash sig.r.encode.toList
      sig.w.encode.toList).failureOf_eq
    have hr := sig.r.encode.length_toList
    have hw := sig.w.encode.length_toList
    rw [if_pos hsize, failureOf_map, hscreens]
    simp [List.findSome?_cons, Input.rejection?, Input.element, hr, hw]

/-- **The check of an operation fails with the first rejection, or not at all.** -/
theorem failureOf_procedure (op : Operation) : failureOf op.procedure = op.rejection? := by
  cases op with
  | verifySignature key hash signature => exact failureOf_verifySignature key hash signature
  | hades grid =>
    have hgrid := failureOf_ofGrid grid
    rw [procedure, failureOf_map, Procedure.hades, rejection?, inputs, List.findSome?_cons,
      Input.rejection?, ← hgrid]
    rcases Poseidon.WireState.ofGrid grid with e | state <;> rfl
  | hadesState state => rfl
  | pedersen a b => exact ((Procedure.screens_pedersen a b).map _).failureOf_eq
  | sign d m k => exact ((Procedure.screens_sign d m k).map _).failureOf_eq
  | signDeterministic d m seed =>
    have h := ((Procedure.screens_signDeterministic d m seed).map
      (Program.map (ofBytes (n := 64)))).failureOf_eq
    cases seed <;> exact h
  | verify q h r w => exact ((Procedure.screens_verify q h r w).map _).failureOf_eq
  | publicKey d => exact ((Procedure.screens_publicKey d).map _).failureOf_eq
  | pedersenOnElements as =>
    have h := ((Procedure.screens_pedersenOnElements as).map
      (Program.map (ofBytes (n := 32)))).failureOf_eq
    rw [List.map_map] at h
    exact h
  | poseidonHash a b => exact ((Procedure.screens_poseidonHash a b).map _).failureOf_eq
  | poseidonHashSingle a => exact ((Procedure.screens_poseidonHashSingle a).map _).failureOf_eq
  | poseidonHashMany as =>
    have h := ((Procedure.screens_poseidonHashMany as).map
      (Program.map (ofBytes (n := 32)))).failureOf_eq
    rw [List.map_map] at h
    exact h

end Operation
end Bridge
end StarkWire
