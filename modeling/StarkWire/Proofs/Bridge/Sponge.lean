/-
# What the permutation gets determines the call

There are three Poseidon hashes: of two elements, of one, and of a list.  Each puts states to the
permutation and nothing else.  If the permutation is a function, the states put to it tell which of
the three was called, and on which elements modulo the field prime (`permuted_eq_iff`); nothing is
asked of the function, which may well send two states to one.

Three facts carry this.

* The third element of the first state is 2, 1 or 0, a different tag for each hash
  (`Hashing.tag_of_inputs`).
* A list is padded with a one, beside a left-over element or alone before a zero, and the padding
  can be taken off again (`unpadded_padded`).
* A state put to the permutation and the one before it give back the pair that was absorbed between
  them, since what was absorbed into is the value of the function (`absorbed_injective`).
-/

import StarkWire.Proofs.Bridge.Exchange
import StarkWire.Proofs.Bridge.Operation
import StarkWire.Proofs.Bridge.Traffic
import StarkWire.Proofs.Field.Residue
import Mathlib.Data.List.Forall2

namespace StarkWire

/-- An element that is added can be told by the sum. -/
theorem Fp.add_left_cancel_iff {a b c : Fp} : a + b = a + c ↔ b = c := by
  rw [← residue_inj, residue_add, residue_add, add_right_inj, residue_inj]

namespace Bridge

variable {σ α : Type} {P : Primitives σ} {f : Poseidon.State → Poseidon.State}

/-! ### Padding and absorbing -/

/-- A list cut into pairs and ended by a one: beside a left-over element, or before a zero. -/
def padded : List Fp → List (Fp × Fp)
  | a :: b :: rest => (a, b) :: padded rest
  | [a] => [(a, 1)]
  | [] => [(1, 0)]

/-- The list that was padded. -/
def unpadded : List (Fp × Fp) → List Fp
  | [] => []
  | [(a, b)] => if b = 0 then [] else [a]
  | (a, b) :: rest => a :: b :: unpadded rest

/-- Padding leaves no list empty. -/
theorem padded_ne_nil (elements : List Fp) : padded elements ≠ [] := by
  unfold padded
  split <;> exact List.cons_ne_nil _ _

/-- The padding of a list can be taken off: it is a one and perhaps a zero after it. -/
theorem unpadded_padded (elements : List Fp) : unpadded (padded elements) = elements := by
  induction elements using padded.induct with
  | case1 a b rest ih =>
    obtain ⟨first, others, h⟩ := List.exists_cons_of_ne_nil (padded_ne_nil rest)
    rw [h] at ih
    rw [padded, h, unpadded, ih]
    exact List.cons_ne_nil _ _
  | case2 a => exact if_neg (by decide)
  | case3 => exact if_pos rfl

/-- Different lists are padded to different ones. -/
theorem padded_injective : Function.Injective padded :=
  Function.LeftInverse.injective unpadded_padded

/-- Into the same state only the same pair is absorbed with the same result. -/
theorem absorb_inj {s : Poseidon.State} {a b a' b' : Fp} :
    absorb s a b = absorb s a' b' ↔ a = a' ∧ b = b' := by
  simp only [absorb, Poseidon.State.mk.injEq, Fp.add_left_cancel_iff, and_true]

/-- The states that the permutation `f` gets when pairs are absorbed from the state `t` on. -/
def absorbed (f : Poseidon.State → Poseidon.State) (t : Poseidon.State) :
    List (Fp × Fp) → List Poseidon.State
  | [] => []
  | (a, b) :: rest => absorb t a b :: absorbed f (f (absorb t a b)) rest

/-- Both lists of pairs start from the same state, so equal first states come of equal first pairs,
and the rest starts from the same state again. -/
theorem absorbed_injective (t : Poseidon.State) : Function.Injective (absorbed f t) := by
  intro xs
  induction xs generalizing t with
  | nil =>
    intro ys h
    cases ys with
    | nil => rfl
    | cons y ys => cases h
  | cons x xs ih =>
    intro ys h
    cases ys with
    | nil => cases h
    | cons y ys =>
      obtain ⟨hfirst, hrest⟩ := List.cons.inj h
      obtain ⟨h₁, h₂⟩ := absorb_inj.1 hfirst
      obtain rfl : x = y := Prod.ext h₁ h₂
      rw [ih _ hrest]

/-! ### The states of a run -/

/-- The states that a run puts to the permutation. -/
def Run.permuted (r : Run σ α) : List Poseidon.State :=
  r.calls.filterMap fun q =>
    match q with
    | .permute state => some state
    | _ => none

/-- A changed answer changes nothing of what was permuted. -/
theorem Run.permuted_map {β : Type} (g : α → β) (r : Run σ α) :
    (r.map g).permuted = r.permuted := rfl

/-- The permutation of `P` never fails, and is the function `f`. -/
def PermutesBy (P : Primitives σ) (f : Poseidon.State → Poseidon.State) : Prop :=
  ∀ state s, (P.reply (.permute state) s).1 = .value (f state)

/-- Primitives that permute by `f` lead on to what is asked for after the permuted state. -/
theorem PermutesBy.run_ask (hP : PermutesBy P f) (t : Poseidon.State)
    (next : Poseidon.State → Program α) (s : σ) :
    (Program.ask (.permute t) next).run P s
      = ((next (f t)).run P (P.reply (.permute t) s).2).after (.permute t) :=
  Program.run_ask_of_value (Prod.ext (hP t s) rfl)

/-- **A sponge permutes what it absorbs.**  The states are those of the padded list, pair by pair.
-/
theorem PermutesBy.permuted_sponge (hP : PermutesBy P f) (t : Poseidon.State)
    (elements : List Fp) (s : σ) :
    ((sponge t elements).run P s).permuted = absorbed f t (padded elements) := by
  induction elements using padded.induct generalizing t s with
  | case1 a b rest ih =>
    rw [sponge, hP.run_ask, padded, absorbed, ← ih (f (absorb t a b))]
    rfl
  | case2 a =>
    rw [sponge, Program.request, hP.run_ask]
    rfl
  | case3 =>
    rw [sponge, Program.request, hP.run_ask]
    rfl

/-! ### The three hashes -/

/-- Bytes are the same element just when their values agree modulo the prime. -/
theorem element_eq_iff {a b : Bytes 32} :
    element a = element b ↔ a.value ≡ b.value [MOD Fp.prime] :=
  ⟨fun h => congrArg Fp.val h, element_congr⟩

/-- Lists of bytes are the same elements just when their values agree one by one. -/
theorem map_element_eq_iff {as bs : List (Bytes 32)} :
    as.map element = bs.map element
      ↔ List.Forall₂ (fun a b => a.value ≡ b.value [MOD Fp.prime]) as bs := by
  rw [← List.forall₂_eq_eq_eq, List.forall₂_map_left_iff, List.forall₂_map_right_iff]
  simp only [element_eq_iff]

/-- A Poseidon hash of elements of the right length. -/
inductive Hashing where
  | pair (first second : Bytes 32)
  | single (value : Bytes 32)
  | many (elements : List (Bytes 32))

namespace Hashing

/-- The operation that computes the hash. -/
def operation : Hashing → Operation
  | pair a b => .poseidonHash a.toList b.toList
  | single a => .poseidonHashSingle a.toList
  | many elements => .poseidonHashMany (elements.map Bytes.toList)

/-- The same hash of as many elements, each congruent to the other modulo the field prime. -/
def Agrees : Hashing → Hashing → Prop
  | pair a b, pair a' b' => a.value ≡ a'.value [MOD Fp.prime] ∧ b.value ≡ b'.value [MOD Fp.prime]
  | single a, single a' => a.value ≡ a'.value [MOD Fp.prime]
  | many elements, many elements' =>
    List.Forall₂ (fun a a' => a.value ≡ a'.value [MOD Fp.prime]) elements elements'
  | _, _ => False

/-- The states that the permutation `f` gets. -/
def inputs (f : Poseidon.State → Poseidon.State) : Hashing → List Poseidon.State
  | pair a b => [⟨element a, element b, 2⟩]
  | single a => [⟨element a, 0, 1⟩]
  | many elements => absorbed f ⟨0, 0, 0⟩ (padded (elements.map element))

/-- The third element of the first state. -/
def tag : Hashing → Fp
  | pair _ _ => 2
  | single _ => 1
  | many _ => 0

/-- The first input of a hash shows in its last element which hash it is. -/
theorem tag_of_inputs (h : Hashing) : (h.inputs f).head?.map Poseidon.State.s2 = some h.tag := by
  cases h with
  | pair a b => rfl
  | single a => rfl
  | many elements =>
    obtain ⟨first, others, hp⟩ :=
      List.exists_cons_of_ne_nil (padded_ne_nil (elements.map element))
    rw [inputs, hp]
    rfl

/-- **The recorded inputs are those of the hash.** -/
theorem permuted_run (hP : PermutesBy P f) (h : Hashing) (s : σ) :
    (h.operation.run P s).permuted = h.inputs f := by
  cases h with
  | pair a b =>
    rw [operation, Operation.run, Run.permuted_map, Run.permuted, (asks_poseidonHash P s a b).calls]
    rfl
  | single a =>
    rw [operation, Operation.run, Run.permuted_map, Run.permuted,
      (asks_poseidonHashSingle P s a).calls]
    rfl
  | many elements =>
    rw [operation, Operation.run, Bridge.poseidonHashMany, Procedure.poseidonHashMany_toList,
      Run.permuted_map, Checked.run, Program.run_map, Run.permuted_map, hP.permuted_sponge, inputs]

/-- Equal states come of equal tags, so of the same hash, and then of the same elements. -/
theorem inputs_eq_iff {h h' : Hashing} : h.inputs f = h'.inputs f ↔ h.Agrees h' := by
  constructor
  · intro heq
    -- the last element of the first state is the tag, which no two kinds of hash share
    have htag : h.tag = h'.tag := by
      have ht := h.tag_of_inputs (f := f)
      rw [heq, tag_of_inputs] at ht
      exact (Option.some.inj ht).symm
    cases h with
    | pair a b =>
      cases h' with
      | pair a' b' =>
        simp only [inputs, List.cons.injEq, Poseidon.State.mk.injEq, and_true] at heq
        exact ⟨element_eq_iff.1 heq.1, element_eq_iff.1 heq.2⟩
      | single a' => exact absurd htag (show (2 : Fp) ≠ 1 by decide)
      | many elements' => exact absurd htag (show (2 : Fp) ≠ 0 by decide)
    | single a =>
      cases h' with
      | pair a' b' => exact absurd htag (show (1 : Fp) ≠ 2 by decide)
      | single a' =>
        simp only [inputs, List.cons.injEq, Poseidon.State.mk.injEq, and_true] at heq
        exact element_eq_iff.1 heq
      | many elements' => exact absurd htag (show (1 : Fp) ≠ 0 by decide)
    | many elements =>
      cases h' with
      | pair a' b' => exact absurd htag (show (0 : Fp) ≠ 2 by decide)
      | single a' => exact absurd htag (show (0 : Fp) ≠ 1 by decide)
      | many elements' =>
        exact map_element_eq_iff.1 (padded_injective (absorbed_injective _ heq))
  · intro hagree
    cases h <;> cases h' <;> try exact hagree.elim
    · rw [inputs, inputs, element_congr hagree.1, element_congr hagree.2]
    · rw [inputs, inputs, element_congr hagree]
    · rw [inputs, inputs, map_element_eq_iff.2 hagree]

end Hashing

/-- **The states put to the permutation determine the hash and its elements.** -/
theorem permuted_eq_iff (hP : PermutesBy P f) (h h' : Hashing) (s s' : σ) :
    (h.operation.run P s).permuted = (h'.operation.run P s').permuted ↔ h.Agrees h' := by
  rw [h.permuted_run hP, h'.permuted_run hP, Hashing.inputs_eq_iff]

/-- Primitives that count what they are asked and panic, but for a permutation that sends every
state to zero. -/
def forgetful : Primitives ℕ :=
  ⟨fun q n =>
    (match q with
      | .permute _ => .value ⟨0, 0, 0⟩
      | _ => .panic, n + 1)⟩

/-- Although the permutation tells no two states apart, what it gets does: the lists `p + 1, 2, 3`
and `1, 2, 3` are absorbed alike, the pair `1, 2` and the list `1, 2` are not. -/
theorem permuted_forgetful :
    PermutesBy forgetful (fun _ => ⟨0, 0, 0⟩) ∧
    ((Hashing.many [.ofValue 32 (Fp.prime + 1), .ofValue 32 2, .ofValue 32 3]).operation.run
        forgetful 0).permuted
      = ((Hashing.many [.ofValue 32 1, .ofValue 32 2, .ofValue 32 3]).operation.run
        forgetful 7).permuted ∧
    ((Hashing.pair (.ofValue 32 1) (.ofValue 32 2)).operation.run forgetful 0).permuted
      ≠ ((Hashing.many [.ofValue 32 1, .ofValue 32 2]).operation.run forgetful 0).permuted := by
  have hP : PermutesBy forgetful (fun _ => ⟨0, 0, 0⟩) := fun _ _ => rfl
  refine ⟨hP, (permuted_eq_iff hP _ _ _ _).2 ?_, fun h => (permuted_eq_iff hP _ _ _ _).1 h⟩
  exact .cons (by decide +kernel) (.cons rfl (.cons rfl .nil))

end Bridge
end StarkWire
