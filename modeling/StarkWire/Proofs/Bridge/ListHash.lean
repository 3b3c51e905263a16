/-
# Hashes of lists by the public operations

The chain and the sponge keep what they have hashed so far as field elements.  A caller who has
only the public operations keeps wire bytes, or a grid of limbs, and hands them back at each step.
The two come to the same run: the same answer or error, the same calls in the same order, the same
events and the same state of the primitives, whatever these do
(`pedersenOnElements_by_pedersen`, `poseidon_by_hades`).

Two facts carry this.  An element that left as wire bytes or as a row of limbs is read back as the
same element, so a step on the one form is a step on the other (`Run.map_fold`).  And the padding
that the sponge does at its end, by cases of what is left over, is that of the list ended by a one
and filled up by a zero to an even length (`pairs_filled`).
-/

import StarkWire.Proofs.Bridge.Agenda
import StarkWire.Proofs.Bridge.Sequence
import StarkWire.Proofs.Bridge.Sponge

namespace StarkWire
namespace Bridge

variable {σ : Type} (P : Primitives σ)

/-! ### The Pedersen chain -/

/-- The number of a list's elements, as a one-limb value on the wire. -/
def countBytes (elements : List (Bytes 32)) : Bytes 32 :=
  (U256.ofWord (.ofNat elements.length)).encode

/-- The hash of zero with the first element, of that with the second, and so on, and at the end
with the number of elements, every one of them by the public operation. -/
def hashInTurn (elements : List (Bytes 32)) (s : σ) : Run σ (Except Error (Bytes 32)) :=
  (Run.fold (fun acc e => pedersen P acc.toList e.toList) (Bytes.zero 32) elements s).andThen
    fun acc => pedersen P acc.toList (countBytes elements).toList

/-- Zero leaves as zero bytes. -/
theorem toWire_zero : Fp.toWire 0 = Bytes.zero 32 := by decide

/-- A length below `2 ^ 64` is the element that its bytes denote. -/
theorem element_countBytes {elements : List (Bytes 32)} (h : elements.length < 2 ^ 64) :
    element (countBytes elements) = .ofNat elements.length := by
  rw [element, countBytes, U256.value_encode]
  refine congrArg Fp.ofNat ?_
  simpa [U256.ofWord, U256.toNat] using h

/-- A chain is a fold of requests for hashes of two. -/
theorem run_chain (acc : Fp) (elements : List Fp) (s : σ) :
    (chain acc elements).run P s
      = Run.fold (fun acc e => (Program.request (.pedersen acc e)).run P) acc elements s := by
  induction elements generalizing acc s with
  | nil => rfl
  | cons a rest ih =>
    have h : chain acc (a :: rest)
        = (Program.request (.pedersen acc a)).bind fun acc => chain acc rest := rfl
    rw [h, Program.run_bind, Run.fold]
    simp only [ih]

/-- What was written to the wire is hashed as the element that it was written from. -/
theorem pedersen_toWire (acc : Fp) (e : Bytes 32) (s : σ) :
    pedersen P acc.toWire.toList e.toList s
      = ((Program.request (.pedersen acc (element e))).run P s).map (Except.map Fp.toWire) := by
  rw [pedersen, Procedure.pedersen_toList, element_toWire]
  exact Program.run_map P _ _ s

/-- The chain on field elements, written to the wire, is the chain on wire bytes. -/
theorem map_run_chain (acc : Fp) (elements : List (Bytes 32)) (s : σ) :
    ((chain acc (elements.map element)).run P s).map (Except.map Fp.toWire)
      = Run.fold (fun acc e => pedersen P acc.toList e.toList) acc.toWire elements s := by
  rw [run_chain, Run.fold_map]
  exact Run.map_fold (fun acc e s => (pedersen_toWire P acc e s).symm) acc elements s

/-- **The chain is that of the public operations.** -/
theorem pedersenOnElements_by_pedersen (elements : List (Bytes 32))
    (h : elements.length < 2 ^ 64) (s : σ) :
    pedersenOnElements P (elements.map Bytes.toList) s = hashInTurn P elements s ∧
    ((∀ x ∈ P.exchanges (hashInTurn P elements s).calls s, x.succeeded = true) →
      (∃ digest, (hashInTurn P elements s).answer = .ok digest) ∧
      (hashInTurn P elements s).calls.map Request.operation
        = List.replicate (elements.length + 1) "pedersen") := by
  have hrun : pedersenOnElements P (elements.map Bytes.toList)
      = ((terminatedChain (elements.map element)).map Fp.toWire).run P := by
    rw [pedersenOnElements, Procedure.pedersenOnElements_toList]
    rfl
  have heq : pedersenOnElements P (elements.map Bytes.toList) s = hashInTurn P elements s := by
    rw [hrun, Program.run_map, terminatedChain, Program.run_bind, Run.map_andThen, hashInTurn,
      ← toWire_zero, ← map_run_chain, Run.andThen_map]
    -- the two chains agree, and the last call takes the length as an element
    refine congrArg _ (funext₂ fun acc s => ?_)
    rw [pedersen_toWire, element_countBytes h, List.length_map]
  refine ⟨heq, fun hx => ?_⟩
  rw [← heq, hrun] at hx ⊢
  have hfollows := (follows_terminatedChain (elements.map element)).map Fp.toWire
  rw [List.length_map] at hfollows
  exact hfollows.calls_of_succeeded hx

/-- The list 7, 8 hashed by primitives that panic in their second call, and by primitives that never
fail. -/
theorem pedersenOnElements_by_pedersen_seven_eight :
    [Bytes.ofValue 32 7, .ofValue 32 8].length < 2 ^ 64 ∧
    pedersenOnElements (Script.primitives ⟨(· == 1), fun _ => false, ""⟩ Script.toyAnswer)
        ([Bytes.ofValue 32 7, .ofValue 32 8].map Bytes.toList) 0
      = hashInTurn (Script.primitives ⟨(· == 1), fun _ => false, ""⟩ Script.toyAnswer)
        [.ofValue 32 7, .ofValue 32 8] 0 ∧
    (hashInTurn (Script.primitives ⟨(· == 1), fun _ => false, ""⟩ Script.toyAnswer)
        [.ofValue 32 7, .ofValue 32 8] 0).calls = [.pedersen 0 7, .pedersen 14 8] ∧
    (hashInTurn (Script.primitives ⟨fun _ => false, fun _ => false, ""⟩ Script.toyAnswer)
        [.ofValue 32 7, .ofValue 32 8] 0).calls.map Request.operation
      = ["pedersen", "pedersen", "pedersen"] := by
  have h : [Bytes.ofValue 32 7, .ofValue 32 8].length < 2 ^ 64 := by decide
  refine ⟨h, (pedersenOnElements_by_pedersen _ _ h _).1, by decide +kernel, ?_⟩
  exact ((pedersenOnElements_by_pedersen _ _ h _).2 (by decide +kernel)).2

/-! ### The Poseidon sponge -/

/-- A list ended by a one, and filled up by a zero where its length is odd then. -/
def filled (elements : List Fp) : List Fp :=
  if (elements.length + 1) % 2 = 0 then elements ++ [1] else elements ++ [1, 0]

/-- The first element with the second, the third with the fourth, and so on. -/
def pairs : List Fp → List (Fp × Fp)
  | a :: b :: rest => (a, b) :: pairs rest
  | _ => []

/-- A filled list stays filled with two more elements in front. -/
theorem filled_cons_cons (a b : Fp) (rest : List Fp) :
    filled (a :: b :: rest) = a :: b :: filled rest := by
  have h : ((a :: b :: rest).length + 1) % 2 = (rest.length + 1) % 2 := by
    simp only [List.length_cons]
    omega
  rw [filled, filled, h]
  split <;> rfl

/-- What the sponge absorbs is the filled list, two elements at a time. -/
theorem pairs_filled (elements : List Fp) : pairs (filled elements) = padded elements := by
  induction elements using padded.induct with
  | case1 a b rest ih => rw [filled_cons_cons, pairs, ih, padded]
  | case2 a =>
    rw [filled, List.length_singleton]
    rfl
  | case3 => rfl

/-- Cut into pairs, the filled list is still whole. -/
theorem flatMap_pairs_filled (elements : List Fp) :
    ((pairs (filled elements)).flatMap fun x => [x.1, x.2]) = filled elements := by
  rw [pairs_filled]
  induction elements using padded.induct with
  | case1 a b rest ih =>
    rw [padded, filled_cons_cons, List.flatMap_cons, ih]
    rfl
  | case2 a =>
    rw [filled, List.length_singleton]
    rfl
  | case3 => rfl

/-- A grid with two elements added to its first two rows, modulo the field prime. -/
def addPair (grid : Grid) (x : Fp × Fp) : Grid :=
  wireLimbs (.ofU256 (Poseidon.WireState.rowAt grid 0) + x.1)
    :: wireLimbs (.ofU256 (Poseidon.WireState.rowAt grid 1) + x.2) :: grid.drop 2

/-- The first row of a grid, as wire bytes. -/
def firstRow (grid : Grid) : Bytes 32 := (Poseidon.WireState.rowAt grid 0).encode

/-- The grid of zeros, with each pair of the filled list added in turn and the public permutation
put to it after each. -/
def permuteInTurn (elements : List (Bytes 32)) : σ → Run σ (Except Error Grid) :=
  Run.fold (fun grid x => hades P (addPair grid x)) [[0, 0, 0, 0], [0, 0, 0, 0], [0, 0, 0, 0]]
    (pairs (filled (elements.map element)))

/-- The hashes of list, pair and single element by the public permutation.  The pairs of a list are
all of the filled list. -/
structure HashesByHades (P : Primitives σ) (s : σ) : Prop where
  whole (elements : List (Bytes 32)) :
    ((pairs (filled (elements.map element))).flatMap fun x => [x.1, x.2])
      = filled (elements.map element)
  many (elements : List (Bytes 32)) :
    poseidonHashMany P (elements.map Bytes.toList) s
      = (permuteInTurn P elements s).map (Except.map firstRow)
  calls (elements : List (Bytes 32))
    (succeeded : ∀ x ∈ P.exchanges (permuteInTurn P elements s).calls s, x.succeeded = true) :
    (∃ grid, (permuteInTurn P elements s).answer = .ok grid) ∧
    (permuteInTurn P elements s).calls.map Request.operation
      = List.replicate (elements.length / 2 + 1) "hades"
  pair (a b : Bytes 32) :
    poseidonHash P a.toList b.toList s
      = (hades P [(U256.decode a).limbs, (U256.decode b).limbs, [2, 0, 0, 0]] s).map
        (Except.map firstRow)
  single (a : Bytes 32) :
    poseidonHashSingle P a.toList s
      = (hades P [(U256.decode a).limbs, [0, 0, 0, 0], [1, 0, 0, 0]] s).map (Except.map firstRow)

/-- The first row of a state is its first element. -/
theorem rowAt_wireRows_zero (t : Poseidon.State) :
    Poseidon.WireState.rowAt (wireRows t) 0 = t.s0.toU256 := by
  rw [← toGrid_toWire]
  rfl

/-- The second row of a state is its second element. -/
theorem rowAt_wireRows_one (t : Poseidon.State) :
    Poseidon.WireState.rowAt (wireRows t) 1 = t.s1.toU256 := by
  rw [← toGrid_toWire]
  rfl

/-- Adding a pair to the first two rows absorbs it. -/
theorem addPair_wireRows (t : Poseidon.State) (x : Fp × Fp) :
    addPair (wireRows t) x = wireRows (absorb t x.1 x.2) := by
  rw [addPair, rowAt_wireRows_zero, rowAt_wireRows_one, Fp.ofU256_toU256, Fp.ofU256_toU256]
  rfl

/-- The hash is the first row of the state. -/
theorem firstRow_comp_wireRows : firstRow ∘ wireRows = squeeze :=
  funext fun t => congrArg U256.encode (rowAt_wireRows_zero t)

/-- The permutation of a state that was written as a grid is that of the state. -/
theorem hades_wireRows (t : Poseidon.State) (s : σ) :
    hades P (wireRows t) s = ((Program.request (.permute t)).map wireRows).run P s := by
  have h : Procedure.hades (wireRows t) = .ok ((Program.request (.permute t)).map wireRows) := by
    rw [← toGrid_toWire]
    refine (Procedure.hades_limbs _ _ _).trans ?_
    exact congrArg (fun t => Except.ok ((Program.request (.permute t)).map wireRows))
      t.toState_toWire
  rw [hades, h]
  rfl

/-- A sponge is a fold of permutations over the padded list, each of the state with a pair added. -/
theorem run_sponge (t : Poseidon.State) (elements : List Fp) (s : σ) :
    (sponge t elements).run P s
      = Run.fold (fun t x => (Program.request (.permute (absorb t x.1 x.2))).run P) t
        (padded elements) s := by
  induction elements using padded.induct generalizing t s with
  | case1 a b rest ih =>
    have h : sponge t (a :: b :: rest)
        = (Program.request (.permute (absorb t a b))).bind fun t => sponge t rest := rfl
    rw [h, Program.run_bind, padded, Run.fold]
    simp only [ih]
  | case2 a => exact (Run.andThen_done _).symm
  | case3 => exact (Run.andThen_done _).symm

/-- The sponge on a state, written as a grid, is the sponge on grids. -/
theorem run_map_sponge (t : Poseidon.State) (elements : List Fp) (s : σ) :
    ((sponge t elements).map wireRows).run P s
      = Run.fold (fun grid x => hades P (addPair grid x)) (wireRows t) (pairs (filled elements))
        s := by
  rw [Program.run_map, run_sponge, pairs_filled]
  refine Run.map_fold (fun t x s => ?_) t (padded elements) s
  rw [addPair_wireRows, hades_wireRows, Program.run_map]

/-- What is squeezed out of a state is the first row of its grid. -/
theorem run_map_squeeze (p : Program Poseidon.State) (s : σ) :
    (p.map squeeze).run P s = ((p.map wireRows).run P s).map (Except.map firstRow) := by
  rw [← Program.run_map, Program.map_map, firstRow_comp_wireRows]

/-- The hash of a single permutation is the first row of the permuted grid. -/
theorem squeeze_hades (x y z : U256) (s : σ) :
    ((Program.request (.permute ⟨.ofNat x.toNat, .ofNat y.toNat, .ofNat z.toNat⟩)).map squeeze).run
        P s
      = (hades P [x.limbs, y.limbs, z.limbs] s).map (Except.map firstRow) := by
  rw [hades, Procedure.hades_limbs]
  exact run_map_squeeze P _ s

/-- The element of 32 bytes is their value modulo the prime. -/
theorem element_eq (b : Bytes 32) : element b = .ofNat (U256.decode b).toNat := by
  rw [element, U256.toNat_decode]

/-- **The Poseidon hashes are those of the public permutation.** -/
theorem poseidon_by_hades (s : σ) : HashesByHades P s := by
  have hmany : ∀ elements : List (Bytes 32), permuteInTurn P elements s
      = ((sponge ⟨0, 0, 0⟩ (elements.map element)).map wireRows).run P s :=
    fun elements => (run_map_sponge P ⟨0, 0, 0⟩ _ s).symm
  refine ⟨fun elements => flatMap_pairs_filled _, fun elements => ?_, fun elements hx => ?_,
    fun a b => ?_, fun a => ?_⟩
  · rw [poseidonHashMany, Procedure.poseidonHashMany_toList, hmany]
    exact run_map_squeeze P _ s
  · rw [hmany] at hx ⊢
    have hfollows := (follows_sponge ⟨0, 0, 0⟩ (elements.map element)).map wireRows
    rw [List.length_map] at hfollows
    exact hfollows.calls_of_succeeded hx
  · rw [poseidonHash, Procedure.poseidonHash_toList, element_eq, element_eq]
    exact squeeze_hades P _ _ (.ofWord 2) s
  · rw [poseidonHashSingle, Procedure.poseidonHashSingle_toList, element_eq]
    exact squeeze_hades P _ .zero (.ofWord 1) s

/-- The list 1, 2, 3 hashed by primitives that panic in their second call, and by primitives that
never fail.  The toy permutation sends `1, 2, 0` to `3, 2, 4`. -/
theorem poseidon_by_hades_one_two_three :
    poseidonHashMany (Script.primitives ⟨(· == 1), fun _ => false, ""⟩ Script.toyAnswer)
        ([Bytes.ofValue 32 1, .ofValue 32 2, .ofValue 32 3].map Bytes.toList) 0
      = (permuteInTurn (Script.primitives ⟨(· == 1), fun _ => false, ""⟩ Script.toyAnswer)
        [.ofValue 32 1, .ofValue 32 2, .ofValue 32 3] 0).map (Except.map firstRow) ∧
    (permuteInTurn (Script.primitives ⟨(· == 1), fun _ => false, ""⟩ Script.toyAnswer)
        [.ofValue 32 1, .ofValue 32 2, .ofValue 32 3] 0).calls
      = [.permute ⟨1, 2, 0⟩, .permute ⟨6, 3, 4⟩] ∧
    (permuteInTurn (Script.primitives ⟨fun _ => false, fun _ => false, ""⟩ Script.toyAnswer)
        [.ofValue 32 1, .ofValue 32 2, .ofValue 32 3] 0).calls.map Request.operation
      = ["hades", "hades"] := by
  refine ⟨(poseidon_by_hades _ _).many _, by decide +kernel, ?_⟩
  exact ((poseidon_by_hades _ _).calls _ (by decide +kernel)).2

end Bridge
end StarkWire
