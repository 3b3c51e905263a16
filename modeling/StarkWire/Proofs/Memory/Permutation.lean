/-
# The permutation over memory

A caller hands over a run of bytes and two numbers, `rows` and `cols`, and the grid is cut out of
the bytes by these: eight bytes to a limb, `cols` limbs to a row.  A run of `8 * rows * cols` bytes
comes apart in `rows` rows of `cols` limbs exactly (`pieces_eq_map_range`), so the grid has the
right shape just when the numbers are 3 and 4; another product of 12 does not, nor does one that is
12 only modulo `2 ^ 64`, which is refused before anything is read.

Limb `j` of row `i` stands at byte `8 * (4 * i + j)` of a grid in memory (`gridAt`).  The result is
laid out in the same way, and is complete before its first byte is written: the grid at the output
after the call is the permutation of the grid that was at the input before it, wherever the two lie
(`permutes_true_shape`).
-/

import StarkWire.Primitive.Production
import StarkWire.Proofs.Bridge.Grid
import StarkWire.Proofs.Memory.Calls

namespace StarkWire
namespace Memory

open Bridge
open Poseidon (WireState)

/-! ### Cutting a list into pieces -/

variable {α : Type}

/-- Pieces are cut off one after the other. -/
theorem pieces_of_ne_nil {n : ℕ} {xs : List α} (hn : 0 < n) (h : xs ≠ []) :
    pieces n xs = xs.take n :: pieces n (xs.drop n) := by
  obtain ⟨m, rfl⟩ := Nat.exists_eq_add_one.2 hn
  cases xs with
  | nil => exact absurd rfl h
  | cons a rest => rw [pieces, List.take_succ_cons, List.drop_succ_cons, Nat.add_sub_cancel]

/-- **Nothing is left over.**  A list as long as `count` pieces is cut into them, piece `i` from place
`n * i` on. -/
theorem pieces_eq_map_range {n count : ℕ} {xs : List α} (hn : 0 < n)
    (h : xs.length = count * n) :
    pieces n xs = (List.range count).map fun i => (xs.drop (n * i)).take n := by
  induction count generalizing xs with
  | zero =>
    obtain rfl := List.length_eq_zero_iff.1 (h.trans (Nat.zero_mul n))
    rw [pieces, List.range_zero, List.map_nil]
  | succ count ih =>
    rw [Nat.succ_mul] at h
    have hne : xs ≠ [] := List.ne_nil_of_length_pos (by omega)
    have hrest : (xs.drop n).length = count * n := by rw [List.length_drop]; omega
    rw [pieces_of_ne_nil hn hne, ih hrest, List.range_succ_eq_map, List.map_cons, List.map_map]
    refine congrArg _ (List.map_congr_left fun i _ => ?_)
    rw [Function.comp_apply, List.drop_drop, Nat.mul_succ, Nat.add_comm n]

/-- Limbs are read from bytes eight by eight. -/
theorem limbsOfBytes_eq {bytes : Buffer} {count : ℕ} (h : bytes.length = 8 * count) :
    limbsOfBytes bytes = (List.range count).map (U256.limbAt bytes) := by
  have hcount : bytes.length = count * U256.limbSize := h.trans (Nat.mul_comm 8 count)
  rw [limbsOfBytes, pieces_eq_map_range (by decide) hcount, List.map_map]
  rfl

/-- The limbs that are read are those from the start on, as many as there have to be. -/
theorem limbsOfBytes_read {memory : Buffer} {start count : ℕ}
    (h : start + 8 * count ≤ memory.length) :
    limbsOfBytes ((memory.drop start).take (U256.limbSize * count))
      = (List.range count).map
          (U256.limbAt ((memory.drop start).take (U256.limbSize * count))) := by
  refine limbsOfBytes_eq ?_
  rw [List.length_take, List.length_drop, U256.limbSize]
  omega

/-- The grid cut out of a list has the right shape just when the numbers are the right ones. -/
theorem wellShaped_pieces_iff {rows cols : ℕ} {limbs : List UInt64}
    (h : limbs.length = rows * cols) (hpos : 0 < rows * cols) :
    WellShaped (pieces cols limbs) ↔ rows = 3 ∧ cols = 4 := by
  have hrows : 0 < rows := Nat.pos_of_mul_pos_right hpos
  rw [pieces_eq_map_range (Nat.pos_of_mul_pos_left hpos) h, WellShaped, List.length_map,
    List.length_range, List.forall_mem_map]
  refine and_congr_right fun _ => ?_
  have hlen : ∀ i ∈ List.range rows, ((limbs.drop (cols * i)).take cols).length = cols := by
    intro i hi
    have hle : cols * i + cols ≤ rows * cols := by
      rw [← Nat.mul_succ, Nat.mul_comm]
      exact Nat.mul_le_mul_right _ (List.mem_range.1 hi)
    rw [List.length_take, List.length_drop, h]
    omega
  constructor
  · intro hall
    have hzero : 0 ∈ List.range rows := List.mem_range.2 hrows
    exact (hlen 0 hzero).symm.trans (hall 0 hzero)
  · rintro rfl
    exact hlen

/-! ### Grids in memory -/

/-- The grid whose limbs, row after row, are the first twelve of `limb`. -/
def gridOf (limb : ℕ → UInt64) : Grid :=
  (List.range 3).map fun i => (List.range 4).map fun j => limb (4 * i + j)

/-- The three rows of four limbs that stand at a place, each limb as eight little-endian bytes. -/
def gridAt (memory : Buffer) (place : ℕ) : Grid := gridOf (U256.limbAt (memory.drop place))

/-- What is read from the memory has the shape of a state. -/
theorem wellShaped_gridAt (memory : Buffer) (place : ℕ) : WellShaped (gridAt memory place) :=
  ⟨rfl, by simp [gridAt, gridOf]⟩

/-- A grid is told by its twelve limbs. -/
theorem gridOf_congr {f g : ℕ → UInt64} (h : ∀ k < 12, f k = g k) : gridOf f = gridOf g := by
  refine List.map_congr_left fun i hi => List.map_congr_left fun j hj => h _ ?_
  rw [List.mem_range] at hi hj
  omega

/-- Twelve limbs in pieces of four are three rows. -/
theorem pieces_map_range (f : ℕ → UInt64) : pieces 4 ((List.range 12).map f) = gridOf f := by
  have hlen : ((List.range 12).map f).length = 3 * 4 := by rw [List.length_map, List.length_range]
  rw [pieces_eq_map_range (by decide) hlen]
  rfl

/-- The limbs of a state lie in its first 96 bytes. -/
theorem limbAt_take {bytes : Buffer} {k : ℕ} (h : k < 12) :
    U256.limbAt (bytes.take 96) k = U256.limbAt bytes k := by
  rw [U256.limbAt, U256.limbAt, List.drop_take, List.take_take, Nat.min_eq_left]
  simp only [U256.limbSize]
  omega

/-- Limbs written one after the other are read back. -/
theorem limbAt_flatMap_limbBytes {ws : List UInt64} {k : ℕ} {w : UInt64} (h : ws[k]? = some w) :
    U256.limbAt (ws.flatMap U256.limbBytes) k = w := by
  induction ws generalizing k with
  | nil => cases h
  | cons v rest ih =>
    have hv : (U256.limbBytes v).length = U256.limbSize := length_leBytes _ _
    rw [List.flatMap_cons]
    cases k with
    | zero =>
      obtain rfl : v = w := Option.some.inj h
      rw [U256.limbAt, Nat.mul_zero, List.drop_zero, List.take_left' hv, U256.leValue_limbBytes,
        UInt64.ofNat_toNat]
    | succ k =>
      rw [← ih (k := k) h, U256.limbAt, U256.limbAt, Nat.mul_succ, Nat.add_comm,
        ← List.drop_drop, List.drop_left' hv]

/-- A state written at a place is the grid that stands there. -/
theorem gridAt_of_written {memory : Buffer} {place : ℕ} {state : WireState}
    (h : (memory.drop place).take 96 = gridBytes state.toGrid) :
    gridAt memory place = state.toGrid := by
  have hlimb : ∀ k < 12, U256.limbAt (memory.drop place) k = state.toGrid.flatten.getD k 0 := by
    intro k hk
    have hget : state.toGrid.flatten[k]? = some (state.toGrid.flatten.getD k 0) := by
      interval_cases k <;> rfl
    rw [← limbAt_take hk, h, gridBytes, limbAt_flatMap_limbBytes hget]
  rw [gridAt, gridOf_congr hlimb]
  rfl

/-- Cut by the right numbers, the bytes from a place on are the grid that stands there. -/
theorem pieces_limbsOfBytes {memory : Buffer} {start : ℕ} (h : start + 96 ≤ memory.length) :
    pieces 4 (limbsOfBytes ((memory.drop start).take (U256.limbSize * (3 * 4))))
      = gridAt memory start := by
  have hread := limbsOfBytes_read (show start + 8 * (3 * 4) ≤ memory.length from h)
  rw [hread]
  exact (pieces_map_range _).trans (gridOf_congr fun k hk => limbAt_take hk)

/-! ### The call -/

/-- What the call leaves behind: it is done just when the grid has the true shape and neither pointer
is null, and then the permutation of the grid at the input stands at the output. -/
structure PermutesTrueShape (memory : Buffer) (state : Option ℕ) (rows cols : ℕ) (out : Option ℕ)
    (outcome : Outcome) : Prop where
  done_iff : outcome.status = 0 ↔ (rows = 3 ∧ cols = 4) ∧ state ≠ none ∧ out ≠ none
  invalid_iff : outcome.status = -1 ↔ ¬ ((rows = 3 ∧ cols = 4) ∧ state ≠ none ∧ out ≠ none)
  written (h : outcome.status = 0) : ∃ start place, state = some start ∧ out = some place ∧
    (hades Production.primitives (gridAt memory start) ()).answer
      = .ok (gridAt outcome.memory place) ∧
    StaysWithin memory (some place) 96 outcome
  kept (h : outcome.status = -1) : outcome.memory = memory

/-- Another shape or a null pointer is refused, and nothing is written. -/
theorem PermutesTrueShape.of_refused {memory : Buffer} {state out : Option ℕ} {rows cols : ℕ}
    (h : ¬ ((rows = 3 ∧ cols = 4) ∧ state ≠ none ∧ out ≠ none)) :
    PermutesTrueShape memory state rows cols out ⟨-1, memory⟩ where
  done_iff := by simp [h]
  invalid_iff := by simp [h]
  written h0 := by simp at h0
  kept _ := rfl

/-- A grid of another shape is refused by the bridge, and the block stays as it is. -/
theorem store_hades_of_not_wellShaped {σ : Type} (P : Primitives σ) (s : σ) {grid : Grid}
    (h : ¬ WellShaped grid) (memory : Buffer) (place : ℕ) :
    store memory place ((hades P grid s).answer.map gridBytes) = ⟨-1, memory⟩ := by
  rcases hgrid : WireState.ofGrid grid with e | state
  · rw [hades_of_ofGrid_eq_error P s hgrid]
    rfl
  · exact absurd ((gridsAreStates.shape_iff grid).2 ⟨state, hgrid⟩) h

/-- The production permutation brings a state for every grid of the right shape. -/
theorem exists_hades_answer {grid : Grid} (h : WellShaped grid) :
    ∃ state : WireState, (hades Production.primitives grid ()).answer = .ok state.toGrid := by
  obtain ⟨state, hstate⟩ := (gridsAreStates.shape_iff grid).1 h
  rw [hades_of_ofGrid_eq_ok _ _ hstate]
  exact ⟨(Poseidon.permute state.toState).toWire, rfl⟩

/-- A state that is the answer is stored whole. -/
theorem PermutesTrueShape.of_answer {memory : Buffer} {start place : ℕ} {state : WireState}
    (hplace : place + 96 ≤ memory.length)
    (h : (hades Production.primitives (gridAt memory start) ()).answer = .ok state.toGrid) :
    PermutesTrueShape memory (some start) 3 4 (some place)
      ⟨0, memory.splice place (gridBytes state.toGrid)⟩ := by
  have hlen : (gridBytes state.toGrid).length = 96 := length_gridBytes_toGrid state
  have hover : Overwritten memory place (gridBytes state.toGrid)
      (memory.splice place (gridBytes state.toGrid)) :=
    Buffer.overwritten_splice (by rwa [hlen])
  -- what has been written is read back, also where it overlaps the input
  have hgrid : gridAt (memory.splice place (gridBytes state.toGrid)) place = state.toGrid := by
    refine gridAt_of_written ?_
    rw [← hlen]
    exact hover.inside
  refine ⟨by simp, by simp, fun _ => ⟨start, place, rfl, rfl, ?_, .of_overwritten hlen hover⟩, ?_⟩
  · rw [h, hgrid]
  · intro h0
    simp at h0

/-- **Only the true shape is permuted.** -/
theorem permutes_true_shape (memory : Buffer) (state : Option ℕ) (rows cols : ℕ)
    (out : Option ℕ) (hstate : ∀ start, state = some start → rows * cols < 2 ^ 64 →
      start + 8 * (rows * cols) ≤ memory.length)
    (hout : ∀ place, out = some place → place + 96 ≤ memory.length) :
    PermutesTrueShape memory state rows cols out
      ((Call.hades state rows cols out).run Production.primitives memory ()).answer := by
  rw [Call.run]
  unfold hadesAt
  by_cases hsize : rows * cols = 0 ∨ countBound ≤ rows * cols
  · rw [if_pos hsize]
    refine .of_refused ?_
    -- twelve limbs are neither none nor too many
    rintro ⟨⟨rfl, rfl⟩, -⟩
    exact absurd hsize (by decide)
  rw [if_neg hsize]
  rcases state with _ | start
  · exact .of_refused fun h => h.2.1 rfl
  rcases out with _ | place
  · exact .of_refused fun h => h.2.2 rfl
  rw [Run.answer_map]
  by_cases hshape : rows = 3 ∧ cols = 4
  · obtain ⟨rfl, rfl⟩ := hshape
    have hgrid := pieces_limbsOfBytes (hstate start rfl (by decide))
    obtain ⟨result, hresult⟩ := exists_hades_answer (wellShaped_gridAt memory start)
    rw [hgrid, hresult]
    exact .of_answer (hout place rfl) hresult
  · push Not at hsize
    have hlen : (limbsOfBytes ((memory.drop start).take (U256.limbSize * (rows * cols)))).length
        = rows * cols := by
      rw [limbsOfBytes_read (hstate start rfl hsize.2), List.length_map, List.length_range]
    have hill := mt (wellShaped_pieces_iff hlen (Nat.pos_of_ne_zero hsize.1)).1 hshape
    rw [store_hades_of_not_wellShaped _ _ hill]
    exact .of_refused fun h => hshape h.1

/-- A state whose permutation goes over eleven of its own limbs, and the same twelve limbs as four
rows of three. -/
theorem permutes_true_shape_overlapping :
    let block : Buffer := List.replicate 104 7
    let permuted := ((Call.hades (some 0) 3 4 (some 8)).run Production.primitives block ()).answer
    let refused := ((Call.hades (some 0) 4 3 (some 8)).run Production.primitives block ()).answer
    (permuted.status = 0 ∧ (hades Production.primitives (gridAt block 0) ()).answer
      = .ok (gridAt permuted.memory 8)) ∧
    refused.status = -1 ∧ refused.memory = block := by
  intro block permuted refused
  have hlen : block.length = 104 := List.length_replicate
  have hout : ∀ place, some 8 = some place → place + 96 ≤ block.length := by
    rintro _ ⟨⟩
    omega
  have hstate : ∀ start, some 0 = some start → start + 96 ≤ block.length := by
    rintro _ ⟨⟩
    omega
  have hdone := permutes_true_shape block (some 0) 3 4 (some 8) (fun _ h _ => hstate _ h) hout
  have hkept := permutes_true_shape block (some 0) 4 3 (some 8) (fun _ h _ => hstate _ h) hout
  have h0 : permuted.status = 0 := hdone.done_iff.2 (by decide)
  have h1 : refused.status = -1 := hkept.invalid_iff.2 (by decide)
  obtain ⟨start, place, hstart, hplace, hgrid, -⟩ := hdone.written h0
  cases hstart
  cases hplace
  exact ⟨⟨h0, hgrid⟩, h1, hkept.kept h1⟩

end Memory
end StarkWire
