/-
# Grids in and out of the permutation

A grid of any shape is one of three things, and what becomes of it is fixed by which
(`GridCourse`).

| grid | outcome |
| --- | --- |
| not three rows | the number of its rows is the error |
| three rows, not all of four limbs | the first row of another length is the error |
| three rows of four limbs | one permutation, of the rows' values modulo the field prime |

Nothing is asked of the primitives in the first two cases.  In the third the rows stay in place on
both ways: a grid of the right shape is a state written out row by row, and is read as no other
(`ofGrid_eq_ok_iff`).
-/

import StarkWire.Primitive.Scripted
import StarkWire.Proofs.Bridge.Operation
import StarkWire.Proofs.Bridge.Traffic

namespace StarkWire

/-! ### The shape of a grid -/

/-- The number that a row of limbs denotes, the first limb the least significant. -/
def rowValue : List UInt64 → ℕ
  | [] => 0
  | w :: rest => w.toNat + 2 ^ 64 * rowValue rest

/-- Three rows of four limbs. -/
def WellShaped (grid : Grid) : Prop := grid.length = 3 ∧ ∀ row ∈ grid, row.length = 4

/-- The row at place `i` is the first that is not `cols` limbs long. -/
structure FirstBadRow (cols : ℕ) (grid : Grid) (i : ℕ) (row : List UInt64) : Prop where
  found : grid[i]? = some row
  bad : row.length ≠ cols
  least (j : ℕ) (other : List UInt64) (h : j < i) (hj : grid[j]? = some other) :
    other.length = cols

namespace FirstBadRow

variable {cols i : ℕ} {grid : Grid} {row values : List UInt64}

/-- A good row in front moves the first bad one. -/
theorem cons (h : values.length = cols) (hrow : FirstBadRow cols grid i row) :
    FirstBadRow cols (values :: grid) (i + 1) row where
  found := hrow.found
  bad := hrow.bad
  least j other hj hother := by
    cases j with
    | zero => rwa [← Option.some.inj hother]
    | succ j => exact hrow.least j other (Nat.lt_of_succ_lt_succ hj) hother

/-- Unless all rows are of the right length, one of the others is the first. -/
theorem exists_of_not_forall (h : ¬ ∀ row ∈ grid, row.length = cols) :
    ∃ i row, FirstBadRow cols grid i row := by
  induction grid with
  | nil => exact absurd (List.forall_mem_nil _) h
  | cons values rest ih =>
    by_cases hv : values.length = cols
    · obtain ⟨i, row, hrow⟩ := ih fun hall => h (List.forall_mem_cons.2 ⟨hv, hall⟩)
      exact ⟨i + 1, row, hrow.cons hv⟩
    · exact ⟨0, values, rfl, hv, fun j other hj _ => absurd hj (Nat.not_lt_zero j)⟩

/-- The rows are checked from the first on, so the first bad one is the error. -/
theorem checkRows_eq (h : FirstBadRow cols grid i row) (k : ℕ) :
    checkRows cols k grid = .error (.gridColumns (k + i) cols row.length) := by
  induction grid generalizing i k with
  | nil => cases h.found
  | cons values rest ih =>
    rw [checkRows]
    cases i with
    | zero =>
      obtain rfl : values = row := Option.some.inj h.found
      rw [if_pos h.bad]
      rfl
    | succ i =>
      have hv : values.length = cols := h.least 0 values (Nat.succ_pos i) rfl
      have hrest : FirstBadRow cols rest i row :=
        ⟨h.found, h.bad, fun j other hj => h.least (j + 1) other (Nat.succ_lt_succ hj)⟩
      rw [if_neg (not_not.2 hv), ih hrest, Nat.add_right_comm]
      rfl

end FirstBadRow

/-- Four limbs are those of a value. -/
theorem exists_limbs_eq {row : List UInt64} (h : row.length = 4) : ∃ a : U256, a.limbs = row := by
  obtain ⟨a, b, c, d, rfl⟩ := List.length_eq_four.1 h
  exact ⟨⟨a, b, c, d⟩, rfl⟩

/-- The value of a row is that of the value whose limbs it holds. -/
theorem rowValue_limbs (a : U256) : rowValue a.limbs = a.toNat := rfl

namespace Poseidon
namespace WireState

variable {grid : Grid} {state : WireState}

/-- The grid of a state is three rows of four limbs. -/
theorem wellShaped_toGrid (state : WireState) : WellShaped state.toGrid :=
  ⟨rfl, by simp [toGrid, elements, U256.limbs]⟩

/-- The grids of the right shape are the states written out. -/
theorem exists_toGrid_eq (h : WellShaped grid) : ∃ state, toGrid state = grid := by
  obtain ⟨x, y, z, rfl⟩ := List.length_eq_three.1 h.1
  simp only [WellShaped, List.forall_mem_cons] at h
  obtain ⟨-, hx, hy, hz, -⟩ := h
  obtain ⟨a, rfl⟩ := exists_limbs_eq hx
  obtain ⟨b, rfl⟩ := exists_limbs_eq hy
  obtain ⟨c, rfl⟩ := exists_limbs_eq hz
  exact ⟨⟨a, b, c⟩, rfl⟩

/-- A grid with another number of rows is rejected for it, whatever the rows are. -/
theorem ofGrid_of_length_ne (h : grid.length ≠ 3) :
    ofGrid grid = .error (.gridRows 3 grid.length) := by
  rw [ofGrid, checkGridShape, if_pos (show grid.length ≠ rows from h)]
  rfl

/-- A grid with three rows is rejected for the first row of another length. -/
theorem ofGrid_of_firstBadRow (h : grid.length = 3) {i : ℕ} {row : List UInt64}
    (hrow : FirstBadRow 4 grid i row) : ofGrid grid = .error (.gridColumns i 4 row.length) := by
  rw [ofGrid, checkGridShape, if_neg (show ¬ grid.length ≠ rows from not_not.2 h),
    show checkRows cols 0 grid = _ from hrow.checkRows_eq 0, Nat.zero_add]
  rfl

/-- **Grids and states are mutually inverse.** -/
theorem ofGrid_eq_ok_iff : ofGrid grid = .ok state ↔ state.toGrid = grid := by
  constructor
  · intro h
    by_cases hshape : WellShaped grid
    · obtain ⟨state', rfl⟩ := exists_toGrid_eq hshape
      rw [ofGrid_toGrid] at h
      rw [Except.ok.inj h]
    · by_cases hlen : grid.length = 3
      · obtain ⟨i, row, hrow⟩ :=
          FirstBadRow.exists_of_not_forall fun hall => hshape ⟨hlen, hall⟩
        cases (ofGrid_of_firstBadRow hlen hrow).symm.trans h
      · cases (ofGrid_of_length_ne hlen).symm.trans h
  · rintro rfl
    exact ofGrid_toGrid state

/-- **Lists of three elements and states are mutually inverse.** -/
theorem ofElements?_eq_some_iff {as : List U256} :
    ofElements? as = some state ↔ state.elements = as := by
  constructor
  · intro h
    unfold ofElements? at h
    split at h
    · obtain rfl := Option.some.inj h
      rfl
    · cases h
  · rintro rfl
    rfl

end WireState
end Poseidon

namespace Bridge

variable {σ : Type}

open Poseidon (WireState)

/-! ### What becomes of a grid -/

/-- A grid that is rejected before any request. -/
def rejectedGrid (s : σ) (e : SizeError) : Run σ (Except Error Grid) :=
  ⟨.error (.invalidInputSize e), s, [], [.rejected ⟨.grid, e⟩]⟩

/-- What becomes of a grid, begun in state `s`. -/
inductive GridCourse (P : Primitives σ) (s : σ) (grid : Grid) (r : Run σ (Except Error Grid)) :
    Prop
  /-- The number of rows is wrong, whatever the rows hold. -/
  | rows (length : grid.length ≠ 3) (run : r = rejectedGrid s (.gridRows 3 grid.length))
  /-- There are three rows, and the one at `i` is the first of a wrong length. -/
  | columns (length : grid.length = 3) (i : ℕ) (row : List UInt64)
      (first : FirstBadRow 4 grid i row) (run : r = rejectedGrid s (.gridColumns i 4 row.length))
  /-- There are three rows of four limbs: one permutation is asked for, and a state that it brings
  is answered row by row. -/
  | permuted (a b c : List UInt64) (rows : grid = [a, b, c]) (shape : WellShaped grid)
      (asks : Asks P s
        (.permute ⟨.ofNat (rowValue a), .ofNat (rowValue b), .ofNat (rowValue c)⟩) wireRows r)

/-- Grids of the right shape are states, and states are lists of three elements. -/
structure GridsAreStates : Prop where
  shape_iff (grid : Grid) : WellShaped grid ↔ ∃ state, WireState.ofGrid grid = .ok state
  grid_iff (grid : Grid) (state : WireState) :
    WireState.ofGrid grid = .ok state ↔ state.toGrid = grid
  length_iff (as : List U256) : as.length = 3 ↔ ∃ state, WireState.ofElements? as = some state
  elements_iff (as : List U256) (state : WireState) :
    WireState.ofElements? as = some state ↔ state.elements = as

/-- A rejected grid ends the operation before any request. -/
theorem hades_of_ofGrid_eq_error (P : Primitives σ) (s : σ) {grid : Grid} {e : SizeError}
    (h : WireState.ofGrid grid = .error e) : hades P grid s = rejectedGrid s e := by
  rw [hades, Procedure.hades, h]
  rfl

/-- The permutation of a grid is that of the state in it. -/
theorem hades_of_ofGrid_eq_ok (P : Primitives σ) (s : σ) {grid : Grid} {state : WireState}
    (h : WireState.ofGrid grid = .ok state) :
    hades P grid s = (hadesState P state s).map (Except.map WireState.toGrid) := by
  rw [hades, Procedure.hades, h]
  exact Checked.run_map P _ _ s

/-- What is answered to a grid is the grid of a state. -/
theorem exists_ofGrid_of_hades (P : Primitives σ) (s : σ) {grid answer : Grid}
    (h : (hades P grid s).answer = .ok answer) :
    ∃ state, WireState.ofGrid answer = .ok state := by
  rcases hg : WireState.ofGrid grid with e | state
  · rw [hades_of_ofGrid_eq_error P s hg] at h
    cases h
  · rw [hades_of_ofGrid_eq_ok P s hg, Run.answer_map] at h
    rcases hs : (hadesState P state s).answer with e | after
    · rw [hs] at h
      cases h
    · rw [hs] at h
      obtain rfl := Except.ok.inj h
      exact ⟨after, WireState.ofGrid_toGrid after⟩

/-- **The permutation of a grid takes one of the three courses.** -/
theorem gridCourse_hades (P : Primitives σ) (grid : Grid) (s : σ) :
    GridCourse P s grid (hades P grid s) := by
  by_cases hlen : grid.length = 3
  · by_cases hall : ∀ row ∈ grid, row.length = 4
    · obtain ⟨⟨a, b, c⟩, rfl⟩ := WireState.exists_toGrid_eq ⟨hlen, hall⟩
      refine .permuted a.limbs b.limbs c.limbs rfl ⟨hlen, hall⟩ ?_
      rw [rowValue_limbs, rowValue_limbs, rowValue_limbs]
      exact (exactTraffic P s).hades a b c
    · obtain ⟨i, row, hrow⟩ := FirstBadRow.exists_of_not_forall hall
      exact .columns hlen i row hrow
        (hades_of_ofGrid_eq_error P s (WireState.ofGrid_of_firstBadRow hlen hrow))
  · exact .rows hlen (hades_of_ofGrid_eq_error P s (WireState.ofGrid_of_length_ne hlen))

/-- **Grids and states are the same thing** in two forms. -/
theorem gridsAreStates : GridsAreStates where
  shape_iff grid := by
    simp only [WireState.ofGrid_eq_ok_iff]
    refine ⟨WireState.exists_toGrid_eq, ?_⟩
    rintro ⟨state, rfl⟩
    exact state.wellShaped_toGrid
  grid_iff _ _ := WireState.ofGrid_eq_ok_iff
  length_iff as := by
    simp only [WireState.ofElements?_eq_some_iff]
    constructor
    · intro h
      obtain ⟨a, b, c, rfl⟩ := List.length_eq_three.1 h
      exact ⟨⟨a, b, c⟩, rfl⟩
    · rintro ⟨state, rfl⟩
      rfl
  elements_iff _ _ := WireState.ofElements?_eq_some_iff

/-- **Every grid takes its course,** as the state in it does, and grids are states. -/
theorem grid_marshalled (P : Primitives σ) (grid : Grid) (s : σ) :
    GridCourse P s grid (hades P grid s) ∧
    (∀ state, WireState.ofGrid grid = .ok state →
      hades P grid s = (hadesState P state s).map (Except.map WireState.toGrid)) ∧
    GridsAreStates :=
  ⟨gridCourse_hades P grid s, fun _ h => hades_of_ofGrid_eq_ok P s h, gridsAreStates⟩

/-- A grid whose first row is one more than the field prime.  The toy permutation sends `1, 5, 7` to
`6, 9, 4`. -/
theorem grid_marshalled_above_prime :
    let P := Script.primitives ⟨fun _ => false, fun _ => false, ""⟩ Script.toyAnswer
    let grid : Grid := [[2, 0, 0, 0x800000000000011], [5, 0, 0, 0], [7, 0, 0, 0]]
    let state : WireState := ⟨.ofNat (Fp.prime + 1), .ofNat 5, .ofNat 7⟩
    WireState.ofGrid grid = .ok state ∧
    hades P grid 0 = (hadesState P state 0).map (Except.map WireState.toGrid) ∧
    (hades P grid 0).calls = [.permute ⟨1, 5, 7⟩] ∧
    (hades P grid 0).answer = .ok [[6, 0, 0, 0], [9, 0, 0, 0], [4, 0, 0, 0]] := by
  intro P grid state
  have h : WireState.ofGrid grid = .ok state := by decide +kernel
  exact ⟨h, (grid_marshalled P grid 0).2.1 state h, by decide +kernel, by decide +kernel⟩

/-- Of two rows that are too short the first is reported. -/
example (P : Primitives σ) (s : σ) :
    hades P [[1, 2, 3, 4], [5], [6, 7]] s = rejectedGrid s (.gridColumns 1 4 1) := rfl

end Bridge
end StarkWire
