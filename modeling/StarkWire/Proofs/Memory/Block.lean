/-
# Reading and writing a block of memory

What a write does to a block is said byte by byte (`Overwritten`): the bytes written stand at their
place, every other byte is as it was, and the block keeps its length.

An input is *null* if it announces bytes and has no pointer; every other input is read as the bytes
that it covers, none if it announces none (`Span.read_eq`).  So an input that lies in the block is
an element, a pointer to 32 bytes, just when it is not null and 32 bytes are read
(`Span.isElement_iff`): the first is found out where pointers are looked at, the second where
arguments are checked.
-/

import StarkWire.Memory
import Mathlib.Data.Nat.Notation

namespace StarkWire

/-- The block `after` holds `bytes` at `place` and is otherwise the block `before`. -/
structure Overwritten (before : Buffer) (place : ℕ) (bytes after : Buffer) : Prop where
  length : after.length = before.length
  inside : (after.drop place).take bytes.length = bytes
  outside (i : ℕ) (h : i < place ∨ place + bytes.length ≤ i) : after[i]? = before[i]?

/-- Splicing overwrites the bytes from a place on and keeps the others. -/
theorem Buffer.overwritten_splice {b bytes : Buffer} {place : ℕ}
    (h : place + bytes.length ≤ b.length) : Overwritten b place bytes (b.splice place bytes) where
  length := length_splice h
  inside := by
    have hp : (b.take place).length = place := List.length_take_of_le (by omega)
    rw [splice, List.append_assoc, List.drop_left' hp, List.take_left' rfl]
  outside i hi := by
    have hp : (b.take place).length = place := List.length_take_of_le (by omega)
    rw [splice, List.append_assoc]
    rcases hi with hi | hi
    · rw [List.getElem?_append_left (by omega), List.getElem?_take_of_lt hi]
    · rw [List.getElem?_append_right (by omega), List.getElem?_append_right (by omega),
        List.getElem?_drop, hp]
      congr 1
      omega

namespace Memory

namespace Span

variable {memory : Buffer} {span : Span}

/-- The bytes that an input covers; a null pointer covers none. -/
def bytes (memory : Buffer) (span : Span) : Buffer :=
  match span.start with
  | some offset => (memory.drop offset).take span.length
  | none => []

/-- Bytes are announced, but there is no pointer to them. -/
def IsNull (span : Span) : Prop := span.start = none ∧ span.length ≠ 0

instance (span : Span) : Decidable span.IsNull := inferInstanceAs (Decidable (_ ∧ _))

/-- The input is a pointer to 32 bytes. -/
def IsElement (span : Span) : Prop := span.start ≠ none ∧ span.length = 32

/-- The input is a null pointer, or lies in a block of the given size. -/
def Fits (size : ℕ) (span : Span) : Prop :=
  ∀ offset, span.start = some offset → offset + span.length ≤ size

/-- A buffer is read from the memory unless its pointer is null and its length is not zero. -/
theorem read_eq (memory : Buffer) (argument : String) (span : Span) :
    span.read memory argument
      = if span.IsNull then .error (.nullBuffer argument) else .ok (span.bytes memory) := by
  rcases span with ⟨_ | offset, _ | length⟩ <;> simp [read, IsNull, bytes]

/-- A buffer in the memory is an element just when it is there and 32 bytes long. -/
theorem isElement_iff (h : span.Fits memory.length) :
    span.IsElement ↔ ¬ span.IsNull ∧ (span.bytes memory).length = 32 := by
  rcases span with ⟨_ | offset, length⟩
  · simp [IsElement, IsNull, bytes]
  · have hfit : offset + length ≤ memory.length := h offset rfl
    have hlen : ((memory.drop offset).take length).length = length := by
      rw [List.length_take, List.length_drop]
      omega
    simp [IsElement, IsNull, bytes, hlen]

end Span
end Memory
end StarkWire
