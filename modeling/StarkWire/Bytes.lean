/-
# Bytes

A *buffer* is a byte string of any length, as a caller hands it over.  `Bytes n` is a byte string
whose length is known to be `n`: what a length check returns and what the codecs read and write.

Numbers are little-endian on the wire: byte `i` weighs `256 ^ i`.
-/

namespace StarkWire

/-- A byte string of any length. -/
abbrev Buffer := List UInt8

/-- Exactly `n` bytes. -/
structure Bytes (n : Nat) where
  toList : List UInt8
  length_toList : toList.length = n
deriving DecidableEq

namespace Bytes

variable {m n : Nat}

/-- Bytes are equal if their lists are; the length is no further data. -/
@[ext] theorem ext {a b : Bytes n} (h : a.toList = b.toList) : a = b := by
  cases a; cases b; cases h; rfl

/-- A buffer of the right length, as bytes. -/
def ofBuffer? (n : Nat) (b : Buffer) : Option (Bytes n) :=
  if h : b.length = n then some ⟨b, h⟩ else none

/-- `n` zero bytes. -/
def zero (n : Nat) : Bytes n := ⟨List.replicate n 0, List.length_replicate⟩

/-- The bytes of `a`, then those of `b`. -/
def append (a : Bytes m) (b : Bytes n) : Bytes (m + n) :=
  ⟨a.toList ++ b.toList, by simp [a.length_toList, b.length_toList]⟩

/-- The first `m` bytes. -/
def front (m : Nat) {n : Nat} (b : Bytes (m + n)) : Bytes m :=
  ⟨b.toList.take m, by simp [b.length_toList]⟩

/-- What follows the first `m` bytes. -/
def back (m : Nat) {n : Nat} (b : Bytes (m + n)) : Bytes n :=
  ⟨b.toList.drop m, by simp [b.length_toList]⟩

/-- What is put in front of other bytes is found in front. -/
@[simp] theorem front_append (a : Bytes m) (b : Bytes n) : front m (a.append b) = a :=
  ext (by simp [front, append, a.length_toList])

/-- What is put behind other bytes is found behind. -/
@[simp] theorem back_append (a : Bytes m) (b : Bytes n) : back m (a.append b) = b :=
  ext (by simp [back, append, a.length_toList])

/-- Cut in two and put together again, bytes are what they were. -/
@[simp] theorem append_front_back (b : Bytes (m + n)) : (front m b).append (back m b) = b :=
  ext (by simp [front, back, append])

end Bytes

namespace Buffer

/-- `b` with the bytes from `offset` on replaced by `bytes`. -/
def splice (b : Buffer) (offset : Nat) (bytes : List UInt8) : Buffer :=
  b.take offset ++ bytes ++ b.drop (offset + bytes.length)

/-- What fits into a buffer leaves its length as it is. -/
theorem length_splice {b bytes : Buffer} {offset : Nat} (h : offset + bytes.length ≤ b.length) :
    (splice b offset bytes).length = b.length := by
  simp [splice]; omega

/-- `b` overwritten from the front with the bytes of `source`, one by one, until either ends. -/
def fill : (b source : Buffer) → Buffer
  | _ :: b, x :: source => x :: fill b source
  | b, _ => b

/-- However many bytes there are to fill a buffer with, it keeps its length. -/
@[simp] theorem length_fill (b source : Buffer) : (fill b source).length = b.length := by
  induction b generalizing source with
  | nil => cases source <;> rfl
  | cons x b ih =>
    cases source with
    | nil => rfl
    | cons y source => rw [fill, List.length_cons, ih, List.length_cons]

/-- What is as long as the buffer replaces all of it. -/
theorem fill_eq_of_length_eq {b source : Buffer} (h : source.length = b.length) :
    fill b source = source := by
  induction b generalizing source with
  | nil => rw [List.eq_nil_of_length_eq_zero h]; rfl
  | cons x b ih =>
    cases source with
    | nil => cases h
    | cons y source => rw [fill, ih (Nat.succ.inj h)]

end Buffer

/-- Bytes overwritten from the front, one by one; what does not fit is dropped. -/
def Bytes.fill {n : Nat} (b : Bytes n) (source : List UInt8) : Bytes n :=
  ⟨Buffer.fill b.toList source, by rw [Buffer.length_fill, b.length_toList]⟩

/-- The number whose byte `i` is entry `i` of the list. -/
def leValue : List UInt8 → Nat
  | [] => 0
  | b :: rest => b.toNat + 256 * leValue rest

/-- The low `n` bytes of a number, least significant first. -/
def leBytes : Nat → Nat → List UInt8
  | 0, _ => []
  | n + 1, v => UInt8.ofNat v :: leBytes n (v / 256)

/-- The low `n` bytes of a number, most significant first. -/
def beBytes (n v : Nat) : List UInt8 := (leBytes n v).reverse

/-- The number whose bytes, most significant first, are the list. -/
def beValue (bytes : List UInt8) : Nat := leValue bytes.reverse

/-- The low bytes of a number are as many as are asked for. -/
@[simp] theorem length_leBytes (n v : Nat) : (leBytes n v).length = n := by
  induction n generalizing v with
  | zero => rfl
  | succ n ih => simp [leBytes, ih]

/-- A byte string is told by its length and its value. -/
theorem leBytes_leValue (bytes : List UInt8) : leBytes bytes.length (leValue bytes) = bytes := by
  induction bytes with
  | nil => rfl
  | cons b rest ih =>
    have hb := b.toNat_lt
    have hd : (b.toNat + 256 * leValue rest) / 256 = leValue rest := by omega
    simp only [List.length_cons, leValue, leBytes, hd, ih]
    congr 1
    apply UInt8.toNat.inj
    simp

end StarkWire
