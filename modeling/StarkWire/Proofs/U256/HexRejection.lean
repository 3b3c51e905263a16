/-
# Why a text is no hex

What a rejected text is told depends on what follows its marker and on the significant part of that,
which is what follows the zeros in front.  With `b` the bytes of the significant part and `c` its
characters:

| condition | error |
| --- | --- |
| nothing follows the marker | `empty` |
| `b > 64` | `tooLong b` |
| `b ≤ 64`, `b - c` odd | `oddLength` |
| `b ≤ 64`, `b - c` even | `invalidCharacter`, for the first byte that is no digit |

The last row names a byte of the padded text, where `64 - c` zeros stand before the significant
part; the padding counts characters, so the padded text has `64 + (b - c)` bytes.  There is such a
byte wherever nothing else is wrong, for digits alone would have been read
(`exists_firstNonDigit_or_forall`).
-/

import StarkWire.Proofs.U256.HexGrammar
import Mathlib.Algebra.Group.Nat.Even

namespace StarkWire

/-- The byte is the code of a digit. -/
def IsDigitByte (b : UInt8) : Prop := IsHexDigit (Char.ofNat b.toNat)

instance (b : UInt8) : Decidable (IsDigitByte b) := inferInstanceAs (Decidable (IsHexDigit _))

/-- The first byte that is no digit is `x`, at offset `j`. -/
structure FirstNonDigit (bytes : List UInt8) (j : ℕ) (x : UInt8) : Prop where
  at_offset : bytes[j]? = some x
  not_digit : ¬ IsDigitByte x
  before : ∀ y ∈ bytes.take j, IsDigitByte y

/-! ### Bytes that are digits -/

/-- The reader knows the digits among all bytes. -/
theorem isSome_hexDigit?_iff (b : UInt8) : (hexDigit? b).isSome ↔ IsDigitByte b := by
  have htable : ∀ n < 256, (hexDigit? (UInt8.ofNat n)).isSome ↔ IsHexDigit (Char.ofNat n) := by
    decide +kernel
  have hb := htable b.toNat b.toNat_lt
  rwa [UInt8.ofNat_toNat] at hb

variable {bytes : List UInt8} {j : ℕ} {x : UInt8}

/-- Where not all bytes are digits, one of them is the first that is none. -/
theorem exists_firstNonDigit_or_forall (bytes : List UInt8) :
    (∃ j x, FirstNonDigit bytes j x) ∨ ∀ b ∈ bytes, IsDigitByte b := by
  induction bytes with
  | nil => exact .inr (by simp)
  | cons b rest ih =>
    by_cases hb : IsDigitByte b
    · rcases ih with ⟨j, x, hx⟩ | hall
      · refine .inl ⟨j + 1, x, hx.at_offset, hx.not_digit, ?_⟩
        rw [List.take_succ_cons]
        exact List.forall_mem_cons.2 ⟨hb, hx.before⟩
      · exact .inr (List.forall_mem_cons.2 ⟨hb, hall⟩)
    · exact .inl ⟨0, b, rfl, hb, by simp⟩

/-- Digits in front move the first byte that is none. -/
theorem FirstNonDigit.append {front : List UInt8} (hfront : ∀ b ∈ front, IsDigitByte b)
    (h : FirstNonDigit bytes j x) : FirstNonDigit (front ++ bytes) (front.length + j) x where
  at_offset := by rw [List.getElem?_append_right (Nat.le_add_right _ _), Nat.add_sub_cancel_left,
    h.at_offset]
  not_digit := h.not_digit
  before := by
    rw [List.take_length_add_append]
    exact List.forall_mem_append.2 ⟨hfront, h.before⟩

/-- Before the first byte that is none, the front is a digit. -/
theorem FirstNonDigit.of_cons {b : UInt8} (h : FirstNonDigit (b :: bytes) (j + 1) x) :
    IsDigitByte b ∧ FirstNonDigit bytes j x := by
  have hbefore := h.before
  rw [List.take_succ_cons] at hbefore
  obtain ⟨hb, hrest⟩ := List.forall_mem_cons.1 hbefore
  exact ⟨hb, h.at_offset, h.not_digit, hrest⟩

/-- The first byte of all is the one that is no digit if none stands before it. -/
theorem FirstNonDigit.eq_of_zero {b : UInt8} (h : FirstNonDigit (b :: bytes) 0 x) : b = x :=
  Option.some.inj h.at_offset

/-- A digit is read wherever it stands. -/
theorem exists_readHexDigit {b : UInt8} (h : IsDigitByte b) (i : ℕ) :
    ∃ v, readHexDigit i b = .ok v := by
  obtain ⟨d, hd⟩ := Option.isSome_iff_exists.1 ((isSome_hexDigit?_iff b).2 h)
  exact ⟨_, readHexDigit_eq_ok_iff.2 ⟨d, hd, rfl⟩⟩

/-- Anything else is an error that names the byte and its place. -/
theorem readHexDigit_of_not_isDigitByte {b : UInt8} (h : ¬ IsDigitByte b) (i : ℕ) :
    readHexDigit i b = .error (.invalidCharacter b i) := by
  have hnone : hexDigit? b = none :=
    Option.not_isSome_iff_eq_none.1 fun hb => h ((isSome_hexDigit?_iff b).1 hb)
  rw [readHexDigit, hnone]

/-- Reading in pairs stops at the first byte that is no digit, and names it by its place. -/
theorem readHexPairs_of_firstNonDigit : ∀ {bytes : List UInt8} {j : ℕ}, bytes.length % 2 = 0 →
    FirstNonDigit bytes j x → ∀ i, readHexPairs i bytes = .error (.invalidCharacter x (2 * i + j))
  | [], _, _, h, _ => nomatch h.at_offset
  | [_], _, heven, _, _ => absurd heven (by simp)
  | high :: _ :: _, 0, _, h, i => by
    obtain rfl := h.eq_of_zero
    rw [readHexPairs, readHexDigit_of_not_isDigitByte h.not_digit]
    rfl
  | high :: low :: _, 1, _, h, i => by
    obtain ⟨hhigh, hlow⟩ := h.of_cons
    obtain rfl := hlow.eq_of_zero
    obtain ⟨v, hv⟩ := exists_readHexDigit hhigh (2 * i)
    rw [readHexPairs, hv, readHexDigit_of_not_isDigitByte h.not_digit]
    rfl
  | high :: low :: rest, j + 2, heven, h, i => by
    obtain ⟨hhigh, hafter⟩ := h.of_cons
    obtain ⟨hlow, hrest⟩ := hafter.of_cons
    obtain ⟨v, hv⟩ := exists_readHexDigit hhigh (2 * i)
    obtain ⟨w, hw⟩ := exists_readHexDigit hlow (2 * i + 1)
    rw [List.length_cons, List.length_cons, Nat.add_assoc, Nat.add_mod_right] at heven
    have hplace : 2 * (i + 1) + j = 2 * i + (j + 2) := by omega
    rw [readHexPairs, hv, hw, readHexPairs_of_firstNonDigit heven hrest (i + 1), hplace]
    rfl

/-- Digits alone are read, one left over or not. -/
theorem exists_readHexPairs : ∀ {bytes : List UInt8}, (∀ b ∈ bytes, IsDigitByte b) →
    ∀ i, ∃ v, readHexPairs i bytes = .ok v
  | [], _, _ => ⟨[], rfl⟩
  | [_], _, _ => ⟨[], rfl⟩
  | high :: low :: rest, hdigit, i => by
    obtain ⟨hhigh, hafter⟩ := List.forall_mem_cons.1 hdigit
    obtain ⟨hlow, hrest⟩ := List.forall_mem_cons.1 hafter
    obtain ⟨v, hv⟩ := exists_readHexDigit hhigh (2 * i)
    obtain ⟨w, hw⟩ := exists_readHexDigit hlow (2 * i + 1)
    obtain ⟨tail, htail⟩ := exists_readHexPairs hrest (i + 1)
    exact ⟨_, readHexPairs_cons_cons.2 ⟨v, w, tail, hv, hw, htail, rfl⟩⟩

/-! ### Characters as bytes -/

/-- Every character takes a byte at least. -/
theorem length_le_length_utf8 (cs : List Char) : cs.length ≤ (utf8 cs).length := by
  induction cs with
  | nil => exact Nat.le_refl 0
  | cons c rest ih =>
    have hc := c.utf8Size_pos
    rw [utf8] at ih ⊢
    rw [List.flatMap_cons, List.length_append, List.length_cons, String.length_utf8EncodeChar]
    omega

/-- The significant part is made of characters of the text. -/
theorem mem_of_mem_significantPart {text : List Char} {c : Char} (h : c ∈ significantPart text) :
    c ∈ text := by
  have hc := (List.dropWhile_sublist _).subset h
  unfold unmarked at hc
  split at hc
  · exact List.mem_of_mem_drop hc
  · exact hc

namespace U256

/-- The faults of a text.  What follows its marker is `t`, and `u` is the significant part of that.
-/
inductive HexFault (t u : List Char) : HexError → Prop
  | empty (ht : t = []) : HexFault t u .empty
  | tooLong (ht : t ≠ []) (hlong : 64 < (utf8 u).length) : HexFault t u (.tooLong (utf8 u).length)
  | oddLength (ht : t ≠ []) (hle : (utf8 u).length ≤ 64)
      (hodd : Odd ((utf8 u).length - u.length)) : HexFault t u .oddLength
  | invalid (ht : t ≠ []) (hle : (utf8 u).length ≤ 64)
      (heven : ¬ Odd ((utf8 u).length - u.length)) {j : ℕ} {x : UInt8}
      (hx : FirstNonDigit (utf8 u) j x) : HexFault t u (.invalidCharacter x (64 - u.length + j))

/-- The padded text has as many bytes as 64 characters and the bytes beyond one for each. -/
theorem odd_paddedBytes_iff {text : List Char} (hle : (utf8 (significantPart text)).length ≤ 64) :
    (paddedBytes text).length % 2 = 1
      ↔ Odd ((utf8 (significantPart text)).length - (significantPart text).length) := by
  have hlen := length_le_length_utf8 (significantPart text)
  rw [paddedBytes, List.length_append, List.length_replicate, Nat.odd_iff]
  omega

/-- **A rejected text has the fault that it is told.** -/
theorem fault_of_ofHexChars {text : List Char} {e : HexError} (h : ofHexChars text = .error e) :
    HexFault (unmarked text) (significantPart text) e := by
  rw [ofHexChars_eq] at h
  split_ifs at h with hempty hlong
  · cases h
    exact .empty hempty
  · cases h
    exact .tooLong hempty hlong
  have hle := Nat.not_lt.1 hlong
  by_cases hodd : (paddedBytes text).length % 2 = 1
  · rw [readHexBytes, if_pos hodd] at h
    cases h
    exact .oddLength hempty hle ((odd_paddedBytes_iff hle).1 hodd)
  · rw [readHexBytes, if_neg hodd] at h
    -- the zeros of the padding are digits: they only move the first byte that is none
    have hzeros : ∀ b ∈ List.replicate (64 - (significantPart text).length) (48 : UInt8),
        IsDigitByte b := by
      intro b hb
      rw [List.eq_of_mem_replicate hb]
      decide
    rcases exists_firstNonDigit_or_forall (utf8 (significantPart text)) with ⟨j, x, hx⟩ | hall
    · have hpadded := hx.append hzeros
      rw [List.length_replicate] at hpadded
      rw [readHexPairs_of_firstNonDigit (Nat.mod_two_ne_one.1 hodd) hpadded, Nat.mul_zero,
        Nat.zero_add] at h
      cases h
      exact .invalid hempty hle (mt (odd_paddedBytes_iff hle).2 hodd) hx
    · obtain ⟨v, hv⟩ := exists_readHexPairs (List.forall_mem_append.2 ⟨hzeros, hall⟩) 0
      rw [paddedBytes, hv] at h
      cases h

/-- What is said to a text that is rejected with the error `e`, where `t` follows its marker and `u`
is the significant part of that. -/
structure ToldWhy (t u : List Char) (e : HexError) : Prop where
  empty_iff : e = .empty ↔ t = []
  tooLong_iff (d : ℕ) : e = .tooLong d ↔ d = (utf8 u).length ∧ 64 < d
  length_le : u.length ≤ (utf8 u).length
  oddLength_iff (ht : t ≠ []) (hle : (utf8 u).length ≤ 64) :
    e = .oddLength ↔ Odd ((utf8 u).length - u.length)
  invalid (ht : t ≠ []) (hle : (utf8 u).length ≤ 64)
    (heven : ¬ Odd ((utf8 u).length - u.length)) :
    ∃ j x, FirstNonDigit (utf8 u) j x ∧ e = .invalidCharacter x (64 - u.length + j)

/-- The fault of a text is told, where only zeros can be missing from the significant part. -/
theorem HexFault.toldWhy {t : List Char} {e : HexError}
    (h : HexFault t (t.dropWhile (· = '0')) e) : ToldWhy t (t.dropWhile (· = '0')) e := by
  cases h with
  | empty ht =>
    subst ht
    refine ⟨by simp, fun d => ?_, Nat.le_refl 0, by simp, by simp⟩
    refine iff_of_false (by simp) ?_
    rintro ⟨rfl, hlong⟩
    cases hlong
  | tooLong ht hlong =>
    have hnot : ¬ (utf8 (t.dropWhile (· = '0'))).length ≤ 64 := Nat.not_le.2 hlong
    refine ⟨by simp [ht], fun d => ?_, length_le_length_utf8 _, fun _ hle => absurd hle hnot,
      fun _ hle => absurd hle hnot⟩
    rw [HexError.tooLong.injEq, eq_comm]
    exact ⟨fun hd => ⟨hd, hd ▸ hlong⟩, And.left⟩
  | oddLength ht hle hodd =>
    refine ⟨by simp [ht], fun d => ?_, length_le_length_utf8 _, fun _ _ => by simp [hodd],
      fun _ _ heven => absurd hodd heven⟩
    refine iff_of_false (by simp) ?_
    rintro ⟨rfl, hlong⟩
    omega
  | invalid ht hle heven hx =>
    refine ⟨by simp [ht], fun d => ?_, length_le_length_utf8 _, fun _ _ => by simp [heven],
      fun _ _ _ => ⟨_, _, hx, rfl⟩⟩
    refine iff_of_false (by simp) ?_
    rintro ⟨rfl, hlong⟩
    omega

/-- **A rejected text is told why.** -/
theorem rejected_told_why {s : String} {e : HexError} (h : ofHex s = .error e) :
    ToldWhy (unmarked s.toList) (significantPart s.toList) e ∧
      ((∀ c ∈ s.toList, c.toNat < 128) → e ≠ .oddLength) := by
  have hfault := fault_of_ofHexChars h
  refine ⟨hfault.toldWhy, fun hascii => ?_⟩
  rintro rfl
  cases hfault with
  | oddLength ht hle hodd =>
    have hlen := length_utf8_of_ascii fun c hc => hascii c (mem_of_mem_significantPart hc)
    rw [hlen, Nat.sub_self] at hodd
    exact absurd hodd (by decide)

/-- The euro sign has three bytes in one character, so after a digit there are four bytes in two
characters, and the sign's first byte stands behind 62 zeros and the digit. -/
theorem rejected_told_why_euro :
    ofHex "0Xa€" = .error (.invalidCharacter 0xE2 63) ∧
    (∃ j x, FirstNonDigit (utf8 ['a', '€']) j x ∧
      HexError.invalidCharacter 0xE2 63 = .invalidCharacter x (64 - 2 + j)) ∧
    ofHex "é" = .error .oddLength ∧ Odd ((utf8 ['é']).length - 1) := by
  have heuro : ofHex "0Xa€" = .error (.invalidCharacter 0xE2 63) := by decide +kernel
  have hacute : ofHex "é" = .error .oddLength := by decide +kernel
  refine ⟨heuro, ?_, hacute, ?_⟩
  · exact (rejected_told_why heuro).1.invalid (by decide) (by decide) (by decide)
  · exact ((rejected_told_why hacute).1.oddLength_iff (by decide) (by decide)).1 rfl

end U256
end StarkWire
