/-
# What is accepted as hex

The reader takes bytes for digits, two for each byte that they write, so it is of bytes that it can
be said what is accepted: their number is even, and each of them is a digit
(`isSome_hexDigit?_of_readHexBytes`).  Beside the leading zeros a text is read in
full, hence every character after the marker is encoded in digits alone
(`U256.isSome_hexDigit?_of_ofHexChars`), and a text that starts with a hyphen, which no marker
does, is no hex text (`U256.head?_ne_hyphen_of_ofHex`).
-/

import StarkWire.U256.Hex
import Mathlib.Data.List.TakeWhile
import Mathlib.Tactic.SplitIfs

namespace StarkWire

/-- A half of a byte is read just from a digit. -/
theorem readHexDigit_eq_ok_iff {i : ℕ} {b h : UInt8} :
    readHexDigit i b = .ok h ↔ ∃ d, hexDigit? b = some d ∧ h = .ofNat d := by
  unfold readHexDigit
  rcases hexDigit? b with _ | d
  · simp
  · simp [eq_comm]

/-- Where a pair is read, so are both digits and all pairs behind it. -/
theorem readHexPairs_cons_cons {i : ℕ} {high low : UInt8} {rest bytes : List UInt8} :
    readHexPairs i (high :: low :: rest) = .ok bytes ↔
      ∃ h l tail, readHexDigit (2 * i) high = .ok h ∧ readHexDigit (2 * i + 1) low = .ok l ∧
        readHexPairs (i + 1) rest = .ok tail ∧ bytes = (h <<< 4 ||| l) :: tail := by
  rw [readHexPairs]
  rcases readHexDigit (2 * i) high with _ | h
  · simp [bind, Except.bind]
  · rcases readHexDigit (2 * i + 1) low with _ | l
    · simp [bind, Except.bind]
    · rcases readHexPairs (i + 1) rest with _ | tail <;> simp [bind, Except.bind, eq_comm]

/-- Only a digit is read as half a byte. -/
theorem isSome_hexDigit?_of_readHexDigit {i : ℕ} {b h : UInt8} (hb : readHexDigit i b = .ok h) :
    (hexDigit? b).isSome := by
  obtain ⟨d, hd, -⟩ := readHexDigit_eq_ok_iff.1 hb
  rw [hd]
  rfl

/-- What is read in pairs consists of digits, unless one is left over. -/
theorem isSome_hexDigit?_of_readHexPairs : ∀ {i : ℕ} {digits bytes : List UInt8},
    digits.length % 2 = 0 → readHexPairs i digits = .ok bytes →
      ∀ b ∈ digits, (hexDigit? b).isSome
  | _, [], _, _, _ => List.forall_mem_nil _
  | _, [_], _, heven, _ => absurd heven (by simp)
  | _, _ :: _ :: _, _, heven, hread => by
    obtain ⟨h, l, tail, hhigh, hlow, hrest, -⟩ := readHexPairs_cons_cons.1 hread
    rw [List.length_cons, List.length_cons, Nat.add_assoc, Nat.add_mod_right] at heven
    exact List.forall_mem_cons.2 ⟨isSome_hexDigit?_of_readHexDigit hhigh, List.forall_mem_cons.2
      ⟨isSome_hexDigit?_of_readHexDigit hlow, isSome_hexDigit?_of_readHexPairs heven hrest⟩⟩

/-- **What is read as bytes consists of digits.** -/
theorem isSome_hexDigit?_of_readHexBytes {digits bytes : List UInt8}
    (h : readHexBytes digits = .ok bytes) : ∀ b ∈ digits, (hexDigit? b).isSome := by
  unfold readHexBytes at h
  split_ifs at h with hodd
  exact isSome_hexDigit?_of_readHexPairs (Nat.mod_two_ne_one.1 hodd) h

namespace U256

variable {a : U256}

/-- **Every character after the marker is encoded in digits.**  The zeros in front are digits too,
though they are not read. -/
theorem isSome_hexDigit?_of_ofHexChars {cs : List Char} (h : ofHexChars cs = .ok a) :
    ∀ c ∈ dropHexMarker cs, ∀ b ∈ String.utf8EncodeChar c, (hexDigit? b).isSome := by
  unfold ofHexChars at h
  extract_lets digits significant bytes padded at h
  split_ifs at h with hempty hlong
  obtain ⟨bigEndian, hread⟩ : ∃ bigEndian, readHexBytes padded = .ok bigEndian := by
    rcases hr : readHexBytes padded with e | bigEndian
    · rw [hr] at h
      cases h
    · exact ⟨bigEndian, rfl⟩
  intro c hc b hb
  have hsplit : c ∈ digits.takeWhile (· = '0') ++ significant := by
    rwa [List.takeWhile_append_dropWhile]
  rcases List.mem_append.1 hsplit with hzero | hsig
  · have h0 := List.mem_takeWhile_imp hzero
    obtain rfl : c = '0' := of_decide_eq_true h0
    have hzeros : String.utf8EncodeChar '0' = [48] := rfl
    rw [hzeros, List.mem_singleton] at hb
    rw [hb]
    rfl
  · have hmem : b ∈ bytes := List.mem_flatMap.2 ⟨c, hsig, hb⟩
    exact isSome_hexDigit?_of_readHexBytes hread b (List.mem_append_right _ hmem)

/-- A hyphen is no digit and begins no marker. -/
theorem head?_ne_hyphen_of_ofHex {text : String} (h : ofHex text = .ok a) :
    text.toList.head? ≠ some '-' := by
  intro hhead
  obtain ⟨rest, hrest⟩ := List.head?_eq_some_iff.1 hhead
  have hdrop : dropHexMarker text.toList = '-' :: rest := by
    rw [hrest]
    rfl
  have hmem : '-' ∈ dropHexMarker text.toList := by
    rw [hdrop]
    exact List.mem_cons_self
  exact absurd (isSome_hexDigit?_of_ofHexChars h '-' hmem 45 (by decide)) (by decide)

end U256
end StarkWire
