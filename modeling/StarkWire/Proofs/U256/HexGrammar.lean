/-
# The grammar of hex text

A hex text is one marker `0x` or `0X`, or none, and then at least one digit of either case, of
which at most 64 follow the leading zeros (`IsHexText`).  A digit is worth its place among the
sixteen lowercase ones, and the digits together the number that they write in base 16, the most
significant first (`hexValue`).

The reader works on bytes, but a character is encoded in digits alone just when it is a digit, and
then in one byte (`isHexDigit_iff`), so on a list of digits the bytes that are counted, padded and
read are the characters.  An even number of digits writes half as many bytes, of the same value
(`readHexPairs_utf8`).  So the 64 digits of a padded text write 32 bytes: in reverse these replace
all of the wire bytes that they are to fill, none is dropped, and the value decoded from them is that
of the digits (`U256.ofHexChars_of_isHexText`).

As leading zeros and padding are worth nothing, a text is read as a value just when it is a hex text
with digits of this value (`U256.ofHex_eq_ok_iff`), and the bytes in between are exactly those of the
value on the wire, in reverse (`U256.reads_by_grammar`).
-/

import StarkWire.Proofs.U256.Hex
import StarkWire.Proofs.U256.Wire
import Mathlib.Data.Nat.Digits.Lemmas

namespace StarkWire

/-- The sixteen digits in lowercase, each at the place of its value. -/
def hexAlphabet : List Char :=
  ['0', '1', '2', '3', '4', '5', '6', '7', '8', '9', 'a', 'b', 'c', 'd', 'e', 'f']

/-- A digit of either case. -/
def IsHexDigit (c : Char) : Prop := c.toLower ∈ hexAlphabet

instance (c : Char) : Decidable (IsHexDigit c) := inferInstanceAs (Decidable (_ ∈ _))

/-- What a digit is worth. -/
def hexDigitValue (c : Char) : ℕ := hexAlphabet.idxOf c.toLower

/-- The number that digits write, the most significant first. -/
def hexValue (digits : List Char) : ℕ := Nat.ofDigits 16 (digits.reverse.map hexDigitValue)

/-- The text is a marker or none, and then these digits. -/
structure IsHexText (text digits : List Char) : Prop where
  marked : text = digits ∨ text = '0' :: 'x' :: digits ∨ text = '0' :: 'X' :: digits
  nonempty : digits ≠ []
  isDigit : ∀ c ∈ digits, IsHexDigit c
  significant : (digits.dropWhile (· = '0')).length ≤ 64

/-! ### Digits as bytes -/

/-- The bytes of characters in UTF-8. -/
def utf8 (cs : List Char) : List UInt8 := cs.flatMap String.utf8EncodeChar

variable {c : Char} {digits : List Char}

/-- On the characters that take one byte, the reader's digits are the digits. -/
theorem hexDigit?_of_ascii : ∀ n < 128, hexDigit? (UInt8.ofNat n)
    = if IsHexDigit (Char.ofNat n) then some (hexDigitValue (Char.ofNat n)) else none := by
  decide +kernel

/-- On one-byte characters the reader knows the digits and their worth. -/
theorem hexDigit?_eq (h : c.toNat < 128) : hexDigit? (UInt8.ofNat c.toNat)
    = if IsHexDigit c then some (hexDigitValue c) else none := by
  have hc := hexDigit?_of_ascii c.toNat h
  rwa [Char.ofNat_toNat] at hc

/-- A character of ASCII is its own byte. -/
theorem utf8EncodeChar_of_lt (h : c.toNat < 128) :
    String.utf8EncodeChar c = [UInt8.ofNat c.toNat] := by
  rw [String.utf8EncodeChar]
  exact if_pos (Nat.le_of_lt_succ h)

/-- No byte above ASCII is a digit. -/
theorem hexDigit?_eq_none_of_le {b : UInt8} (h : 128 ≤ b.toNat) : hexDigit? b = none := by
  simp only [hexDigit?, UInt8.le_iff_toNat_le]
  rw [if_neg, if_neg, if_neg] <;> intro hb <;> have h₂ := hb.2 <;> simp at h₂ <;> omega

/-- A longer character begins with a byte that is no digit. -/
theorem exists_hexDigit?_eq_none (h : 128 ≤ c.toNat) :
    ∃ b ∈ String.utf8EncodeChar c, hexDigit? b = none := by
  have hc : ¬ c.val.toNat ≤ 127 := Nat.not_le.2 h
  have hbyte : ∀ n, 192 ≤ n → n < 256 → hexDigit? (UInt8.ofNat n) = none := fun n hl hu =>
    hexDigit?_eq_none_of_le (by rw [UInt8.toNat_ofNat', Nat.mod_eq_of_lt hu]; omega)
  rw [String.utf8EncodeChar, if_neg hc]
  split_ifs
  · exact ⟨_, List.mem_cons_self, hbyte _ (by omega) (by omega)⟩
  · exact ⟨_, List.mem_cons_self, hbyte _ (by omega) (by omega)⟩
  · exact ⟨_, List.mem_cons_self, hbyte _ (by omega) (by omega)⟩

/-- Digits are ASCII, for nothing above has a lowercase form among them. -/
theorem IsHexDigit.toNat_lt (h : IsHexDigit c) : c.toNat < 128 := by
  by_contra! hc
  -- only the capitals of ASCII have another lowercase
  have hl : c.toLower = c := dif_neg fun hz => by
    have hz' : c.toNat ≤ 90 := UInt32.le_iff_toNat_le.1 hz.2
    omega
  rw [IsHexDigit, hl] at h
  have hsmall : ∀ d ∈ hexAlphabet, d.toNat < 128 := by simp [hexAlphabet]
  exact absurd (hsmall c h) (Nat.not_lt.2 hc)

/-- A character is encoded in digits alone just when it is a digit. -/
theorem isHexDigit_iff :
    (∀ b ∈ String.utf8EncodeChar c, (hexDigit? b).isSome) ↔ IsHexDigit c := by
  rcases Nat.lt_or_ge c.toNat 128 with hc | hc
  · rw [utf8EncodeChar_of_lt hc, List.forall_mem_singleton, hexDigit?_eq hc]
    split_ifs with h <;> simp [h]
  · obtain ⟨b, hb, hn⟩ := exists_hexDigit?_eq_none hc
    constructor
    · intro h
      have hs := h b hb
      rw [hn] at hs
      cases hs
    · intro h
      exact absurd h.toNat_lt (Nat.not_lt.2 hc)

/-- A digit is one byte, which is read as what the digit is worth. -/
theorem IsHexDigit.utf8 (h : IsHexDigit c) : ∃ b, String.utf8EncodeChar c = [b] ∧
    hexDigit? b = some (hexDigitValue c) :=
  ⟨_, utf8EncodeChar_of_lt h.toNat_lt, by rw [hexDigit?_eq h.toNat_lt, if_pos h]⟩

/-- Text of ASCII has one byte for each character. -/
theorem length_utf8_of_ascii {cs : List Char} (h : ∀ c ∈ cs, c.toNat < 128) :
    (utf8 cs).length = cs.length := by
  induction cs with
  | nil => rfl
  | cons c rest ih =>
    obtain ⟨hc, hrest⟩ := List.forall_mem_cons.1 h
    have hlen := ih hrest
    rw [utf8] at hlen ⊢
    rw [List.flatMap_cons, utf8EncodeChar_of_lt hc, List.length_append, hlen, List.length_singleton,
      List.length_cons, Nat.add_comm]

/-- Digits take as many bytes as they are. -/
theorem length_utf8_of_isHexDigit (h : ∀ c ∈ digits, IsHexDigit c) :
    (utf8 digits).length = digits.length :=
  length_utf8_of_ascii fun c hc => (h c hc).toNat_lt

/-! ### The value of digits -/

/-- What stands before `n` digits weighs `16 ^ n`. -/
theorem hexValue_append (a b : List Char) :
    hexValue (a ++ b) = 16 ^ b.length * hexValue a + hexValue b := by
  simp only [hexValue, List.reverse_append, List.map_append, Nat.ofDigits_append, List.length_map,
    List.length_reverse]
  rw [Nat.add_comm]

/-- A single digit writes what it is worth. -/
theorem hexValue_singleton (c : Char) : hexValue [c] = hexDigitValue c := by
  simp [hexValue]

/-- The first of the digits weighs most. -/
theorem hexValue_cons (c : Char) (rest : List Char) :
    hexValue (c :: rest) = 16 ^ rest.length * hexDigitValue c + hexValue rest := by
  rw [← List.singleton_append, hexValue_append, hexValue_singleton]

/-- Zeros in front are worth nothing. -/
theorem hexValue_replicate_append (n : ℕ) (digits : List Char) :
    hexValue (List.replicate n '0' ++ digits) = hexValue digits := by
  have hz : hexDigitValue '0' = 0 := by decide
  rw [hexValue_append]
  simp [hexValue, hz, Nat.ofDigits_replicate_zero]

/-- Digits are their zeros in front and the rest. -/
theorem replicate_append_dropWhile (digits : List Char) :
    List.replicate (digits.takeWhile (· = '0')).length '0' ++ digits.dropWhile (· = '0')
      = digits := by
  have hzeros : digits.takeWhile (· = '0')
      = List.replicate (digits.takeWhile (· = '0')).length '0' := by
    refine List.eq_replicate_iff.2 ⟨rfl, fun c hc => ?_⟩
    have h0 := List.mem_takeWhile_imp hc
    exact of_decide_eq_true h0
  rw [← hzeros, List.takeWhile_append_dropWhile]

/-- The zeros in front can be left out. -/
theorem hexValue_dropWhile (digits : List Char) :
    hexValue (digits.dropWhile (· = '0')) = hexValue digits := by
  have hv := hexValue_replicate_append (digits.takeWhile (· = '0')).length
    (digits.dropWhile (· = '0'))
  rw [replicate_append_dropWhile] at hv
  exact hv.symm

/-- `n` digits write a number below `16 ^ n`. -/
theorem hexValue_lt (h : ∀ c ∈ digits, IsHexDigit c) : hexValue digits < 16 ^ digits.length := by
  have hd : ∀ d ∈ digits.reverse.map hexDigitValue, d < 16 := by
    intro d hd
    obtain ⟨c, hc, rfl⟩ := List.mem_map.1 hd
    exact List.idxOf_lt_length_iff.2 (h c (List.mem_reverse.1 hc))
  have hv := Nat.ofDigits_lt_base_pow_length (by decide) hd
  rwa [List.length_map, List.length_reverse] at hv

/-- The two halves of a byte. -/
theorem toNat_shiftLeft_or : ∀ h < 16, ∀ l < 16,
    (UInt8.ofNat h <<< 4 ||| UInt8.ofNat l).toNat = 16 * h + l := by
  decide +kernel

/-- A digit is worth less than 16. -/
theorem hexDigitValue_lt (h : IsHexDigit c) : hexDigitValue c < 16 :=
  List.idxOf_lt_length_iff.2 h

/-- The first of big-endian bytes weighs most. -/
theorem beValue_cons (b : UInt8) (bytes : List UInt8) :
    beValue (b :: bytes) = 256 ^ bytes.length * b.toNat + beValue bytes := by
  rw [beValue, List.reverse_cons, leValue_append, List.length_reverse, leValue, leValue,
    Nat.mul_zero, Nat.add_zero, Nat.add_comm]
  rfl

/-- A pair of digits is worth a byte, at the weight of the bytes behind it. -/
theorem hexValue_cons_cons (high low : Char) {rest : List Char} {n : ℕ} (h : rest.length = 2 * n) :
    hexValue (high :: low :: rest)
      = 256 ^ n * (16 * hexDigitValue high + hexDigitValue low) + hexValue rest := by
  have hpow : 16 ^ (2 * n) = 256 ^ n := by rw [Nat.pow_mul]
  rw [hexValue_cons, hexValue_cons, List.length_cons, Nat.pow_succ, h, hpow]
  ring

/-- **An even number of digits writes half as many bytes,** of the same value. -/
theorem readHexPairs_utf8 : ∀ {digits : List Char} {n : ℕ}, (∀ c ∈ digits, IsHexDigit c) →
    digits.length = 2 * n → ∀ i, ∃ bytes, readHexPairs i (utf8 digits) = .ok bytes ∧
      bytes.length = n ∧ beValue bytes = hexValue digits
  | [], 0, _, _, _ => ⟨[], rfl, rfl, rfl⟩
  | [], n + 1, _, hlen, _ => absurd hlen (by simp)
  | [_], n, _, hlen, _ => absurd hlen (by rw [List.length_singleton]; omega)
  | _ :: _ :: _, 0, _, hlen, _ => absurd hlen (by simp)
  | high :: low :: rest, n + 1, hdigit, hlen, i => by
    obtain ⟨hhigh, hlow, hrest⟩ : IsHexDigit high ∧ IsHexDigit low ∧ ∀ c ∈ rest, IsHexDigit c := by
      simpa only [List.forall_mem_cons] using hdigit
    have hn : rest.length = 2 * n := by
      rw [List.length_cons, List.length_cons] at hlen
      omega
    -- the pair is one byte, in front of the bytes that the other digits write
    obtain ⟨bytes, hread, hcount, hvalue⟩ := readHexPairs_utf8 hrest hn (i + 1)
    obtain ⟨b, hb, hbd⟩ := hhigh.utf8
    obtain ⟨b', hb', hbd'⟩ := hlow.utf8
    have hpair : utf8 (high :: low :: rest) = b :: b' :: utf8 rest := by
      rw [utf8, List.flatMap_cons, List.flatMap_cons, hb, hb']
      rfl
    refine ⟨(UInt8.ofNat (hexDigitValue high) <<< 4 ||| UInt8.ofNat (hexDigitValue low)) :: bytes,
      ?_, ?_, ?_⟩
    · rw [hpair]
      exact readHexPairs_cons_cons.2 ⟨_, _, bytes, readHexDigit_eq_ok_iff.2 ⟨_, hbd, rfl⟩,
        readHexDigit_eq_ok_iff.2 ⟨_, hbd', rfl⟩, hread, rfl⟩
    · rw [List.length_cons, hcount]
    · rw [beValue_cons, hcount, hvalue, hexValue_cons_cons high low hn,
        toNat_shiftLeft_or _ (hexDigitValue_lt hhigh) _ (hexDigitValue_lt hlow)]

/-! ### Reading a text -/

/-- At most one marker is dropped. -/
theorem eq_or_eq_cons_dropHexMarker (cs : List Char) :
    cs = dropHexMarker cs ∨ cs = '0' :: 'x' :: dropHexMarker cs
      ∨ cs = '0' :: 'X' :: dropHexMarker cs := by
  unfold dropHexMarker
  split
  · exact .inr (.inl rfl)
  · exact .inr (.inr rfl)
  · exact .inl rfl

/-- The text without one marker in front. -/
def unmarked (text : List Char) : List Char :=
  if ['0', 'x'] <+: text ∨ ['0', 'X'] <+: text then text.drop 2 else text

/-- What follows the marker and the zeros in front. -/
def significantPart (text : List Char) : List Char := (unmarked text).dropWhile (· = '0')

/-- The bytes that are read as digits: zeros in front make up for what the significant part lacks of
64 characters. -/
def paddedBytes (text : List Char) : List UInt8 :=
  List.replicate (64 - (significantPart text).length) 48 ++ utf8 (significantPart text)

/-- The reader drops the marker that is a prefix. -/
theorem dropHexMarker_eq_unmarked (text : List Char) : dropHexMarker text = unmarked text := by
  unfold dropHexMarker unmarked
  split
  · exact (if_pos (.inl (by simp))).symm
  · exact (if_pos (.inr (by simp))).symm
  · rename_i hx hX
    rw [if_neg]
    rintro (⟨rest, rfl⟩ | ⟨rest, rfl⟩)
    · exact hx rest rfl
    · exact hX rest rfl

/-- Digits contain no marker. -/
theorem IsHexText.dropHexMarker_eq {text : List Char} (h : IsHexText text digits) :
    dropHexMarker text = digits := by
  rcases h.marked with rfl | rfl | rfl
  · unfold dropHexMarker
    split
    · exact absurd (h.isDigit 'x' (by simp)) (by decide)
    · exact absurd (h.isDigit 'X' (by simp)) (by decide)
    · rfl
  · rfl
  · rfl

/-- What follows the marker of a hex text is its digits. -/
theorem IsHexText.unmarked_eq {text : List Char} (h : IsHexText text digits) :
    unmarked text = digits := by
  rw [← dropHexMarker_eq_unmarked, h.dropHexMarker_eq]

/-- The significant part of a hex text consists of digits. -/
theorem IsHexText.isDigit_of_mem_dropWhile {text : List Char} (h : IsHexText text digits) :
    ∀ c ∈ digits.dropWhile (· = '0'), IsHexDigit c := fun c hc =>
  h.isDigit c ((List.dropWhile_sublist _).subset hc)

namespace U256

/-- The reader, told by the parts of the text. -/
theorem ofHexChars_eq (text : List Char) :
    ofHexChars text =
      if unmarked text = [] then .error .empty
      else if 64 < (utf8 (significantPart text)).length then
        .error (.tooLong (utf8 (significantPart text)).length)
      else (readHexBytes (paddedBytes text)).map fun bigEndian =>
        decode ((Bytes.zero 32).fill bigEndian.reverse) := by
  unfold ofHexChars
  rw [dropHexMarker_eq_unmarked]
  rfl

/-- The padded text of a hex text writes 32 bytes, of the value of its digits. -/
theorem exists_readHexBytes_of_isHexText {text : List Char} (h : IsHexText text digits) :
    ∃ wire : Bytes 32, readHexBytes (paddedBytes text) = .ok wire.toList.reverse ∧
      wire.value = hexValue digits := by
  have hdigits := h.unmarked_eq
  have hsig := h.isDigit_of_mem_dropWhile
  have h64 := h.significant
  set significant := digits.dropWhile (· = '0') with hs
  -- the padding consists of digits too, so there are 64 digits and no other byte
  have hpadded : paddedBytes text
      = utf8 (List.replicate (64 - significant.length) '0' ++ significant) := by
    have hzero : String.utf8EncodeChar '0' = [48] := rfl
    rw [paddedBytes, significantPart, hdigits, utf8, utf8, List.flatMap_append,
      List.flatMap_replicate, hzero, List.flatten_replicate_singleton]
  have hall : ∀ c ∈ List.replicate (64 - significant.length) '0' ++ significant,
      IsHexDigit c := by
    refine List.forall_mem_append.2 ⟨fun c hc => ?_, hsig⟩
    rw [List.eq_of_mem_replicate hc]
    decide
  have hlen : (List.replicate (64 - significant.length) '0' ++ significant).length = 2 * 32 := by
    rw [List.length_append, List.length_replicate, Nat.sub_add_cancel h64]
  obtain ⟨bytes, hread, hcount, hvalue⟩ := readHexPairs_utf8 hall hlen 0
  refine ⟨⟨bytes.reverse, by rw [List.length_reverse, hcount]⟩, ?_, ?_⟩
  · have heven : (paddedBytes text).length = 64 := by
      rw [hpadded, length_utf8_of_isHexDigit hall, hlen]
    rw [readHexBytes, heven, if_neg (by decide), hpadded, hread, List.reverse_reverse]
  · rw [← hexValue_dropWhile, ← hs, ← hexValue_replicate_append, ← hvalue]
    rfl

/-- The digits of a hex text write a number below the bound. -/
theorem toNat_ofNat_hexValue {text : List Char} (h : IsHexText text digits) :
    (ofNat (hexValue digits)).toNat = hexValue digits := by
  have hv := hexValue_lt h.isDigit_of_mem_dropWhile
  rw [hexValue_dropWhile] at hv
  have hp : 16 ^ (digits.dropWhile (· = '0')).length ≤ bound :=
    (Nat.pow_le_pow_right (by decide) h.significant).trans (by decide)
  rw [toNat_ofNat, Nat.mod_eq_of_lt (hv.trans_le hp)]

/-- **Every hex text is read,** as the value of its digits: the bytes that they write replace all of
the wire bytes. -/
theorem ofHexChars_of_isHexText {text : List Char} (h : IsHexText text digits) :
    ofHexChars text = .ok (ofNat (hexValue digits)) := by
  obtain ⟨wire, hread, hvalue⟩ := exists_readHexBytes_of_isHexText h
  have hdigits := h.unmarked_eq
  have hshort : ¬ 64 < (utf8 (significantPart text)).length := by
    rw [significantPart, hdigits, length_utf8_of_isHexDigit h.isDigit_of_mem_dropWhile]
    exact Nat.not_lt.2 h.significant
  have hfill : (Bytes.zero 32).fill wire.toList = wire :=
    Bytes.ext (Buffer.fill_eq_of_length_eq
      (wire.length_toList.trans (Bytes.zero 32).length_toList.symm))
  have hdecode : decode wire = ofNat (hexValue digits) :=
    toNat_inj (by rw [toNat_decode, hvalue, toNat_ofNat_hexValue h])
  rw [ofHexChars_eq, if_neg (by rw [hdigits]; exact h.nonempty), if_neg hshort, hread]
  simp only [Except.map, List.reverse_reverse]
  rw [hfill, hdecode]

/-- What is read as a value is a hex text. -/
theorem isHexText_of_ofHexChars {text : List Char} {a : U256} (h : ofHexChars text = .ok a) :
    IsHexText text (dropHexMarker text) := by
  have hdigit : ∀ c ∈ dropHexMarker text, IsHexDigit c := fun c hc =>
    isHexDigit_iff.1 (isSome_hexDigit?_of_ofHexChars h c hc)
  refine ⟨eq_or_eq_cons_dropHexMarker text, ?_, hdigit, ?_⟩
  · intro hempty
    rw [ofHexChars, if_pos hempty] at h
    cases h
  · unfold ofHexChars at h
    extract_lets digits significant bytes padded at h
    split_ifs at h with hempty hlong
    have hlen : bytes.length = significant.length :=
      length_utf8_of_isHexDigit fun c hc => hdigit c ((List.dropWhile_sublist _).subset hc)
    rw [← hlen]
    exact Nat.not_lt.1 hlong

/-- What is read is the number that the digits after the marker write. -/
theorem toNat_of_ofHexChars {text : List Char} {a : U256} (h : ofHexChars text = .ok a) :
    a.toNat = hexValue (dropHexMarker text) := by
  have ht := isHexText_of_ofHexChars h
  have ha : a = ofNat (hexValue (dropHexMarker text)) :=
    Except.ok.inj (h.symm.trans (ofHexChars_of_isHexText ht))
  rw [ha, toNat_ofNat_hexValue ht]

/-- **A text is accepted just when it is a hex text,** and denotes the number that its digits
write. -/
theorem ofHex_eq_ok_iff (s : String) (a : U256) :
    ofHex s = .ok a ↔ ∃ digits, IsHexText s.toList digits ∧ a.toNat = hexValue digits := by
  constructor
  · intro h
    exact ⟨_, isHexText_of_ofHexChars h, toNat_of_ofHexChars h⟩
  · rintro ⟨digits, ht, ha⟩
    rw [ofHex, ofHexChars_of_isHexText ht]
    exact congrArg _ (toNat_inj (by rw [toNat_ofNat_hexValue ht, ha]))

/-- **Of an accepted text the wire bytes of its value are read,** the most significant first, and no
byte besides. -/
theorem readHexBytes_of_ofHex {s : String} {a : U256} (h : ofHex s = .ok a) :
    readHexBytes (paddedBytes s.toList) = .ok a.encode.toList.reverse := by
  obtain ⟨wire, hread, hvalue⟩ := exists_readHexBytes_of_isHexText (isHexText_of_ofHexChars h)
  have hwire : a.encode = wire := Bytes.value_injective (by
    rw [value_encode, toNat_of_ofHexChars h, hvalue])
  rw [hread, hwire]

/-- How a text is read: which texts are accepted and as which values, and which bytes the digits of
an accepted text write. -/
structure ReadsByGrammar (s : String) : Prop where
  accepted_iff (a : U256) :
    ofHex s = .ok a ↔ ∃ digits, IsHexText s.toList digits ∧ a.toNat = hexValue digits
  untruncated {a : U256} (h : ofHex s = .ok a) :
    readHexBytes (paddedBytes s.toList) = .ok a.encode.toList.reverse

/-- **Hex is read by its grammar.** -/
theorem reads_by_grammar (s : String) : ReadsByGrammar s where
  accepted_iff := ofHex_eq_ok_iff s
  untruncated := readHexBytes_of_ofHex

/-- The digits of 255 in capitals, with the other marker and two zeros, write 31 zero bytes and then
one of all bits. -/
theorem reads_by_grammar_of_capitals :
    (∃ digits, IsHexText "0X00fF".toList digits ∧ (ofWord 255).toNat = hexValue digits) ∧
    readHexBytes (paddedBytes "0X00fF".toList) = .ok (List.replicate 31 0 ++ [255]) := by
  have h : ofHex "0X00fF" = .ok (ofWord 255) := by decide +kernel
  have hbytes : (ofWord 255).encode.toList.reverse = List.replicate 31 0 ++ [255] := by decide
  refine ⟨((reads_by_grammar _).accepted_iff _).1 h, ?_⟩
  rw [(reads_by_grammar _).untruncated h, hbytes]

/-- A second marker and a sign are characters that are no digits; zeros in front are free. -/
example : ofHex "0X00fF" = .ok (ofWord 255) ∧ (ofHex "0x0x1").isOk = false
    ∧ (ofHex "+1").isOk = false := by decide +kernel

end U256
end StarkWire
