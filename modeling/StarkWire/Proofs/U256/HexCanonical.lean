/-
# The canonical text of a value

Many texts denote one value: the marker may be `0x`, `0X` or missing, zeros in front are free, and
digits may be of either case.  One of these texts is written, `0x` and the value in base 16, and it
can be found from any of the others without reading it: drop the marker and the zeros, write the
digits in lowercase, and put a zero where none is left (`canonicalHex`).

In between stand limbs and bytes: each limb is eight bytes, least significant first, and the 32 bytes
of the four limbs in reverse are written in two digits each.  These 64 digits are the value in base
16 with zeros in front (`U256.hexChars_encode_eq_leftpad`).

All of this rests on one fact.  Digits that do not start with a zero are, in lowercase, the base-16
digits of the number that they write (`toDigits_hexValue`); for a digit is worth zero only if it is
`0`, so such digits write a positive number, and one digit more appends to its base-16 digits.
-/

import StarkWire.Proofs.U256.HexWriting

namespace StarkWire

variable {c : Char} {digits : List Char}

/-! ### Digits and the number that they write -/

/-- The only digit that is worth nothing is the zero. -/
theorem eq_zero_of_hexDigitValue_eq_zero (h : IsHexDigit c) (hv : hexDigitValue c = 0) :
    c = '0' := by
  have htable : ∀ n < 128, hexDigitValue (Char.ofNat n) = 0 → n = 48 := by decide +kernel
  have hc := htable c.toNat h.toNat_lt
  rw [Char.ofNat_toNat] at hc
  rw [← Char.ofNat_toNat c, hc hv]

/-- The digit that is written for the worth of a digit is that digit in lowercase. -/
theorem digitChar_hexDigitValue (h : IsHexDigit c) :
    Nat.digitChar (hexDigitValue c) = c.toLower := by
  have hlt : hexAlphabet.idxOf c.toLower < hexAlphabet.length := List.idxOf_lt_length_iff.2 h
  rw [digitChar_eq_lowerDigit _ (hexDigitValue_lt h), lowerDigit, hexDigitValue,
    List.getD_eq_getElem?_getD, List.getElem?_eq_getElem hlt, Option.getD_some, List.getElem_idxOf]

/-- Digits that do not start with a zero write a positive number. -/
theorem hexValue_pos (h : ∀ c ∈ digits, IsHexDigit c) (hne : digits ≠ [])
    (hz : digits.head? ≠ some '0') : 0 < hexValue digits := by
  cases digits with
  | nil => exact absurd rfl hne
  | cons c rest =>
    have hc : hexDigitValue c ≠ 0 := by
      intro hv
      refine hz ?_
      rw [List.head?_cons, eq_zero_of_hexDigitValue_eq_zero (h c List.mem_cons_self) hv]
    have hpow : 0 < 16 ^ rest.length * hexDigitValue c :=
      Nat.mul_pos (Nat.pow_pos (by decide)) (Nat.pos_of_ne_zero hc)
    rw [hexValue_cons]
    omega

/-- **Digits are determined by the number that they write,** up to their case and to zeros in
front. -/
theorem toDigits_hexValue (h : ∀ c ∈ digits, IsHexDigit c) (hne : digits ≠ [])
    (hz : digits.head? ≠ some '0') :
    Nat.toDigits 16 (hexValue digits) = digits.map Char.toLower := by
  -- from the end, as the last digit is the one that a further step of the writer appends
  induction digits using List.reverseRecOn with
  | nil => exact absurd rfl hne
  | append_singleton front c ih =>
    have hc : IsHexDigit c := h c (by simp)
    have hlt := hexDigitValue_lt hc
    have hlast : Nat.toDigits 16 (hexDigitValue c) = [c.toLower] := by
      rw [Nat.toDigits_of_lt_base hlt, digitChar_hexDigitValue hc]
    rw [hexValue_append, hexValue_singleton, List.length_singleton, Nat.pow_one, List.map_append,
      List.map_singleton]
    rcases eq_or_ne front [] with rfl | hfront
    · have hnil : hexValue [] = 0 := rfl
      rw [hnil, Nat.mul_zero, Nat.zero_add, hlast]
      rfl
    · have hdigit : ∀ d ∈ front, IsHexDigit d := fun d hd => h d (List.mem_append_left _ hd)
      have hhead : front.head? ≠ some '0' := by
        rwa [List.head?_append_of_ne_nil _ hfront] at hz
      rw [← Nat.toDigits_append_toDigits (by decide) (hexValue_pos hdigit hfront hhead) hlt,
        ih hdigit hfront hhead, hlast]

/-! ### The significant digits -/

/-- No zero is left in front. -/
theorem head?_dropWhile_ne_zero (digits : List Char) :
    (digits.dropWhile (· = '0')).head? ≠ some '0' := by
  intro h
  have hhead := List.head?_dropWhile_not (fun c => decide (c = '0')) digits
  rw [h] at hhead
  cases hhead

/-- Digits write zero just when all of them are zeros. -/
theorem toDigits_hexValue_of_forall (h : ∀ c ∈ digits, IsHexDigit c) :
    Nat.toDigits 16 (hexValue digits)
      = if digits.dropWhile (· = '0') = [] then ['0']
        else (digits.dropWhile (· = '0')).map Char.toLower := by
  rw [← hexValue_dropWhile]
  split_ifs with hempty
  · rw [hempty]
    rfl
  · exact toDigits_hexValue (fun c hc => h c ((List.dropWhile_sublist _).subset hc)) hempty
      (head?_dropWhile_ne_zero digits)

/-- A digit that is written is in lowercase already. -/
theorem toLower_of_mem_hexAlphabet (h : c ∈ hexAlphabet) : c.toLower = c := by
  have htable : ∀ d ∈ hexAlphabet, d.toLower = d := by
    simp only [hexAlphabet, List.forall_mem_cons, List.not_mem_nil, false_implies, implies_true,
      and_true]
    decide
  exact htable c h

/-- The marker `0x`, then the significant digits of a text in lowercase, or a zero if there are
none. -/
def canonicalHex (text : String) : String :=
  match significantPart text.toList with
  | [] => "0x0"
  | digits => "0x" ++ String.ofList (digits.map Char.toLower)

namespace U256

variable {a b : U256} {s t : String}

/-- **What is written is the value in base 16.** -/
theorem writtenDigits_eq (a : U256) : a.writtenDigits = Nat.toDigits 16 a.toNat := by
  have hdigits := a.isHexText_toHexChars.isDigit
  have hlower : a.writtenDigits.map Char.toLower = a.writtenDigits := by
    rw [List.map_congr_left fun c hc =>
      toLower_of_mem_hexAlphabet (mem_hexAlphabet_of_mem_writtenDigits hc), List.map_id']
  rw [← hexValue_writtenDigits, toDigits_hexValue_of_forall hdigits, dropWhile_writtenDigits]
  unfold writtenDigits at hlower ⊢
  generalize (hexDigits maxHexDigits a.toNat).dropWhile (· = '0') = digits at hlower ⊢
  cases digits
  · rfl
  · exact hlower.symm

/-- **The wire bytes in reverse are written as the value in base 16,** with zeros in front to make 64
digits. -/
theorem hexChars_encode_eq_leftpad (a : U256) :
    hexChars a.encode.toList.reverse = (Nat.toDigits 16 a.toNat).leftpad 64 '0' := by
  have hlength := length_hexDigits maxHexDigits a.toNat
  have hsplit := replicate_append_dropWhile (hexDigits maxHexDigits a.toNat)
  rw [hexChars_encode, ← writtenDigits_eq, writtenDigits, List.leftpad]
  generalize hexDigits maxHexDigits a.toNat = digits at hlength hsplit ⊢
  have hzeros := congrArg List.length hsplit
  rw [List.length_append, List.length_replicate, hlength] at hzeros
  rcases hd : digits.dropWhile (· = '0') with _ | ⟨c, rest⟩
  · rw [hd, List.length_nil, Nat.add_zero] at hzeros
    rw [hd, List.append_nil, hzeros] at hsplit
    exact hsplit.symm
  · rw [hd] at hzeros hsplit
    rw [Nat.eq_sub_of_add_eq hzeros] at hsplit
    exact hsplit.symm

/-- **The text of a value** is the marker and its digits in base 16. -/
theorem toHex_eq (a : U256) : a.toHex = "0x" ++ String.ofList (Nat.toDigits 16 a.toNat) := by
  have hmarker : "0x" = String.ofList ['0', 'x'] := rfl
  rw [toHex, toHexChars_eq, writtenDigits_eq, hmarker, ← String.ofList_append]
  rfl

/-- Different values have different texts, as each is read back. -/
theorem toHex_injective : Function.Injective toHex := by
  intro a b h
  have hread := congrArg ofHex h
  rw [ofHex_toHex, ofHex_toHex] at hread
  exact Except.ok.inj hread

/-- **What is read is written as the canonical text.** -/
theorem toHex_of_ofHex (h : ofHex s = .ok a) : a.toHex = canonicalHex s := by
  have ht := isHexText_of_ofHexChars h
  have ha : a.toNat = hexValue (unmarked s.toList) := by
    rw [← dropHexMarker_eq_unmarked, toNat_of_ofHexChars h]
  rw [dropHexMarker_eq_unmarked] at ht
  rw [toHex_eq, ha, toDigits_hexValue_of_forall ht.isDigit, canonicalHex, significantPart]
  rcases (unmarked s.toList).dropWhile (· = '0') with _ | ⟨c, rest⟩
  · rfl
  · rw [if_neg (List.cons_ne_nil c rest)]

/-- Writing and reading hex: the digits that are written for the wire bytes of a value and the bytes
that its digits are read as, one text for each value, and one value for each canonical text. -/
structure HexIsCanonical : Prop where
  digits (a : U256) :
    hexChars a.encode.toList.reverse = (Nat.toDigits 16 a.toNat).leftpad 64 '0'
  bytes {s : String} {a : U256} (h : ofHex s = .ok a) :
    readHexBytes (paddedBytes s.toList) = .ok a.encode.toList.reverse
  written (a : U256) : a.toHex = "0x" ++ String.ofList (Nat.toDigits 16 a.toNat)
  read (a : U256) : ofHex a.toHex = .ok a
  injective : Function.Injective toHex
  rewritten {s : String} {a : U256} (h : ofHex s = .ok a) : a.toHex = canonicalHex s
  same_iff {s t : String} {a b : U256} (hs : ofHex s = .ok a) (ht : ofHex t = .ok b) :
    a = b ↔ canonicalHex s = canonicalHex t

/-- **Hex text is canonical.** -/
theorem hex_is_canonical : HexIsCanonical where
  digits := hexChars_encode_eq_leftpad
  bytes := readHexBytes_of_ofHex
  written := toHex_eq
  read := ofHex_toHex
  injective := toHex_injective
  rewritten h := toHex_of_ofHex h
  same_iff hs ht := by
    rw [← toHex_of_ofHex hs, ← toHex_of_ofHex ht, toHex_injective.eq_iff]

/-- Zeros in front, capitals and the other marker leave the text of 255 as it is. -/
theorem hex_is_canonical_mixed_case :
    ofHex "0X00fF" = .ok (ofWord 255) ∧ ofHex "ff" = .ok (ofWord 255) ∧
    canonicalHex "0X00fF" = "0xff" ∧ (ofWord 255).toHex = "0xff" ∧
    canonicalHex "0X00fF" = canonicalHex "ff" := by
  have hs : ofHex "0X00fF" = .ok (ofWord 255) := by decide +kernel
  have ht : ofHex "ff" = .ok (ofWord 255) := by decide +kernel
  have hc : canonicalHex "0X00fF" = "0xff" := by decide +kernel
  exact ⟨hs, ht, hc, (hex_is_canonical.rewritten hs).trans hc,
    (hex_is_canonical.same_iff hs ht).1 rfl⟩

end U256
end StarkWire
