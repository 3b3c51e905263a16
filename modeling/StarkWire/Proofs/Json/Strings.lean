/-
# Reading and writing JSON strings

The reader of a string undoes exactly what may be written for a text: up to the closing quote it
reads the text that is spelled there (`readString_of_spells`), and where it succeeds it has read
what spells the text (`exists_spells_of_readString`).  Both follow the string one character at a
time; a character that is spelled by two code units is read in one step.

A string that is passed over may be any that is written at all (`passString_of_loose`).  What the
writer puts between quotes spells the text (`spells_flatMap_writeChar`).
-/

import StarkWire.Proofs.Json.Grammar
import StarkWire.Proofs.U256.HexWriting

namespace StarkWire
namespace Json

/-! ### Code units and letters -/

/-- The digits of an escape are the hexadecimal ones, with their values. -/
theorem hexDigitOfChar?_eq (c : Char) :
    hexDigitOfChar? c = if IsHexDigit c then some (hexDigitValue c) else none := by
  unfold hexDigitOfChar?
  by_cases hc : c.toNat < 128
  · rw [if_pos hc]
    exact hexDigit?_eq hc
  · rw [if_neg hc, if_neg fun h => hc h.toNat_lt]

/-- Four digits are read as a number just when they are a code unit. -/
theorem unitOfDigits?_eq_some_iff {a b c d : Char} {n : ℕ} :
    unitOfDigits? a b c d = some n ↔ CodeUnit [a, b, c, d] n := by
  have hvalue : hexValue [a, b, c, d] = 4096 * hexDigitValue a + 256 * hexDigitValue b
      + 16 * hexDigitValue c + hexDigitValue d := by
    have hnil : hexValue [] = 0 := rfl
    simp only [hexValue_cons, hnil, List.length_cons, List.length_nil]
    omega
  have hif : unitOfDigits? a b c d
      = if ∀ x ∈ [a, b, c, d], IsHexDigit x then some (hexValue [a, b, c, d]) else none := by
    simp only [unitOfDigits?, hexDigitOfChar?_eq, hvalue, List.forall_mem_cons]
    by_cases ha : IsHexDigit a <;> by_cases hb : IsHexDigit b <;>
      by_cases hc : IsHexDigit c <;> by_cases hd : IsHexDigit d <;> simp [ha, hb, hc, hd]
  rw [hif]
  constructor
  · intro h
    split_ifs at h with hdigit
    exact ⟨rfl, hdigit, Option.some.inj h⟩
  · intro h
    rw [if_pos h.isDigit, h.value_eq]

/-- The four digits of a code unit, as the reader takes them. -/
theorem CodeUnit.exists_digits {digits : List Char} {n : ℕ} (h : CodeUnit digits n) :
    ∃ a b c d, digits = [a, b, c, d] ∧ unitOfDigits? a b c d = some n := by
  match digits, h.length_eq with
  | [a, b, c, d], _ => exact ⟨a, b, c, d, rfl, unitOfDigits?_eq_some_iff.2 h⟩

/-- A code unit is below `2^16`. -/
theorem CodeUnit.lt {digits : List Char} {n : ℕ} (h : CodeUnit digits n) : n < 0x10000 := by
  have hlt := hexValue_lt h.isDigit
  rwa [h.length_eq, h.value_eq] at hlt

/-- The letters that may be escaped are those of the table. -/
theorem escapedChar?_eq_some_iff {l c : Char} :
    escapedChar? l = some c ↔ (l, c) ∈ letterEscapes := by
  simp only [letterEscapes, List.mem_cons, List.not_mem_nil, or_false, Prod.mk.injEq]
  unfold escapedChar?
  split <;> simp_all [eq_comm]

/-- The letter `u` is none of them. -/
theorem ne_of_mem_letterEscapes {l c : Char} (h : (l, c) ∈ letterEscapes) : l ≠ 'u' := by
  rintro rfl
  simp [letterEscapes] at h

/-! ### Reading what is spelled -/

/-- No character has a code point between the code units of the pairs. -/
theorem not_surrogate (c : Char) : c.toNat < 0xD800 ∨ 0xDFFF < c.toNat := by
  rcases c.valid with h | h
  · exact .inl h
  · exact .inr h.1

/-- One character is read off what spells it. -/
theorem readString_char {w : List Char} {c : Char} (h : SpellsChar w c) (rest : List Char) :
    readString (w ++ rest) = (readString rest).map (consRead c) := by
  cases h with
  | plain h =>
    obtain ⟨hctl, hquote, hslash⟩ := h
    rw [List.singleton_append, readString, if_neg (Nat.not_lt.2 hctl)]
    all_goals simp_all
  | letter h =>
    have hu := ne_of_mem_letterEscapes h
    have he := escapedChar?_eq_some_iff.2 h
    simp only [List.cons_append, List.nil_append]
    rw [readString, he]
    simpa using hu
  | unit h =>
    obtain ⟨a, b, d, e, rfl, hunit⟩ := h.exists_digits
    -- a code unit that stands for a character by itself is no half of a pair
    have hsur := not_surrogate c
    have hlead : isLeading c.toNat = false := by simp [isLeading]; omega
    have htrail : isTrailing c.toNat = false := by simp [isTrailing]; omega
    simp only [List.cons_append, List.nil_append]
    rw [readString]
    simp [hunit, hlead, htrail]
  | @pair leading trailing c high low hhigh hlow hc hleading htrailing =>
    obtain ⟨a, b, d, e, rfl, hunit⟩ := hleading.exists_digits
    obtain ⟨a', b', d', e', rfl, hunit'⟩ := htrailing.exists_digits
    have hlead : isLeading (0xD800 + high) = true := by simp [isLeading]; omega
    have hnot : isTrailing (0xD800 + high) = false := by simp [isTrailing]; omega
    have htrail : isTrailing (0xDC00 + low) = true := by simp [isTrailing]; omega
    have hpaired : pairedChar (0xD800 + high) (0xDC00 + low) = c := by
      rw [pairedChar, Nat.add_sub_cancel_left, Nat.add_sub_cancel_left, ← hc, Char.ofNat_toNat]
    simp only [List.cons_append, List.nil_append]
    rw [readString]
    simp [hunit, hunit', hlead, hnot, htrail, hpaired]

/-- **A text is read off what spells it,** up to the closing quote. -/
theorem readString_of_spells {written text : List Char} (h : Spells written text)
    (rest : List Char) : readString (written ++ '"' :: rest) = .ok (text, rest) := by
  induction h with
  | nil => rw [List.nil_append, readString]
  | cons head _ ih =>
    rw [List.append_assoc, readString_char head, ih]
    rfl

/-- A number that is a code point is that of its character. -/
theorem toNat_ofNat_of_isValidChar {n : ℕ} (h : n.isValidChar) : (Char.ofNat n).toNat = n := by
  rw [Char.ofNat, dif_pos h]
  rfl

/-- A code unit that is no half of a pair is spelled by its digits. -/
theorem spellsChar_ofNat {digits : List Char} {n : ℕ} (h : CodeUnit digits n)
    (hlead : ¬ isLeading n = true) (htrail : ¬ isTrailing n = true) :
    SpellsChar ('\\' :: 'u' :: digits) (.ofNat n) := by
  have hlt := h.lt
  have hvalid : n.isValidChar := by
    simp only [isLeading, isTrailing, Bool.and_eq_true, decide_eq_true_eq] at hlead htrail
    unfold Nat.isValidChar
    omega
  refine .unit ?_
  rwa [toNat_ofNat_of_isValidChar hvalid]

/-- Two halves of a pair spell the character of the pair. -/
theorem spellsChar_pairedChar {leading trailing : List Char} {m n : ℕ} (hm : CodeUnit leading m)
    (hn : CodeUnit trailing n) (hlead : isLeading m = true) (htrail : isTrailing n = true) :
    SpellsChar ('\\' :: 'u' :: leading ++ '\\' :: 'u' :: trailing) (pairedChar m n) := by
  simp only [isLeading, isTrailing, Bool.and_eq_true, decide_eq_true_eq] at hlead htrail
  obtain ⟨high, rfl⟩ := Nat.exists_eq_add_of_le hlead.1
  obtain ⟨low, rfl⟩ := Nat.exists_eq_add_of_le htrail.1
  have hvalid : (0x10000 + 0x400 * high + low).isValidChar := by
    unfold Nat.isValidChar
    omega
  refine .pair (by omega) (by omega) ?_ hm hn
  rw [pairedChar, Nat.add_sub_cancel_left, Nat.add_sub_cancel_left,
    toNat_ofNat_of_isValidChar hvalid]

/-- One more character in front of what has been read. -/
theorem exists_spells_cons {w cs text rest : List Char} {c : Char} (h : SpellsChar w c)
    (hcs : (readString cs).map (consRead c) = .ok (text, rest))
    (ih : ∀ tail, readString cs = .ok (tail, rest) →
      ∃ written, Spells written tail ∧ cs = written ++ '"' :: rest) :
    ∃ written, Spells written text ∧ w ++ cs = written ++ '"' :: rest := by
  obtain ⟨⟨tail, after⟩, hread, htext⟩ := map_eq_ok_iff.1 hcs
  obtain ⟨rfl, rfl⟩ := Prod.mk.inj htext
  obtain ⟨written, hw, rfl⟩ := ih tail hread
  exact ⟨w ++ written, .cons h hw, (List.append_assoc _ _ _).symm⟩

/-- **Where the reader succeeds,** it has read what spells the text. -/
theorem exists_spells_of_readString {cs text rest : List Char}
    (h : readString cs = .ok (text, rest)) :
    ∃ written, Spells written text ∧ cs = written ++ '"' :: rest := by
  fun_induction readString cs generalizing text with
  | case1 => cases h
  | case2 =>
    cases h
    exact ⟨[], .nil, rfl⟩
  | case9 a b c d leading hleading hnot hlead a' b' c' d' rest trailing htrailing htrail ih =>
    refine exists_spells_cons (w := ['\\', 'u', a, b, c, d, '\\', 'u', a', b', c', d']) ?_ h
      fun tail ht => ih ht
    exact spellsChar_pairedChar (unitOfDigits?_eq_some_iff.1 hleading)
      (unitOfDigits?_eq_some_iff.1 htrailing) hlead htrail
  | case13 a b c d rest unit hunit hnot hlead ih =>
    refine exists_spells_cons (w := ['\\', 'u', a, b, c, d]) ?_ h fun tail ht => ih ht
    exact spellsChar_ofNat (unitOfDigits?_eq_some_iff.1 hunit) hlead hnot
  | case15 l rest hu c hc ih =>
    exact exists_spells_cons (w := ['\\', l]) (.letter (escapedChar?_eq_some_iff.1 hc)) h
      fun tail ht => ih ht
  | case18 c rest hquote hend hunit hescape hctl ih =>
    refine exists_spells_cons (w := [c]) (.plain ⟨Nat.not_lt.1 hctl, hquote, ?_⟩) h
      fun tail ht => ih ht
    -- a backslash is followed by nothing, by `u` or by another letter
    rintro rfl
    rcases rest with _ | ⟨l, rest⟩
    · exact hend rfl rfl
    · exact hescape l rest rfl rfl
  | _ => simp_all

/-! ### Passing over a string -/

/-- One character of a string that nobody reads is passed over. -/
theorem passString_char {w : List Char} (h : LooseChar w) (rest : List Char) :
    passString (w ++ rest) = passString rest := by
  cases h with
  | plain h =>
    obtain ⟨hctl, hquote, hslash⟩ := h
    rw [List.singleton_append, passString, if_neg (Nat.not_lt.2 hctl)]
    all_goals simp_all
  | letter h =>
    have hu := ne_of_mem_letterEscapes h
    have he := escapedChar?_eq_some_iff.2 h
    simp only [List.cons_append, List.nil_append]
    rw [passString, he]
    simpa using hu
  | unit h =>
    obtain ⟨a, b, d, e, rfl, hunit⟩ := h.exists_digits
    simp only [List.cons_append, List.nil_append]
    rw [passString]
    simp only [hunit]

/-- A string that nobody reads is passed over to its closing quotation mark. -/
theorem passString_of_loose {written : List Char} (h : Loose written) (rest : List Char) :
    passString (written ++ '"' :: rest) = .ok rest := by
  induction h with
  | nil => rw [List.nil_append, passString]
  | cons head _ ih => rw [List.append_assoc, passString_char head, ih]

/-! ### Writing -/

/-- A control is written as its code unit. -/
theorem codeUnit_hexDigits {n : ℕ} (h : n < 16 ^ 4) : CodeUnit (hexDigits 4 n) n where
  length_eq := length_hexDigits 4 n
  isDigit c hc := isHexDigit_of_mem_hexAlphabet c (mem_hexAlphabet_of_mem_hexDigits hc)
  value_eq := by rw [hexValue_hexDigits, Nat.mod_eq_of_lt h]

/-- What is written for a character spells it. -/
theorem spellsChar_writeChar (c : Char) : SpellsChar (writeChar c) c := by
  unfold writeChar
  split_ifs with hself hb hf hn hr ht hctl
  · rcases hself with rfl | rfl <;> exact .letter (by decide)
  · exact hb ▸ .letter (by decide)
  · exact hf ▸ .letter (by decide)
  · exact hn ▸ .letter (by decide)
  · exact hr ▸ .letter (by decide)
  · exact ht ▸ .letter (by decide)
  · exact .unit (codeUnit_hexDigits (by omega))
  · rw [not_or] at hself
    exact .plain ⟨Nat.not_lt.1 hctl, hself.1, hself.2⟩

/-- What is written for a text spells it. -/
theorem spells_flatMap_writeChar (text : List Char) : Spells (text.flatMap writeChar) text := by
  induction text with
  | nil => exact .nil
  | cons c rest ih => exact .cons (spellsChar_writeChar c) ih

end Json
end StarkWire
