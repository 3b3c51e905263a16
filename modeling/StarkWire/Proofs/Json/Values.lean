/-
# Passing over JSON values

Whatever value is written, the reader that passes over a value goes to its end
(`pass_of_isValue`).  The end of a number is where no more of it follows, so the text after a value
is asked to go on with nothing that belongs to a number (`Ends`); blanks, commas and brackets do
not.

A list and an object are passed over by one argument: each part takes the reader from where a part
may start to where a comma or the closing bracket is wanted (`Part`), and so do several parts with
commas between them (`pass_separated`).
-/

import StarkWire.Json.Skip
import StarkWire.Proofs.Json.Strings

namespace StarkWire
namespace Json

/-! ### Blanks -/

variable {cs rest : List Char}

/-- No blanks at all are blank. -/
theorem isBlank_nil : IsBlank [] := by
  intro c hc
  cases hc

/-- A line break with the blanks at the start of the next line. -/
theorem isBlank_line (n : ℕ) : IsBlank ('\n' :: List.replicate n ' ') := by
  rw [IsBlank, List.forall_mem_cons]
  refine ⟨by decide, fun c hc => ?_⟩
  rw [List.eq_of_mem_replicate hc]
  decide

/-- Blanks at the start are skipped, however many there are. -/
theorem skipBlanks_append {blanks : List Char} (h : IsBlank blanks) (cs : List Char) :
    skipBlanks (blanks ++ cs) = skipBlanks cs := by
  induction blanks with
  | nil => rfl
  | cons c blanks ih =>
    have hc := h c List.mem_cons_self
    simp only [List.mem_cons, List.not_mem_nil, or_false] at hc
    rw [List.cons_append, skipBlanks, if_pos hc]
    exact ih fun d hd => h d (List.mem_cons_of_mem _ hd)

/-- Nothing is skipped at a character that is no blank. -/
theorem skipBlanks_of_not_blank {c : Char} (h : c ∉ [' ', '\n', '\t', '\r']) (rest : List Char) :
    skipBlanks (c :: rest) = c :: rest := by
  simp only [List.mem_cons, List.not_mem_nil, or_false] at h
  rw [skipBlanks, if_neg h]

/-- What is skipped is blank. -/
theorem exists_blank_append (cs : List Char) :
    ∃ blanks, IsBlank blanks ∧ cs = blanks ++ skipBlanks cs := by
  induction cs with
  | nil => exact ⟨[], isBlank_nil, rfl⟩
  | cons c rest ih =>
    rw [skipBlanks]
    split_ifs with hc
    · obtain ⟨blanks, hb, hrest⟩ := ih
      refine ⟨c :: blanks, ?_, congrArg (c :: ·) hrest⟩
      rw [IsBlank, List.forall_mem_cons]
      exact ⟨by simpa using hc, hb⟩
    · exact ⟨[], isBlank_nil, rfl⟩

/-- What is left of a text is left of it with more behind. -/
theorem skipBlanks_append_of_eq_cons {c : Char} {tail : List Char} (h : skipBlanks cs = c :: tail)
    (rest : List Char) : skipBlanks (cs ++ rest) = c :: (tail ++ rest) := by
  induction cs with
  | nil => cases h
  | cons d cs ih =>
    rw [List.cons_append, skipBlanks]
    rw [skipBlanks] at h
    split_ifs at h ⊢ with hd
    · exact ih h
    · obtain ⟨rfl, rfl⟩ := List.cons.inj h
      rfl

/-! ### Numbers -/

/-- A number does not go on here. -/
def Ends (rest : List Char) : Prop :=
  ∀ c ∈ rest.head?, c.isDigit = false ∧ c ≠ '.' ∧ c ≠ 'e' ∧ c ≠ 'E'

/-- Digits do not go on here. -/
def NoDigit (rest : List Char) : Prop := ∀ c ∈ rest.head?, c.isDigit = false

/-- Where a number ends no digit follows. -/
theorem Ends.noDigit (h : Ends rest) : NoDigit rest := fun c hc => (h c hc).1

/-- A blank, a comma or a closing bracket ends a number. -/
theorem ends_cons {c : Char} (h : c ∈ [' ', '\n', '\t', '\r', ',', ']', '\x7d']) :
    Ends (c :: rest) := by
  intro d hd
  obtain rfl := Option.some.inj hd
  revert h
  simp only [List.mem_cons, List.not_mem_nil, or_false]
  rintro (rfl | rfl | rfl | rfl | rfl | rfl | rfl) <;> decide

/-- Blanks may come before whatever ends a number. -/
theorem Ends.blank_append {blanks : List Char} (h : Ends rest) (hb : IsBlank blanks) :
    Ends (blanks ++ rest) := by
  cases blanks with
  | nil => exact h
  | cons c blanks =>
    have hc := hb c List.mem_cons_self
    refine ends_cons ?_
    simp only [List.mem_cons] at hc ⊢
    tauto

/-- Digits are passed over to the last one. -/
theorem passDigits_append {digits : List Char} (h : IsDigits digits) (hr : NoDigit rest) :
    passDigits (digits ++ rest) = .ok rest := by
  obtain ⟨c, ds, rfl⟩ := List.exists_cons_of_ne_nil h.nonempty
  have hdigit := List.forall_mem_cons.1 h.isDigit
  have hrest : rest.dropWhile Char.isDigit = rest := by
    cases rest with
    | nil => rfl
    | cons d rest => rw [List.dropWhile_cons_of_neg (by simp [hr d rfl])]
  rw [List.cons_append, passDigits, if_pos hdigit.1, List.dropWhile_append_of_pos hdigit.2, hrest]

/-- An exponent starts with its mark, so the digits before it end there. -/
theorem IsExponent.noDigit_append {exponent : List Char} (h : IsExponent exponent)
    (hr : Ends rest) : NoDigit (exponent ++ rest) := by
  cases h with
  | absent => exact hr.noDigit
  | digits hmark _ _ =>
    intro c hc
    obtain rfl := Option.some.inj hc
    rcases hmark with rfl | rfl <;> rfl

/-- A fraction starts with its point, so the digits before it end there. -/
theorem IsFraction.noDigit_append {fraction exponent : List Char} (hf : IsFraction fraction)
    (he : IsExponent exponent) (hr : Ends rest) : NoDigit (fraction ++ (exponent ++ rest)) := by
  cases hf with
  | absent => exact he.noDigit_append hr
  | digits _ =>
    intro c hc
    obtain rfl := Option.some.inj hc
    rfl

/-- An exponent is passed over, with a sign or without one. -/
theorem passExponent_append {exponent : List Char} (h : IsExponent exponent) (hr : Ends rest) :
    passExponent (exponent ++ rest) = .ok rest := by
  cases h with
  | absent =>
    cases rest with
    | nil => rfl
    | cons c rest =>
      obtain ⟨-, -, he, hE⟩ := hr c rfl
      rw [List.nil_append]
      exact if_neg (not_or.2 ⟨he, hE⟩)
  | @digits mark sign ds hmark hsign h =>
    have hpass := passDigits_append h hr.noDigit
    rw [List.cons_append, List.append_assoc]
    refine (if_pos hmark).trans ?_
    rcases hsign with rfl | rfl | rfl
    · obtain ⟨d, ds, rfl⟩ := List.exists_cons_of_ne_nil h.nonempty
      have hd := h.isDigit d List.mem_cons_self
      have hsign : ¬ (d = '+' ∨ d = '-') := by
        rintro (rfl | rfl) <;> cases hd
      simpa [hsign] using hpass
    · simpa using hpass
    · simpa using hpass

/-- A fraction and the exponent after it are passed over. -/
theorem passFraction_append {fraction exponent : List Char} (hf : IsFraction fraction)
    (he : IsExponent exponent) (hr : Ends rest) :
    passFraction (fraction ++ (exponent ++ rest)) = .ok rest := by
  have hpass := passExponent_append he hr
  cases hf with
  | absent =>
    rw [List.nil_append, passFraction, hpass]
    -- neither an exponent nor what follows starts with a point
    intro tail htail
    cases he with
    | absent => exact (hr '.' (by rw [← List.nil_append rest, htail]; rfl)).2.1 rfl
    | digits hmark _ _ =>
      obtain ⟨rfl, -⟩ := List.cons.inj htail
      rcases hmark with h | h <;> cases h
  | digits h =>
    rw [List.cons_append, passFraction, passDigits_append h (he.noDigit_append hr)]
    exact hpass

/-- A number without a sign is passed over; after a leading zero no digit is looked for. -/
theorem passUnsigned_append {number : List Char} (h : IsUnsigned number) (hr : Ends rest) :
    passUnsigned (number ++ rest) = .ok rest := by
  cases h with
  | @parts integer fraction exponent hi hf he =>
    have hfrac := passFraction_append hf he hr
    have hno := hf.noDigit_append he hr
    rw [List.append_assoc, List.append_assoc]
    obtain ⟨c, ds, rfl⟩ := List.exists_cons_of_ne_nil hi.nonempty
    have hpass := passDigits_append hi.toIsDigits hno
    generalize fraction ++ (exponent ++ rest) = after at hfrac hno hpass ⊢
    by_cases hzero : c = '0'
    -- after a leading zero the integer part is at its end
    · obtain ⟨rfl, rfl⟩ := List.cons.inj (hi.significant (by rw [hzero]; rfl))
      cases after with
      | nil => exact hfrac
      | cons d after =>
        have hd := hno d rfl
        simp only [List.singleton_append, passUnsigned, hd]
        exact hfrac
    · rw [passUnsigned, hpass]
      · exact hfrac
      · intro d tail htail
        exact hzero (List.cons.inj htail).1

/-! ### Where values start -/

/-- A character that a value may start with. -/
def StartsValue (c : Char) : Prop := c.isDigit ∨ c ∈ ['n', 't', 'f', '"', '-', '[', '\x7b']

/-- A value starts neither with a blank nor with a closing bracket. -/
theorem StartsValue.not_mem {c : Char} (h : StartsValue c) :
    c ∉ [' ', '\n', '\t', '\r', ']', '\x7d'] := by
  intro hc
  simp only [List.mem_cons, List.not_mem_nil, or_false] at hc
  rcases hc with rfl | rfl | rfl | rfl | rfl | rfl <;> revert h <;> unfold StartsValue <;> decide

/-- A number without a sign starts with a digit. -/
theorem IsUnsigned.exists_digit {number : List Char} (h : IsUnsigned number) :
    ∃ c tail, number = c :: tail ∧ c.isDigit := by
  cases h with
  | parts hi hf he =>
    obtain ⟨c, ds, rfl⟩ := List.exists_cons_of_ne_nil hi.nonempty
    exact ⟨c, _, rfl, hi.isDigit c List.mem_cons_self⟩

/-- A value starts with one of the characters that values start with. -/
theorem IsValue.exists_start {value : List Char} (h : IsValue value) :
    ∃ c tail, value = c :: tail ∧ StartsValue c := by
  cases h with
  | word h =>
    simp only [List.mem_cons, List.not_mem_nil, or_false] at h
    rcases h with rfl | rfl | rfl <;> exact ⟨_, _, rfl, .inr (by decide)⟩
  | number h =>
    cases h with
    | positive h =>
      obtain ⟨c, tail, rfl, hc⟩ := h.exists_digit
      exact ⟨c, tail, rfl, .inl hc⟩
    | negative _ => exact ⟨_, _, rfl, .inr (by decide)⟩
  | string _ => exact ⟨_, _, rfl, .inr (by decide)⟩
  | list _ _ _ => exact ⟨_, _, rfl, .inr (by decide)⟩
  | object _ _ _ _ => exact ⟨_, _, rfl, .inr (by decide)⟩

/-- No value starts with a blank, so nothing of it is skipped. -/
theorem IsValue.skipBlanks_append {value : List Char} (h : IsValue value) (rest : List Char) :
    skipBlanks (value ++ rest) = value ++ rest := by
  obtain ⟨c, tail, rfl, hc⟩ := h.exists_start
  have hnot := hc.not_mem
  simp only [List.mem_cons, not_or] at hnot
  exact skipBlanks_of_not_blank (by simp [hnot]) _

/-! ### One step of passing over -/

variable {stack : List Bracket} {bracket : Bracket}

/-- A character that opens a bracket. -/
def OpensBracket (c : Char) : Prop := c = '[' ∨ c = '\x7b'

/-- A value that is no bracket is passed over at one go. -/
theorem pass_value_of_passScalar {c : Char} {tail : List Char} (hb : skipBlanks cs = c :: tail)
    (hc : ¬ OpensBracket c) (hs : passScalar (c :: tail) = .ok rest) :
    pass .value stack cs = pass .afterValue stack rest := by
  rw [pass]
  split
  · simp_all
  · rename_i c' tail' hb'
    obtain ⟨rfl, rfl⟩ := List.cons.inj (hb.symm.trans hb')
    refine (if_neg hc).trans ?_
    split <;> simp_all

/-- The character that opens a bracket. -/
def Bracket.opening : Bracket → Char
  | list => '['
  | object => '\x7b'

/-- At an opening bracket the reader goes on inside, unless it is closed at once. -/
theorem pass_value_of_opening (hb : skipBlanks cs = bracket.opening :: rest) :
    pass .value stack cs = pass (afterOpening bracket stack rest).1
      (afterOpening bracket stack rest).2.1 (afterOpening bracket stack rest).2.2 := by
  rw [pass]
  split
  · simp_all
  · rename_i c tail hb'
    obtain ⟨rfl, rfl⟩ := List.cons.inj (hb.symm.trans hb')
    cases bracket <;> rfl

/-- What is wanted after a value depends on what follows the blanks. -/
theorem pass_afterValue (bracket : Bracket) (stack : List Bracket) (cs : List Char) :
    pass .afterValue (bracket :: stack) cs
      = match skipBlanks cs with
        | [] => .error .truncated
        | c :: rest =>
          if c = ',' then pass bracket.first (bracket :: stack) rest
          else if c = bracket.close then pass .afterValue stack rest
          else .error .malformed := by
  rw [pass]
  split <;> rename_i hb <;> rw [hb]

/-- After a comma the next part of the bracket is wanted. -/
theorem pass_afterValue_of_comma (hb : skipBlanks cs = ',' :: rest) :
    pass .afterValue (bracket :: stack) cs = pass bracket.first (bracket :: stack) rest := by
  rw [pass_afterValue, hb]
  exact if_pos rfl

/-- At its closing character the bracket is left. -/
theorem pass_afterValue_of_close (hb : skipBlanks cs = bracket.close :: rest) :
    pass .afterValue (bracket :: stack) cs = pass .afterValue stack rest := by
  rw [pass_afterValue, hb]
  exact (if_neg (by cases bracket <;> decide)).trans (if_pos rfl)

/-- Blanks after a value do not matter. -/
theorem pass_afterValue_blank_append {blanks : List Char} (h : IsBlank blanks) :
    pass .afterValue (bracket :: stack) (blanks ++ cs) = pass .afterValue (bracket :: stack) cs := by
  rw [pass_afterValue, pass_afterValue, skipBlanks_append h]

/-- After the name of a member its value is wanted. -/
theorem pass_name_of_passName (h : passName cs = .ok rest) :
    pass .name stack cs = pass .value stack rest := by
  conv_lhs => rw [pass]
  split <;> simp_all

/-! ### Passing over a value -/

/-- The reader goes to the end of the value. -/
def Passes (value : List Char) : Prop :=
  ∀ (stack : List Bracket) (cs rest : List Char), skipBlanks cs = value ++ rest → Ends rest →
    pass .value stack cs = pass .afterValue stack rest

/-- A part of a list or an object is not the end of it, and the reader goes from where it may start
to where a comma or the end is wanted. -/
structure Part (bracket : Bracket) (part : List Char) : Prop where
  starts : ∃ c tail, skipBlanks part = c :: tail ∧ c ≠ bracket.close
  passes (stack : List Bracket) {lead rest : List Char} (hlead : IsBlank lead) (hr : Ends rest) :
    pass bracket.first (bracket :: stack) (lead ++ (part ++ rest))
      = pass .afterValue (bracket :: stack) rest

/-- A closing bracket ends a number. -/
theorem ends_close (bracket : Bracket) (rest : List Char) : Ends (bracket.close :: rest) := by
  cases bracket <;> exact ends_cons (by decide)

/-- A closing bracket is no blank. -/
theorem not_blank_close (bracket : Bracket) : bracket.close ∉ [' ', '\n', '\t', '\r'] := by
  cases bracket <;> decide

/-- Parts with commas between them are passed over to the end of the bracket. -/
theorem pass_separated {p : List Char} {ps : List (List Char)}
    (h : ∀ q ∈ p :: ps, Part bracket q) (stack : List Bracket) {lead : List Char}
    (hlead : IsBlank lead) (rest : List Char) :
    pass bracket.first (bracket :: stack)
        (lead ++ (separated [','] (p :: ps) ++ bracket.close :: rest))
      = pass .afterValue stack rest := by
  rw [separated_cons, List.append_assoc]
  induction ps generalizing p lead with
  | nil =>
    rw [List.flatMap_nil, List.nil_append,
      (h p List.mem_cons_self).passes stack hlead (ends_close bracket rest)]
    exact pass_afterValue_of_close (skipBlanks_of_not_blank (not_blank_close bracket) rest)
  | cons q qs ih =>
    obtain ⟨hp, hqs⟩ := List.forall_mem_cons.1 h
    rw [List.flatMap_cons, List.append_assoc, List.append_assoc, List.singleton_append,
      hp.passes stack hlead (ends_cons (by decide)),
      pass_afterValue_of_comma (skipBlanks_of_not_blank (by decide) _)]
    exact ih hqs isBlank_nil

/-- A bracket that ends at once. -/
theorem afterOpening_close {lead : List Char} (hlead : IsBlank lead) (stack : List Bracket)
    (rest : List Char) :
    afterOpening bracket stack (lead ++ bracket.close :: rest) = (.afterValue, stack, rest) := by
  simp only [afterOpening, skipBlanks_append hlead,
    skipBlanks_of_not_blank (not_blank_close bracket), if_true]

/-- A bracket in which a part starts. -/
theorem Part.afterOpening {p : List Char} (h : Part bracket p) {lead : List Char}
    (hlead : IsBlank lead) (stack : List Bracket) (rest : List Char) :
    Json.afterOpening bracket stack (lead ++ (p ++ rest))
      = (bracket.first, bracket :: stack, lead ++ (p ++ rest)) := by
  obtain ⟨c, tail, hstart, hc⟩ := h.starts
  simp only [Json.afterOpening, skipBlanks_append hlead, skipBlanks_append_of_eq_cons hstart,
    if_neg hc]

/-- A list or an object is passed over if each of its parts is. -/
theorem passes_bracket (bracket : Bracket) {parts : List (List Char)}
    (h : ∀ p ∈ parts, Part bracket p) {lead : List Char} (hlead : IsBlank lead) :
    Passes (bracket.opening :: (commaSeparated lead parts ++ [bracket.close])) := by
  intro stack cs rest hcs _
  have htext : bracket.opening :: (commaSeparated lead parts ++ [bracket.close]) ++ rest
      = bracket.opening :: (lead ++ (separated [','] parts ++ bracket.close :: rest)) := by
    simp [commaSeparated]
  rw [htext] at hcs
  rw [pass_value_of_opening hcs]
  cases parts with
  | nil => rw [separated, List.nil_append, afterOpening_close hlead]
  | cons p ps =>
    have hopen := (h p List.mem_cons_self).afterOpening hlead stack
      (ps.flatMap ([','] ++ ·) ++ bracket.close :: rest)
    rw [← List.append_assoc p, ← separated_cons] at hopen
    rw [hopen]
    exact pass_separated h stack hlead rest

/-- What is left of an item after the blanks before it. -/
theorem Item.skipBlanks_append {i : Item} (hpad : i.Padded) (hvalue : IsValue i.value)
    (rest : List Char) : skipBlanks (i.written ++ rest) = i.value ++ (i.after ++ rest) := by
  rw [written, List.append_assoc, List.append_assoc, Json.skipBlanks_append hpad.before,
    hvalue.skipBlanks_append]

/-- An item inside a bracket. -/
theorem Item.pass {i : Item} (hpad : i.Padded) (hvalue : IsValue i.value) (h : Passes i.value)
    (stack : List Bracket) {lead : List Char} (hlead : IsBlank lead) (hr : Ends rest) :
    Json.pass .value (bracket :: stack) (lead ++ (i.written ++ rest))
      = Json.pass .afterValue (bracket :: stack) rest := by
  have hskip : skipBlanks (lead ++ (i.written ++ rest)) = i.value ++ (i.after ++ rest) := by
    rw [Json.skipBlanks_append hlead, skipBlanks_append hpad hvalue]
  rw [h _ _ _ hskip (hr.blank_append hpad.after), pass_afterValue_blank_append hpad.after]

/-- An item with a value that is passed over is a part of a list. -/
theorem Item.part {i : Item} (hpad : i.Padded) (hvalue : IsValue i.value) (h : Passes i.value) :
    Part .list i.written where
  starts := by
    obtain ⟨c, tail, hstart, hc⟩ := hvalue.exists_start
    have hskip := skipBlanks_append hpad hvalue []
    rw [List.append_nil, List.append_nil, hstart] at hskip
    exact ⟨c, tail ++ i.after, hskip, fun heq => hc.not_mem (heq ▸ by decide)⟩
  passes stack _ _ hlead hr := i.pass hpad hvalue h stack hlead hr

/-- Blanks may stand between a name and its colon. -/
theorem expectColon_append {blanks : List Char} (h : IsBlank blanks) (rest : List Char) :
    expectColon (blanks ++ ':' :: rest) = .ok rest := by
  rw [expectColon, skipBlanks_append h, skipBlanks_of_not_blank (by decide)]
  exact if_pos rfl

/-- What is left of a member after the blanks before it. -/
theorem Member.skipBlanks_append {m : Member} (hpad : m.Padded) (rest : List Char) :
    skipBlanks (m.written ++ rest)
      = '"' :: (m.name ++ '"' :: (m.afterName ++ ':' :: (m.item.written ++ rest))) := by
  rw [written, List.append_assoc, Json.skipBlanks_append hpad.beforeName, List.cons_append,
    skipBlanks_of_not_blank (by decide)]
  simp only [List.append_assoc, List.cons_append]

/-- A member with a value that is passed over is a part of an object. -/
theorem Member.part {m : Member} (hpad : m.Padded) (hname : Loose m.name)
    (hvalue : IsValue m.item.value) (h : Passes m.item.value) : Part .object m.written where
  starts := by
    have hskip := skipBlanks_append hpad []
    rw [List.append_nil] at hskip
    exact ⟨'"', _, hskip, by decide⟩
  passes stack lead rest hlead hr := by
    have hpass : passName (lead ++ (m.written ++ rest)) = .ok (m.item.written ++ rest) := by
      rw [passName, Json.skipBlanks_append hlead, skipBlanks_append hpad]
      dsimp only
      rw [if_pos rfl, passString_of_loose hname]
      exact expectColon_append hpad.afterName _
    exact (pass_name_of_passName hpass).trans
      (m.item.pass hpad.toPadded hvalue h stack isBlank_nil hr)

/-! ### Every value -/

/-- It is enough for a value without brackets that it is passed over at one go. -/
theorem passes_of_passScalar {c : Char} {tail : List Char} (hc : ¬ OpensBracket c)
    (h : ∀ rest, Ends rest → passScalar (c :: (tail ++ rest)) = .ok rest) :
    Passes (c :: tail) := by
  intro stack cs rest hcs hr
  exact pass_value_of_passScalar hcs hc (h rest hr)

/-- What starts with a digit is passed over as a number without a sign. -/
theorem passScalar_of_isDigit {c : Char} (h : c.isDigit) (rest : List Char) :
    passScalar (c :: rest) = passUnsigned (c :: rest) := by
  unfold passScalar
  split <;> simp_all

/-- A number is not taken for a bracket. -/
theorem IsNumber.exists_start {number : List Char} (h : IsNumber number) :
    ∃ c tail, number = c :: tail ∧ ¬ OpensBracket c := by
  cases h with
  | positive h =>
    obtain ⟨c, tail, rfl, hc⟩ := h.exists_digit
    refine ⟨c, tail, rfl, ?_⟩
    rintro (rfl | rfl) <;> cases hc
  | negative _ => exact ⟨_, _, rfl, by unfold OpensBracket; decide⟩

/-- A number is passed over, with its sign or without one. -/
theorem passScalar_append {number : List Char} (h : IsNumber number) (hr : Ends rest) :
    passScalar (number ++ rest) = .ok rest := by
  cases h with
  | positive h =>
    have hpass := passUnsigned_append h hr
    obtain ⟨c, tail, rfl, hc⟩ := h.exists_digit
    rw [List.cons_append] at hpass ⊢
    rw [passScalar_of_isDigit hc, hpass]
  | negative h => exact passUnsigned_append h hr

/-- **The reader that passes over a value goes to its end.** -/
theorem pass_of_isValue {value : List Char} (h : IsValue value) : Passes value := by
  induction h with
  | word h =>
    simp only [List.mem_cons, List.not_mem_nil, or_false] at h
    rcases h with rfl | rfl | rfl <;>
      exact passes_of_passScalar (by unfold OpensBracket; decide) fun rest _ => rfl
  | @number cs h =>
    obtain ⟨c, tail, rfl, hc⟩ := h.exists_start
    exact passes_of_passScalar hc fun rest hr => passScalar_append h hr
  | string h =>
    refine passes_of_passScalar (by unfold OpensBracket; decide) fun rest _ => ?_
    rw [List.append_assoc]
    exact passString_of_loose h rest
  | list hlead hpadded hvalue ih =>
    refine passes_bracket .list (fun p hp => ?_) hlead
    obtain ⟨i, hi, rfl⟩ := List.mem_map.1 hp
    exact i.part (hpadded i hi) (hvalue i hi) (ih i hi)
  | object hlead hpadded hname hvalue ih =>
    refine passes_bracket .object (fun p hp => ?_) hlead
    obtain ⟨m, hm, rfl⟩ := List.mem_map.1 hp
    exact m.part (hpadded m hm) (hname m hm) (hvalue m hm) (ih m hm)

/-- A value at the start of a text is passed over. -/
theorem passValue_of_isValue {value : List Char} (h : IsValue value)
    (hcs : skipBlanks cs = value ++ rest) (hr : Ends rest) : passValue cs = .ok rest := by
  rw [passValue, pass_of_isValue h [] cs rest hcs hr, pass]

end Json
end StarkWire
