/-
# Passing over a value

A value that nobody wants is passed over whatever it is.  Its strings and numbers are checked for
their form only, and it may be nested to any depth: the brackets that are still open are kept in a
list, the innermost first.

Inside a number, the end of the text counts as a character that does not belong there.
-/

import StarkWire.Json.Text

namespace StarkWire
namespace Json

/-- At least one digit, and what follows all of them. -/
def passDigits (cs : List Char) : Except ReadError (List Char) :=
  match cs with
  | c :: rest => if c.isDigit then .ok (rest.dropWhile Char.isDigit) else .error .malformed
  | [] => .error .malformed

/-- An optional exponent. -/
def passExponent (cs : List Char) : Except ReadError (List Char) :=
  match cs with
  | c :: rest =>
    if c = 'e' ∨ c = 'E' then
      match rest with
      | sign :: digits => passDigits (if sign = '+' ∨ sign = '-' then digits else rest)
      | [] => .error .malformed
    else .ok cs
  | [] => .ok cs

/-- An optional fraction, then an optional exponent. -/
def passFraction (cs : List Char) : Except ReadError (List Char) :=
  match cs with
  | '.' :: rest => passDigits rest >>= passExponent
  | _ => passExponent cs

/-- A number without its sign. -/
def passUnsigned (cs : List Char) : Except ReadError (List Char) :=
  match cs with
  | '0' :: c :: rest => if c.isDigit then .error .malformed else passFraction (c :: rest)
  | _ => passDigits cs >>= passFraction

/-- A value that is no list and no object. -/
def passScalar (cs : List Char) : Except ReadError (List Char) :=
  match cs with
  | 'n' :: rest => expectWord ['u', 'l', 'l'] rest
  | 't' :: rest => expectWord ['r', 'u', 'e'] rest
  | 'f' :: rest => expectWord ['a', 'l', 's', 'e'] rest
  | '"' :: rest => passString rest
  | '-' :: rest => passUnsigned rest
  | c :: _ => if c.isDigit then passUnsigned cs else .error .malformed
  | [] => .error .truncated

/-- To pass digits makes a text shorter: there is one at least. -/
theorem length_passDigits_lt {cs rest : List Char} (h : passDigits cs = .ok rest) :
    rest.length < cs.length := by
  unfold passDigits at h
  split at h
  · split at h
    · cases h
      exact Nat.lt_succ_of_le (List.dropWhile_sublist _).length_le
    · cases h
  · cases h

/-- To pass an exponent makes a text no longer; there may be none. -/
theorem length_passExponent_le {cs rest : List Char} (h : passExponent cs = .ok rest) :
    rest.length ≤ cs.length := by
  unfold passExponent at h
  split at h
  · split at h
    · split at h
      · have := length_passDigits_lt h
        split at this <;> simp at this ⊢ <;> omega
      · cases h
    · cases h; exact Nat.le_refl _
  · cases h; exact Nat.le_refl _

/-- To pass a fraction makes a text no longer; there may be none. -/
theorem length_passFraction_le {cs rest : List Char} (h : passFraction cs = .ok rest) :
    rest.length ≤ cs.length := by
  unfold passFraction at h
  split at h
  · obtain ⟨after, hd, he⟩ := bind_eq_ok_iff.1 h
    have := length_passDigits_lt hd
    have := length_passExponent_le he
    simp only [List.length_cons]
    omega
  · exact length_passExponent_le h

/-- To pass a number without a sign makes a text shorter. -/
theorem length_passUnsigned_lt {cs rest : List Char} (h : passUnsigned cs = .ok rest) :
    rest.length < cs.length := by
  unfold passUnsigned at h
  split at h
  · split at h
    · cases h
    · exact Nat.lt_succ_of_le (length_passFraction_le h)
  · obtain ⟨after, hd, hf⟩ := bind_eq_ok_iff.1 h
    have := length_passDigits_lt hd
    have := length_passFraction_le hf
    omega

/-- To pass a value that is no list and no object makes a text shorter. -/
theorem length_passScalar_lt {cs rest : List Char} (h : passScalar cs = .ok rest) :
    rest.length < cs.length := by
  unfold passScalar at h
  split at h
  · exact Nat.lt_succ_of_le (length_expectWord_le h)
  · exact Nat.lt_succ_of_le (length_expectWord_le h)
  · exact Nat.lt_succ_of_le (length_expectWord_le h)
  · exact Nat.lt_succ_of_lt (length_passString_lt h)
  · exact Nat.lt_succ_of_lt (length_passUnsigned_lt h)
  · split at h
    · exact length_passUnsigned_lt h
    · cases h
  · cases h

/-- A bracket that is open. -/
inductive Bracket where
  | list
  | object
deriving DecidableEq

/-- The character that closes a bracket. -/
def Bracket.close : Bracket → Char
  | list => ']'
  | object => '\x7d'

/-- What is expected next. -/
inductive Expected where
  /-- A value. -/
  | value
  /-- What follows a value. -/
  | afterValue
  /-- The name of a member. -/
  | name
deriving DecidableEq

/-- What comes first inside a bracket. -/
def Bracket.first : Bracket → Expected
  | list => .value
  | object => .name

/-- What follows a member's name and the colon after it. -/
def passName (cs : List Char) : Except ReadError (List Char) :=
  match skipBlanks cs with
  | [] => .error .truncated
  | c :: rest => if c = '"' then passString rest >>= expectColon else .error .malformed

/-- To pass a name and its colon makes a text shorter. -/
theorem length_passName_lt {cs rest : List Char} (h : passName cs = .ok rest) :
    rest.length < cs.length := by
  unfold passName at h
  split at h
  · cases h
  · rename_i hb
    split at h
    · obtain ⟨after, hs, hc⟩ := bind_eq_ok_iff.1 h
      have := length_skipBlanks_cons hb
      have := length_passString_lt hs
      have := length_expectColon_lt hc
      omega
    · cases h

/-- What is left after the opening of a bracket: a list or an object may end at once. -/
def afterOpening (bracket : Bracket) (stack : List Bracket) (cs : List Char) :
    Expected × List Bracket × List Char :=
  match skipBlanks cs with
  | c :: rest =>
    if c = bracket.close then (.afterValue, stack, rest) else (bracket.first, bracket :: stack, cs)
  | [] => (bracket.first, bracket :: stack, cs)

/-- What follows an opening bracket is no longer than the text that it stands in. -/
theorem length_afterOpening_le (bracket : Bracket) (stack : List Bracket) (cs : List Char) :
    (afterOpening bracket stack cs).2.2.length ≤ cs.length := by
  have hb := length_skipBlanks_le cs
  unfold afterOpening
  split
  · rename_i heq
    rw [heq] at hb
    split
    · exact Nat.le_of_succ_le hb
    · exact Nat.le_refl _
  · exact Nat.le_refl _

/-- What follows the value, or the rest of it, that is inside the brackets of the stack. -/
def pass (expected : Expected) (stack : List Bracket) (cs : List Char) :
    Except ReadError (List Char) :=
  match expected with
  | .value =>
    match _hb : skipBlanks cs with
    | [] => .error .truncated
    | c :: rest =>
      if c = '[' ∨ c = '\x7b' then
        let bracket : Bracket := if c = '[' then .list else .object
        let next := afterOpening bracket stack rest
        pass next.1 next.2.1 next.2.2
      else
        match _hs : passScalar (c :: rest) with
        | .error e => .error e
        | .ok rest => pass .afterValue stack rest
  | .afterValue =>
    match stack with
    | [] => .ok cs
    | bracket :: below =>
      match _hb : skipBlanks cs with
      | [] => .error .truncated
      | c :: rest =>
        if c = ',' then pass bracket.first (bracket :: below) rest
        else if c = bracket.close then pass .afterValue below rest
        else .error .malformed
  | .name =>
    match _hn : passName cs with
    | .error e => .error e
    | .ok rest => pass .value stack rest
termination_by cs.length
decreasing_by
  · exact Nat.lt_of_le_of_lt (length_afterOpening_le _ _ _) (length_skipBlanks_cons _hb)
  · have hb := length_skipBlanks_cons _hb
    have := length_passScalar_lt _hs
    simp only [List.length_cons] at this
    omega
  · exact length_skipBlanks_cons _hb
  · exact length_skipBlanks_cons _hb
  · exact length_passName_lt _hn

/-- To pass values and brackets makes a text no longer. -/
theorem length_pass_le {expected : Expected} {stack : List Bracket} {cs rest : List Char}
    (h : pass expected stack cs = .ok rest) : rest.length ≤ cs.length := by
  fun_induction pass expected stack cs with
  | case1 => cases h
  | case2 stack cs c tail hb _ bracket next ih =>
    have := length_skipBlanks_cons hb
    have : next.2.2.length ≤ tail.length := length_afterOpening_le _ _ _
    have := ih h
    omega
  | case3 => cases h
  | case4 stack cs c tail hb _ after hs ih =>
    have := length_skipBlanks_cons hb
    have := length_passScalar_lt hs
    have := ih h
    simp only [List.length_cons] at *
    omega
  | case5 => cases h; exact Nat.le_refl _
  | case6 => cases h
  | case7 cs bracket below tail hb ih =>
    have := length_skipBlanks_cons hb
    have := ih h
    omega
  | case8 cs bracket below tail hb _ ih =>
    have := length_skipBlanks_cons hb
    have := ih h
    omega
  | case9 => cases h
  | case10 => cases h
  | case11 stack cs after hn ih =>
    have := length_passName_lt hn
    have := ih h
    omega

/-- What follows the value that a text starts with. -/
def passValue (cs : List Char) : Except ReadError (List Char) := pass .value [] cs

end Json
end StarkWire
