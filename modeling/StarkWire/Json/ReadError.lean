/-
# Why a JSON text is not read

Reading goes from left to right and stops at the first problem.  Either the text is not JSON up to
there, or it ends too early, or a value is not of the wanted kind.
-/

namespace StarkWire
namespace Json

/-- The first problem in a text. -/
inductive ReadError where
  /-- No JSON text goes on like this. -/
  | malformed
  /-- The text ends inside a value. -/
  | truncated
  /-- A value that is not what is wanted. -/
  | mismatch (message : String)
deriving DecidableEq

/-- The text without the blanks that it starts with. -/
def skipBlanks : List Char → List Char
  | [] => []
  | c :: rest =>
    if c = ' ' ∨ c = '\n' ∨ c = '\t' ∨ c = '\r' then skipBlanks rest else c :: rest

/-- To skip blanks makes a text no longer. -/
theorem length_skipBlanks_le (cs : List Char) : (skipBlanks cs).length ≤ cs.length := by
  induction cs with
  | nil => exact Nat.le_refl _
  | cons c rest ih =>
    simp only [skipBlanks]
    split
    · exact Nat.le_succ_of_le ih
    · exact Nat.le_refl _

/-- To take the first character that is no blank makes a text shorter. -/
theorem length_skipBlanks_cons {cs rest : List Char} {c : Char} (h : skipBlanks cs = c :: rest) :
    rest.length < cs.length := by
  have := length_skipBlanks_le cs
  rw [h] at this
  exact this

/-- The text after a word that must come next. -/
def expectWord : (word : List Char) → List Char → Except ReadError (List Char)
  | [], cs => .ok cs
  | _ :: _, [] => .error .truncated
  | w :: word, c :: cs => if c = w then expectWord word cs else .error .malformed

/-- To take a word makes a text no longer. -/
theorem length_expectWord_le {word cs rest : List Char} (h : expectWord word cs = .ok rest) :
    rest.length ≤ cs.length := by
  induction word generalizing cs with
  | nil => cases h; exact Nat.le_refl _
  | cons w word ih =>
    cases cs with
    | nil => cases h
    | cons c cs =>
      simp only [expectWord] at h
      split at h
      · exact Nat.le_succ_of_le (ih h)
      · cases h

/-- What follows a colon that must come next. -/
def expectColon (cs : List Char) : Except ReadError (List Char) :=
  match skipBlanks cs with
  | [] => .error .truncated
  | c :: rest => if c = ':' then .ok rest else .error .malformed

/-- To take a colon makes a text shorter. -/
theorem length_expectColon_lt {cs rest : List Char} (h : expectColon cs = .ok rest) :
    rest.length < cs.length := by
  unfold expectColon at h
  split at h
  · cases h
  · rename_i hb
    split at h
    · cases h
      exact length_skipBlanks_cons hb
    · cases h

/-- Two steps of reading succeed if the first does and the second does on what it gave. -/
theorem bind_eq_ok_iff {α β : Type} {x : Except ReadError α} {f : α → Except ReadError β} {b : β} :
    (x >>= f) = .ok b ↔ ∃ a, x = .ok a ∧ f a = .ok b := by
  cases x <;> simp [bind, Except.bind]

/-- A changed value was read if the value was. -/
theorem map_eq_ok_iff {α β : Type} {x : Except ReadError α} {f : α → β} {b : β} :
    x.map f = .ok b ↔ ∃ a, x = .ok a ∧ f a = b := by
  cases x <;> simp [Except.map]

end Json
end StarkWire
