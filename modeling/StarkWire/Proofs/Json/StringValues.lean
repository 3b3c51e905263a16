/-
# The string values of a document

The strings in a JSON text are its names and its string values, and a name is told by the colon
after it.  So the values can be collected in one pass that knows nothing of lists and objects
(`stringValues`), and from a written document the pass collects the texts in it, in their order
(`stringValues_write_append`).

What follows a value in a document is a comma, a closing bracket, a blank or the end, and never a
colon (`Unnamed`).  A piece of a document adds its texts in front of whatever is collected from
there on (`Contributes`).  Whether a list or an object stands in its compact form or its pretty
one, its pieces are between blanks and commas (`exists_enclosed_eq`), which add nothing.
-/

import StarkWire.Proofs.Json.Values

namespace StarkWire
namespace Json

/-! ### Collecting -/

/-- The string values in a text, in order. -/
def stringValues : List Char → List (List Char)
  | [] => []
  | c :: cs =>
    if c = '"' then
      match _h : readString cs with
      | .error _ => []
      | .ok (text, rest) =>
        if (skipBlanks rest).head? = some ':' then stringValues rest
        else text :: stringValues rest
    else stringValues cs
termination_by cs => cs.length
decreasing_by
  all_goals simp only [List.length_cons]
  · exact Nat.lt_succ_of_lt (length_readString_lt _h)
  · exact Nat.lt_succ_of_lt (length_readString_lt _h)
  · exact Nat.lt_succ_self _

/-- What comes before the text is no name. -/
def Unnamed (rest : List Char) : Prop := (skipBlanks rest).head? ≠ some ':'

variable {cs rest : List Char}

/-- What is no string is passed over. -/
theorem stringValues_append (h : '"' ∉ cs) (rest : List Char) :
    stringValues (cs ++ rest) = stringValues rest := by
  induction cs with
  | nil => rfl
  | cons c cs ih =>
    obtain ⟨hc, hcs⟩ := not_or.1 (mt List.mem_cons.2 h)
    rw [List.cons_append, stringValues, if_neg (Ne.symm hc), ih hcs]

/-- A character outside a string adds nothing. -/
theorem stringValues_cons {c : Char} (h : c ≠ '"') (rest : List Char) :
    stringValues (c :: rest) = stringValues rest := by
  rw [stringValues, if_neg h]

/-- A written string is collected, unless a colon tells that it is a name. -/
theorem stringValues_writeString_append (text rest : List Char) :
    stringValues (writeString text ++ rest)
      = if (skipBlanks rest).head? = some ':' then stringValues rest
        else text :: stringValues rest := by
  have hread : readString (text.flatMap writeChar ++ '"' :: rest) = .ok (text, rest) :=
    readString_of_spells (spells_flatMap_writeChar text) rest
  have hcs : writeString text ++ rest = '"' :: (text.flatMap writeChar ++ '"' :: rest) := by
    simp [writeString]
  rw [hcs, stringValues, if_pos rfl]
  split <;> simp_all

/-- There is no quotation mark among blanks. -/
theorem IsBlank.quote_not_mem (h : IsBlank cs) : '"' ∉ cs := by
  intro hc
  exact absurd (h _ hc) (by decide)

/-- What stands before a comma or a closing bracket is no name. -/
theorem unnamed_cons {c : Char} (h : c ∈ [',', ']', '\x7d']) : Unnamed (c :: rest) := by
  simp only [List.mem_cons, List.not_mem_nil, or_false] at h
  rcases h with rfl | rfl | rfl <;> simp [Unnamed, skipBlanks]

/-- Blanks before the comma do not make it a name. -/
theorem Unnamed.blank_append {blanks : List Char} (h : Unnamed rest) (hb : IsBlank blanks) :
    Unnamed (blanks ++ rest) := by
  rwa [Unnamed, skipBlanks_append hb]

/-! ### Pieces of a document -/

/-- A piece adds these texts in front of what is collected after it. -/
def Contributes (piece : List Char) (texts : List (List Char)) : Prop :=
  ∀ rest, Unnamed rest → stringValues (piece ++ rest) = texts ++ stringValues rest

/-- Each piece adds its part of the texts. -/
inductive ContributeAll : List (List Char) → List (List Char) → Prop
  | nil : ContributeAll [] []
  | cons {piece : List Char} {pieces texts texts' : List (List Char)}
    (head : Contributes piece texts) (tail : ContributeAll pieces texts') :
    ContributeAll (piece :: pieces) (texts ++ texts')

/-- A piece without a quotation mark adds nothing. -/
theorem contributes_nil_of_quote_not_mem (h : '"' ∉ cs) : Contributes cs [] :=
  fun rest _ => stringValues_append h rest

/-- Pieces between which there are commas and blanks. -/
theorem ContributeAll.separated {pieces texts : List (List Char)}
    (h : ContributeAll pieces texts) {lead : List Char} (hlead : IsBlank lead) :
    Contributes (Json.separated (',' :: lead) pieces) texts := by
  intro rest hrest
  induction h with
  | nil => rfl
  | @cons piece pieces texts texts' head tail ih =>
    -- only the last piece is followed by `rest`, the others by a comma
    cases tail with
    | nil => rw [Json.separated, List.append_nil, head rest hrest]
    | cons head' tail' =>
      rw [Json.separated, List.append_assoc, List.append_assoc, List.cons_append,
        head _ (unnamed_cons (by decide)), stringValues_cons (by decide),
        stringValues_append hlead.quote_not_mem, ih, ← List.append_assoc texts]
      exact List.cons_ne_nil _ _

/-- In both forms the pieces stand between blanks and commas. -/
theorem exists_enclosed_eq (opening closing : Char) (indent : Option ℕ)
    (pieces : List (List Char)) :
    ∃ lead last, IsBlank lead ∧ IsBlank last ∧
      enclosed opening closing indent pieces
        = opening :: (lead ++ (separated (',' :: lead) pieces ++ (last ++ [closing]))) := by
  cases pieces with
  | nil => exact ⟨[], [], isBlank_nil, isBlank_nil, by cases indent <;> rfl⟩
  | cons piece pieces =>
    cases indent with
    | none => exact ⟨[], [], isBlank_nil, isBlank_nil, rfl⟩
    | some n =>
      refine ⟨_, _, isBlank_line (n + 2), isBlank_line n, ?_⟩
      simp [enclosed]

/-- Brackets around the pieces add nothing, in the compact form and in the pretty one. -/
theorem ContributeAll.enclosed {pieces texts : List (List Char)}
    (h : ContributeAll pieces texts) {opening closing : Char} (hopening : opening ≠ '"')
    (hclosing : closing ∈ [']', '\x7d']) (indent : Option ℕ) :
    Contributes (Json.enclosed opening closing indent pieces) texts := by
  intro rest _
  obtain ⟨lead, last, hlead, hlast, heq⟩ := exists_enclosed_eq opening closing indent pieces
  have hunnamed : Unnamed (closing :: rest) := unnamed_cons (List.mem_cons_of_mem _ hclosing)
  have hquote : closing ≠ '"' := by
    rintro rfl
    exact absurd hclosing (by decide)
  rw [heq, List.cons_append, List.append_assoc, List.append_assoc, List.append_assoc,
    List.singleton_append, stringValues_cons hopening, stringValues_append hlead.quote_not_mem,
    h.separated hlead _ (hunnamed.blank_append hlast), stringValues_append hlast.quote_not_mem,
    stringValues_cons hquote]

/-- A name and the colon after it add nothing to a value. -/
theorem Contributes.member {value : List Char} {texts : List (List Char)}
    (h : Contributes value texts) (name : List Char) (pretty : Bool) :
    Contributes (writeString name ++ (if pretty then [':', ' '] else [':']) ++ value) texts := by
  intro rest hrest
  have hcolon : ∃ blanks, IsBlank blanks ∧
      (if pretty then [':', ' '] else [':']) = ':' :: blanks := by
    cases pretty with
    | false => exact ⟨[], isBlank_nil, rfl⟩
    | true => exact ⟨[' '], by simp [IsBlank], rfl⟩
  obtain ⟨blanks, hblanks, heq⟩ := hcolon
  have hnamed : (skipBlanks (':' :: (blanks ++ (value ++ rest)))).head? = some ':' := by
    rw [skipBlanks_of_not_blank (by decide)]
    rfl
  rw [heq, List.append_assoc, List.append_assoc, List.cons_append,
    stringValues_writeString_append, if_pos hnamed, stringValues_cons (by decide),
    stringValues_append hblanks.quote_not_mem, h rest hrest]

/-! ### Documents -/

namespace Document

mutual

/-- The texts that are values in a document, in order. -/
def texts : Document → List (List Char)
  | text value => [value.toList]
  | number _ => []
  | flag _ => []
  | list items => itemTexts items
  | object members => memberTexts members

/-- The texts in the items of a list. -/
def itemTexts : List Document → List (List Char)
  | [] => []
  | item :: rest => item.texts ++ itemTexts rest

/-- The texts in the members of an object, without their names. -/
def memberTexts : List (String × Document) → List (List Char)
  | [] => []
  | (_, value) :: rest => value.texts ++ memberTexts rest

end

/-- The texts in a list are those in its items, one item after the other. -/
theorem itemTexts_eq_flatMap (items : List Document) : itemTexts items = items.flatMap texts := by
  induction items with
  | nil => rfl
  | cons item rest ih => rw [itemTexts, ih, List.flatMap_cons]

/-- The texts in an object are those in its values. -/
theorem memberTexts_eq_flatMap (members : List (String × Document)) :
    memberTexts members = members.flatMap fun member => member.2.texts := by
  induction members with
  | nil => rfl
  | cons member rest ih => rw [memberTexts, ih, List.flatMap_cons]

/-- A written number has no quotation mark. -/
theorem quote_not_mem_number (n : ℕ) : '"' ∉ (toString n).toList := by
  intro h
  rw [Nat.toString_eq_repr, Nat.toList_repr] at h
  exact absurd (Nat.isDigit_of_mem_toDigits (by decide) (by decide) h) (by decide)

/-- Neither has a written flag. -/
theorem quote_not_mem_flag (b : Bool) : '"' ∉ (toString b).toList := by
  revert b
  decide

mutual

/-- A written document adds the texts in it. -/
theorem contributes_write (indent : Option ℕ) : ∀ d : Document, Contributes (d.write indent) d.texts
  | text value => by
    intro rest hrest
    rw [write, texts, stringValues_writeString_append, if_neg hrest]
    rfl
  | number n => contributes_nil_of_quote_not_mem (quote_not_mem_number n)
  | flag value => contributes_nil_of_quote_not_mem (quote_not_mem_flag value)
  | list items => (contributeAll_writeItems _ items).enclosed (by decide) (by decide) indent
  | object members => (contributeAll_writeMembers _ members).enclosed (by decide) (by decide) indent

/-- Each written item adds the texts in it. -/
theorem contributeAll_writeItems (indent : Option ℕ) :
    ∀ items, ContributeAll (writeItems indent items) (itemTexts items)
  | [] => .nil
  | item :: rest => .cons (contributes_write indent item) (contributeAll_writeItems indent rest)

/-- Each written member adds the texts in its value. -/
theorem contributeAll_writeMembers (indent : Option ℕ) :
    ∀ members, ContributeAll (writeMembers indent members) (memberTexts members)
  | [] => .nil
  | (name, value) :: rest =>
    .cons ((contributes_write indent value).member name.toList indent.isSome)
      (contributeAll_writeMembers indent rest)

end

/-- **From a written document its texts are collected.** -/
theorem stringValues_pretty (d : Document) : stringValues d.pretty.toList = d.texts := by
  have hend : Unnamed [] := by simp [Unnamed, skipBlanks]
  have h := contributes_write (some 0) d [] hend
  rw [stringValues, List.append_nil, List.append_nil] at h
  rwa [pretty, String.toList_ofList]

/-- A name is no value, and a text may look like one. -/
example : stringValues (object [("a", text "\"b\": 1"), ("c", number 2)]).pretty.toList
    = ["\"b\": 1".toList] := by cbv

end Document
end Json
end StarkWire
