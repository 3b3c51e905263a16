/-
# Elements and signatures as JSON

What is written for an element or a signature is read back.  A text is read as an element just when
it is a string, among blanks, whose text is read as hex; in particular no other value is one
(`parseElement_eq_ok_iff`).

An object is read as a signature if it bears an element for `r` and one for `w`, in whatever order
and among whatever other members, and so is a list of two elements.  The first problem decides: a
second `r` or `w` wherever all before it is valid, and at the end of an object a missing `r`, or
else a missing `w`.  In both cases nothing that follows matters (`element_and_signature_forms`).
-/

import StarkWire.Proofs.Json.Object

namespace StarkWire
namespace Json

variable {before after lead rest : List Char}

/-! ### A whole text -/

/-- Only blanks may follow a document. -/
theorem expectEnd_eq_ok_iff (cs : List Char) : expectEnd cs = .ok () ↔ IsBlank cs := by
  constructor
  · intro h
    obtain ⟨blanks, hb, hcs⟩ := exists_blank_append cs
    unfold expectEnd at h
    split at h
    · rename_i hskip
      rw [hcs, hskip, List.append_nil]
      exact hb
    · cases h
  · intro h
    have hskip := skipBlanks_append h []
    rw [List.append_nil] at hskip
    rw [expectEnd, hskip]
    rfl

/-- A whole text is read if a value is read and only blanks are left. -/
theorem readAll_eq_ok_iff {α : Type} {read : List Char → Except ReadError (α × List Char)}
    {cs : List Char} {a : α} :
    readAll read (String.ofList cs) = .ok a ↔ ∃ rest, read cs = .ok (a, rest) ∧ IsBlank rest := by
  rw [readAll, String.toList_ofList, bind_eq_ok_iff]
  constructor
  · rintro ⟨⟨b, rest⟩, hread, h⟩
    obtain ⟨⟨⟩, hend, hb⟩ := bind_eq_ok_iff.1 h
    obtain rfl := Except.ok.inj hb
    exact ⟨rest, hread, (expectEnd_eq_ok_iff rest).1 hend⟩
  · rintro ⟨rest, hread, hb⟩
    exact ⟨_, hread, bind_eq_ok_iff.2 ⟨(), (expectEnd_eq_ok_iff rest).2 hb, rfl⟩⟩

/-- A problem with the value is one with the text. -/
theorem readAll_eq_error {α : Type} {read : List Char → Except ReadError (α × List Char)}
    {cs : List Char} {e : ReadError} (h : read cs = .error e) :
    readAll read (String.ofList cs) = .error e := by
  rw [readAll, String.toList_ofList, h]
  rfl

/-! ### Elements -/

/-- **What is read as an element.** -/
theorem parseElement_eq_ok_iff (text : String) (a : U256) :
    parseElement text = .ok a
      ↔ ∃ i : Item, i.Padded ∧ IsElement i.value a ∧ text = String.ofList i.written := by
  constructor
  · intro h
    rw [← String.ofList_toList (s := text)] at h ⊢
    obtain ⟨rest, hread, hrest⟩ := readAll_eq_ok_iff.1 h
    obtain ⟨blanks, value, hb, helement, htext⟩ := exists_isElement_of_readElement hread
    exact ⟨⟨blanks, value, rest⟩, ⟨hb, hrest⟩, helement, congrArg String.ofList htext⟩
  · rintro ⟨i, hpad, helement, rfl⟩
    refine readAll_eq_ok_iff.2 ⟨i.after, ?_, hpad.after⟩
    have hskip := i.skipBlanks_append hpad helement.isValue []
    rw [List.append_nil, List.append_nil] at hskip
    exact readElement_of_isElement helement hskip

/-- An item that holds an element starts with a quote, and the element is read from there. -/
theorem Item.exists_quote {i : Item} {a : U256} (hpad : i.Padded) (h : IsElement i.value a)
    (rest : List Char) :
    ∃ tail, skipBlanks (i.written ++ rest) = '"' :: tail ∧
      readElement ('"' :: tail) = .ok (a, i.after ++ rest) := by
  have hskip := i.skipBlanks_append hpad h.isValue rest
  have hread := readElement_of_isElement h (h.isValue.skipBlanks_append (i.after ++ rest))
  obtain ⟨written, text, -, -, hvalue⟩ := h
  rw [hvalue] at hskip hread
  exact ⟨_, hskip, hread⟩

/-- Any other value is not read as an element. -/
theorem parseElement_eq_error {i : Item} (hpad : i.Padded) (hvalue : IsValue i.value)
    (hnot : i.value.head? ≠ some '"') : ∃ e, parseElement (String.ofList i.written) = .error e := by
  rcases h : parseElement (String.ofList i.written) with e | a
  · exact ⟨e, rfl⟩
  obtain ⟨j, hpad', helement, htext⟩ := (parseElement_eq_ok_iff _ a).1 h
  obtain ⟨tail, hquote, -⟩ := Item.exists_quote hpad' helement []
  have hskip := i.skipBlanks_append hpad hvalue []
  rw [List.append_nil] at hquote hskip
  rw [String.ofList_inj.1 htext, hquote] at hskip
  obtain ⟨c, tail', hstart, -⟩ := hvalue.exists_start
  rw [hstart] at hskip hnot
  exact absurd (congrArg some (List.cons.inj hskip).1.symm) hnot

/-- What is written for an element spells its hex text. -/
theorem isElement_writeString (a : U256) : IsElement (writeString a.toHex.toList) a :=
  ⟨_, _, spells_flatMap_writeChar _, by rw [String.ofList_toList, U256.ofHex_toHex], rfl⟩

/-! ### Objects -/

/-- The start of an object, up to the end of some entries. -/
def objectStart (before lead : List Char) (es : List Entry) : List Char :=
  before ++ '\x7b' :: commaSeparated lead (es.map fun e => e.written)

/-- A brace after the blanks opens an object. -/
theorem readSignature_object (hbefore : IsBlank before) (cs : List Char) :
    readSignature (before ++ '\x7b' :: cs) = readObject cs := by
  rw [readSignature, skipBlanks_append hbefore, skipBlanks_of_not_blank (by decide)]
  exact (if_neg (by decide)).trans (if_pos rfl)

/-- An object that is at its end. -/
theorem readSignature_objectStart {es : List Entry} {x y : Option U256} (hbefore : IsBlank before)
    (hlead : IsBlank lead) (hr : Bears es ['r'] x) (hw : Bears es ['w'] y) (rest : List Char) :
    readSignature (objectStart before lead es ++ '\x7d' :: rest)
      = (Members.signature ⟨x, y⟩).map fun sig => (sig, rest) := by
  rw [objectStart, List.append_assoc, List.cons_append, readSignature_object hbefore,
    readObject_of_reads_close hlead (reads_of_bears hr hw)]

/-- The members that are wanted. -/
def wantedKeys : List (List Char) := [['r'], ['w']]

/-- A second member of a name is noticed before its value. -/
theorem readSignature_duplicate {es : List Entry} {x y : Option U256} {blanks name key : List Char}
    (hbefore : IsBlank before) (hlead : IsBlank lead) (hblanks : IsBlank blanks)
    (hr : Bears es ['r'] x) (hw : Bears es ['w'] y) (hkey : key ∈ wantedKeys)
    (hmem : key ∈ es.map Entry.key) (hname : Spells name key) (rest : List Char) :
    readSignature (objectStart before lead es ++ ',' :: (blanks ++ '"' :: (name ++ '"' :: rest)))
      = .error (duplicate (String.ofList key)) := by
  obtain ⟨e, es, rfl⟩ : ∃ e es', es = e :: es' := by
    cases es with
    | nil => cases hmem
    | cons e es' => exact ⟨e, es', rfl⟩
  rw [objectStart, List.append_assoc, List.cons_append, readSignature_object hbefore,
    readObject_of_reads hlead (reads_of_bears hr hw) (ends_cons (by decide)),
    readMembers_of_comma hblanks]
  suffices h : readMember ⟨x, y⟩ (name ++ '"' :: rest) = .error (duplicate (String.ofList key)) by
    rw [h]
    rfl
  simp only [readMember, readString_of_spells hname, bind, Except.bind]
  simp only [wantedKeys, List.mem_cons, List.not_mem_nil, or_false] at hkey
  rcases hkey with rfl | rfl
  · obtain ⟨a, rfl⟩ := hr.exists_eq_some hmem
    rw [readValue, if_pos rfl]
  · obtain ⟨a, rfl⟩ := hw.exists_eq_some hmem
    rw [readValue, if_neg (by decide), if_pos rfl]

/-! ### Lists -/

variable {i j : Item} {r w : U256}

/-- The first item of a list is read as its element. -/
theorem readFirstItem_of_isElement (hpad : i.Padded) (h : IsElement i.value r)
    (rest : List Char) : readFirstItem (i.written ++ rest) = .ok (r, i.after ++ rest) := by
  obtain ⟨tail, hskip, hread⟩ := Item.exists_quote hpad h rest
  rw [readFirstItem, hskip]
  exact (if_neg (by decide)).trans hread

/-- The second item is read after a comma, and as its element. -/
theorem readSecondItem_of_isElement {blanks : List Char} (hblanks : IsBlank blanks)
    (hpad : i.Padded) (h : IsElement i.value w) (rest : List Char) :
    readSecondItem (blanks ++ ',' :: (i.written ++ rest)) = .ok (w, i.after ++ rest) := by
  obtain ⟨tail, hskip, hread⟩ := Item.exists_quote hpad h rest
  rw [readSecondItem, skipBlanks_append hblanks, skipBlanks_of_not_blank (by decide)]
  dsimp only
  rw [if_neg (by decide), if_pos rfl, hskip]
  exact (if_neg (by decide)).trans hread

/-- A list of two elements is read as a signature. -/
theorem readSignature_list (hbefore : IsBlank before) (hi : i.Padded) (hj : j.Padded)
    (hr : IsElement i.value r) (hw : IsElement j.value w) (rest : List Char) :
    readSignature (before ++ '[' :: (i.written ++ ',' :: (j.written ++ ']' :: rest)))
      = .ok (⟨r, w⟩, rest) := by
  have hclose : closeList (j.after ++ ']' :: rest) = .ok rest := by
    rw [closeList, skipBlanks_append hj.after, skipBlanks_of_not_blank (by decide)]
    exact if_pos rfl
  rw [readSignature, skipBlanks_append hbefore, skipBlanks_of_not_blank (by decide)]
  refine (if_pos rfl).trans ?_
  simp only [readItems, readFirstItem_of_isElement hi hr, readSecondItem_of_isElement hi.after hj hw,
    hclose, bind, Except.bind, pure, Except.pure]

/-! ### What is written -/

/-- A member as it is written for an element, with blanks around. -/
def writtenEntry (key : List Char) (a : U256) (before beforeValue after : List Char)
    (hbefore : IsBlank before) (hvalue : IsBlank beforeValue) (hafter : IsBlank after) : Entry where
  before := before
  name := key.flatMap writeChar
  afterName := []
  item := ⟨beforeValue, writeString a.toHex.toList, after⟩
  key := key
  padded := ⟨⟨hvalue, hafter⟩, hbefore, isBlank_nil⟩
  spells := spells_flatMap_writeChar key
  isValue := (isElement_writeString a).isValue

/-- The start of a line of a pretty form; the compact form has no lines. -/
def lineStart : Option ℕ → List Char
  | none => []
  | some n => '\n' :: List.replicate n ' '

/-- A line of the pretty form starts with blanks. -/
theorem isBlank_lineStart (indent : Option ℕ) : IsBlank (lineStart indent) := by
  cases indent with
  | none => exact isBlank_nil
  | some n => exact isBlank_line n

/-- A single space is blank. -/
theorem isBlank_space : IsBlank [' '] := by
  rw [IsBlank, List.forall_mem_singleton]
  decide

/-- What stands between the colon and the value. -/
def colonSpace : Option ℕ → List Char
  | none => []
  | some _ => [' ']

/-- Between a colon and a value there are blanks or nothing. -/
theorem isBlank_colonSpace (indent : Option ℕ) : IsBlank (colonSpace indent) := by
  cases indent with
  | none => exact isBlank_nil
  | some _ => exact isBlank_space

/-- In every form, a signature is written as an object of two entries. -/
theorem exists_entries_write_signature (s : Signature) (indent : Option ℕ) :
    ∃ (lead : List Char) (e f : Entry), IsBlank lead ∧
      (Document.signature s).write indent = objectStart [] lead [e, f] ++ ['\x7d'] ∧
      (e.key = ['r'] ∧ IsElement e.item.value s.r) ∧
      (f.key = ['w'] ∧ IsElement f.item.value s.w) := by
  have hline := isBlank_lineStart (indent.map (· + 2))
  refine ⟨_,
    writtenEntry ['r'] s.r [] _ [] isBlank_nil (isBlank_colonSpace indent) isBlank_nil,
    writtenEntry ['w'] s.w _ _ _ hline (isBlank_colonSpace indent) (isBlank_lineStart indent),
    hline, ?_, ⟨rfl, isElement_writeString _⟩, ⟨rfl, isElement_writeString _⟩⟩
  cases indent <;>
    simp [Document.signature, Document.signatureMembers, Document.write, Document.writeMembers,
      Document.element, enclosed, objectStart, commaSeparated, separated, writtenEntry,
      Member.written, Item.written, writeString, lineStart, colonSpace]

/-- Two entries, one for each of the wanted keys. -/
theorem bears_pair {e f : Entry} {r w : U256} (he : e.key = ['r'] ∧ IsElement e.item.value r)
    (hf : f.key = ['w'] ∧ IsElement f.item.value w) :
    Bears [e, f] ['r'] (some r) ∧ Bears [e, f] ['w'] (some w) := by
  have hne : ['r'] ≠ ['w'] := by decide
  have hcount : ∀ key ∈ wantedKeys, ([e, f].map Entry.key).count key = 1 := by
    rw [List.map_cons, List.map_cons, he.1, hf.1]
    decide
  refine ⟨.once (hcount _ (by decide)) fun g hg hkey => ?_,
    .once (hcount _ (by decide)) fun g hg hkey => ?_⟩
  all_goals
    simp only [List.mem_cons, List.not_mem_nil, or_false] at hg
    rcases hg with rfl | rfl
  · exact he.2
  · exact absurd (hkey.symm.trans hf.1) hne
  · exact absurd (he.1.symm.trans hkey) hne
  · exact hf.2

/-! ### All forms -/

/-- How elements and signatures are written and read as JSON. -/
structure Forms : Prop where
  element_read_back (a : U256) (indent : Option ℕ) :
    parseElement (String.ofList ((Document.element a).write indent)) = .ok a
  signature_read_back (s : Signature) (indent : Option ℕ) :
    parseSignature (String.ofList ((Document.signature s).write indent)) = .ok s
  element_iff (text : String) (a : U256) :
    parseElement text = .ok a
      ↔ ∃ i : Item, i.Padded ∧ IsElement i.value a ∧ text = String.ofList i.written
  only_string {i : Item} (hpad : i.Padded) (hvalue : IsValue i.value)
    (hnot : i.value.head? ≠ some '"') : ∃ e, parseElement (String.ofList i.written) = .error e
  object {before lead after : List Char} {es : List Entry} {r w : U256} (hbefore : IsBlank before)
    (hlead : IsBlank lead) (hafter : IsBlank after) (hr : Bears es ['r'] (some r))
    (hw : Bears es ['w'] (some w)) :
    parseSignature (String.ofList (objectStart before lead es ++ '\x7d' :: after)) = .ok ⟨r, w⟩
  list {before after : List Char} {i j : Item} {r w : U256} (hbefore : IsBlank before)
    (hafter : IsBlank after) (hi : i.Padded) (hj : j.Padded) (hr : IsElement i.value r)
    (hw : IsElement j.value w) :
    parseSignature
        (String.ofList (before ++ '[' :: (i.written ++ ',' :: (j.written ++ ']' :: after))))
      = .ok ⟨r, w⟩
  second {before lead blanks name key : List Char} {es : List Entry} {x y : Option U256}
    (hbefore : IsBlank before) (hlead : IsBlank lead) (hblanks : IsBlank blanks)
    (hr : Bears es ['r'] x) (hw : Bears es ['w'] y) (hkey : key ∈ wantedKeys)
    (hmem : key ∈ es.map Entry.key) (hname : Spells name key) (rest : List Char) :
    parseSignature (String.ofList (objectStart before lead es
        ++ ',' :: (blanks ++ '"' :: (name ++ '"' :: rest))))
      = .error (.mismatch ("duplicate field `" ++ String.ofList key ++ "`"))
  no_r {before lead : List Char} {es : List Entry} {y : Option U256} (hbefore : IsBlank before)
    (hlead : IsBlank lead) (hr : Bears es ['r'] none) (hw : Bears es ['w'] y)
    (rest : List Char) :
    parseSignature (String.ofList (objectStart before lead es ++ '\x7d' :: rest))
      = .error (.mismatch "missing field `r`")
  no_w {before lead : List Char} {es : List Entry} {r : U256} (hbefore : IsBlank before)
    (hlead : IsBlank lead) (hr : Bears es ['r'] (some r)) (hw : Bears es ['w'] none)
    (rest : List Char) :
    parseSignature (String.ofList (objectStart before lead es ++ '\x7d' :: rest))
      = .error (.mismatch "missing field `w`")

/-- The message about a member that is missing. -/
theorem missing_eq {name message : String} (h : "missing field `" ++ name ++ "`" = message) :
    missing name = .mismatch message := congrArg ReadError.mismatch h

/-- **The forms of elements and signatures.** -/
theorem element_and_signature_forms : Forms where
  element_read_back a indent := (parseElement_eq_ok_iff _ a).2
    ⟨⟨[], writeString a.toHex.toList, []⟩, ⟨isBlank_nil, isBlank_nil⟩, isElement_writeString a,
      by rw [Document.element, Document.write, Item.written, List.nil_append, List.append_nil]⟩
  signature_read_back s indent := by
    obtain ⟨lead, e, f, hlead, htext, he, hf⟩ := exists_entries_write_signature s indent
    obtain ⟨hr, hw⟩ := bears_pair he hf
    rw [htext]
    exact readAll_eq_ok_iff.2
      ⟨[], readSignature_objectStart isBlank_nil hlead hr hw [], isBlank_nil⟩
  element_iff := parseElement_eq_ok_iff
  only_string := parseElement_eq_error
  object hbefore hlead hafter hr hw := readAll_eq_ok_iff.2
    ⟨_, readSignature_objectStart hbefore hlead hr hw _, hafter⟩
  list hbefore hafter hi hj hr hw := readAll_eq_ok_iff.2
    ⟨_, readSignature_list hbefore hi hj hr hw _, hafter⟩
  second hbefore hlead hblanks hr hw hkey hmem hname rest := readAll_eq_error
    (readSignature_duplicate hbefore hlead hblanks hr hw hkey hmem hname rest)
  no_r hbefore hlead hr hw rest := (readAll_eq_error
    (readSignature_objectStart hbefore hlead hr hw rest)).trans
      (congrArg _ (missing_eq (by decide)))
  no_w hbefore hlead hr hw rest := (readAll_eq_error
    (readSignature_objectStart hbefore hlead hr hw rest)).trans
      (congrArg _ (missing_eq (by decide)))

/-- The member `w`, with its name as a code unit and a blank before it. -/
def escapedEntry : Entry where
  before := [' ']
  name := '\\' :: 'u' :: hexDigits 4 'w'.toNat ++ []
  afterName := []
  item := ⟨[], writeString "0x2".toList, []⟩
  key := ['w']
  padded := ⟨⟨isBlank_nil, isBlank_nil⟩, isBlank_space, isBlank_nil⟩
  spells := .cons (.unit (codeUnit_hexDigits (by decide : 'w'.toNat < 16 ^ 4))) .nil
  isValue := .string (spells_flatMap_writeChar _).loose

/-- A member named `r`, which is null. -/
def nullMember : Member := ⟨[], ['r'], [], ⟨[], "null".toList, []⟩⟩

/-- A member that is not wanted, with one named `r` inside. -/
def nestedEntry : Entry where
  before := []
  name := ['x']
  afterName := []
  item := ⟨[], '\x7b' :: (commaSeparated [] ([nullMember].map Member.written) ++ ['\x7d']), []⟩
  key := ['x']
  padded := ⟨⟨isBlank_nil, isBlank_nil⟩, isBlank_nil, isBlank_nil⟩
  spells := spells_flatMap_writeChar ['x']
  isValue := by
    have hpadded : nullMember.Padded := ⟨⟨isBlank_nil, isBlank_nil⟩, isBlank_nil, isBlank_nil⟩
    have hname : Loose nullMember.name := (spells_flatMap_writeChar ['r']).loose
    have hvalue : IsValue nullMember.item.value := .word List.mem_cons_self
    exact .object isBlank_nil (List.forall_mem_singleton.2 hpadded)
      (List.forall_mem_singleton.2 hname) (List.forall_mem_singleton.2 hvalue)

/-- The member `r`. -/
def plainEntry : Entry where
  before := []
  name := ['r']
  afterName := []
  item := ⟨[], writeString "0x1".toList, []⟩
  key := ['r']
  padded := ⟨⟨isBlank_nil, isBlank_nil⟩, isBlank_nil, isBlank_nil⟩
  spells := spells_flatMap_writeChar ['r']
  isValue := .string (spells_flatMap_writeChar _).loose

/-- The two elements are found around a member that is not wanted, `w` before `r`. -/
theorem element_and_signature_forms_nested :
    parseSignature
        "\x7b \"\\u0077\":\"0x2\",\"x\":\x7b\"r\":null\x7d,\"r\":\"0x1\"\x7d"
      = .ok ⟨.ofNat 1, .ofNat 2⟩ := by
  have htwo : IsElement escapedEntry.item.value (.ofNat 2) :=
    ⟨_, "0x2".toList, spells_flatMap_writeChar _, by decide +kernel, rfl⟩
  have hone : IsElement plainEntry.item.value (.ofNat 1) :=
    ⟨_, "0x1".toList, spells_flatMap_writeChar _, by decide +kernel, rfl⟩
  have hr : Bears [escapedEntry, nestedEntry, plainEntry] ['r'] (some (.ofNat 1)) := by
    refine .once rfl ?_
    simp only [List.forall_mem_cons]
    exact ⟨fun h => absurd h (by decide), fun h => absurd h (by decide),
      fun _ => hone, fun _ h => by cases h⟩
  have hw : Bears [escapedEntry, nestedEntry, plainEntry] ['w'] (some (.ofNat 2)) := by
    refine .once rfl ?_
    simp only [List.forall_mem_cons]
    exact ⟨fun _ => htwo, fun h => absurd h (by decide), fun h => absurd h (by decide),
      fun _ h => by cases h⟩
  have h := element_and_signature_forms.object isBlank_nil isBlank_nil isBlank_nil hr hw
  have htext : String.ofList (objectStart [] [] [escapedEntry, nestedEntry, plainEntry] ++ ['\x7d'])
      = "\x7b \"\\u0077\":\"0x2\",\"x\":\x7b\"r\":null\x7d,\"r\":\"0x1\"\x7d" :=
    rfl
  exact (congrArg parseSignature htext.symm).trans h

end Json
end StarkWire
