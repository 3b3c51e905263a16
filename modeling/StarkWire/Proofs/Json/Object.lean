/-
# Reading the members of an object

A string is read as an element just when the text that it spells is read as hex
(`readElement_of_isElement`, `exists_isElement_of_readElement`).

An entry of an object is a member whose name spells a key.  Reading one entry takes the element of a
key that is wanted, if none has been taken for it before, and passes over the value of any other key
(`Takes`, `readMember_of_takes`); so entry by entry to the end of what is valid
(`readMembers_of_reads`, `readObject_of_reads`).  Where the entries bear an element or nothing for
each of the two keys, in whatever order, exactly that has been read in the end (`reads_of_bears`).
-/

import StarkWire.Json.Reader
import StarkWire.Proofs.Json.Values

namespace StarkWire
namespace Json

/-! ### Elements -/

variable {cs rest value : List Char} {a : U256}

/-- A string that spells the hex text of an element. -/
def IsElement (value : List Char) (a : U256) : Prop :=
  ∃ written text, Spells written text ∧ U256.ofHex (String.ofList text) = .ok a ∧
    value = '"' :: (written ++ ['"'])

/-- What is written for an element is a JSON value. -/
theorem IsElement.isValue (h : IsElement value a) : IsValue value := by
  obtain ⟨written, text, hs, -, rfl⟩ := h
  exact .string hs.loose

/-- An element is read at the first character that is no blank. -/
theorem readElement_of_isElement (h : IsElement value a) (hcs : skipBlanks cs = value ++ rest) :
    readElement cs = .ok (a, rest) := by
  obtain ⟨written, text, hs, ha, rfl⟩ := h
  rw [U256.ofHex, String.toList_ofList] at ha
  rw [readElement, hcs, List.cons_append, List.append_assoc, List.singleton_append]
  simp only [readString_of_spells hs, ha]

/-- What is read as an element is a string that spells its hex text. -/
theorem exists_isElement_of_readElement (h : readElement cs = .ok (a, rest)) :
    ∃ blanks value, IsBlank blanks ∧ IsElement value a ∧ cs = blanks ++ (value ++ rest) := by
  obtain ⟨blanks, hb, hcs⟩ := exists_blank_append cs
  unfold readElement at h
  split at h
  · rename_i tail hskip
    split at h
    · cases h
    · rename_i text after hread
      split at h
      · rename_i b hhex
        obtain ⟨rfl, rfl⟩ := Prod.mk.inj (Except.ok.inj h)
        obtain ⟨written, hs, rfl⟩ := exists_spells_of_readString hread
        refine ⟨blanks, '"' :: (written ++ ['"']), hb, ⟨written, text, hs, ?_, rfl⟩, ?_⟩
        · rw [U256.ofHex, String.toList_ofList, hhex]
        · rw [hcs, hskip, List.cons_append, List.append_assoc, List.singleton_append]
      · cases h
  · cases h

/-! ### One entry -/

/-- A member whose name spells a key. -/
structure Entry extends Member where
  key : List Char
  padded : toMember.Padded
  spells : Spells name key
  isValue : IsValue item.value

/-- What reading an entry makes of the members that have been read. -/
inductive Takes (e : Entry) : Members → Members → Prop
  | r {s : Members} {a : U256} (hkey : e.key = ['r']) (hs : s.r = none)
    (ha : IsElement e.item.value a) : Takes e s (s.withR a)
  | w {s : Members} {a : U256} (hkey : e.key = ['w']) (hs : s.w = none)
    (ha : IsElement e.item.value a) : Takes e s (s.withW a)
  | other {s : Members} (hr : e.key ≠ ['r']) (hw : e.key ≠ ['w']) : Takes e s s

/-- **Reading one entry,** whose opening quote has been passed. -/
theorem readMember_of_takes {e : Entry} {s s' : Members} (h : Takes e s s') (hr : Ends rest) :
    readMember s (e.name ++ '"' :: (e.afterName ++ ':' :: (e.item.written ++ rest)))
      = .ok (s', e.item.after ++ rest) := by
  have hskip := e.item.skipBlanks_append e.padded.toPadded e.isValue rest
  have hcolon := expectColon_append e.padded.afterName (e.item.written ++ rest)
  simp only [readMember, readString_of_spells e.spells, bind, Except.bind]
  cases h with
  | r hkey hs ha =>
    rw [readValue, if_pos hkey, hs]
    simp only [hcolon, bind, Except.bind, readElement_of_isElement ha hskip, Except.map]
  | w hkey hs ha =>
    rw [readValue, if_neg (by rw [hkey]; decide), if_pos hkey, hs]
    simp only [hcolon, bind, Except.bind, readElement_of_isElement ha hskip, Except.map]
  | other hr' hw' =>
    have hpass := passValue_of_isValue e.isValue hskip (hr.blank_append e.padded.after)
    rw [readValue, if_neg hr', if_neg hw']
    simp only [hcolon, bind, Except.bind, hpass, Except.map]

/-! ### All entries -/

/-- What reading entries one after the other makes of the members that have been read. -/
inductive Reads : Members → List Entry → Members → Prop
  | nil {s : Members} : Reads s [] s
  | cons {s s' s'' : Members} {e : Entry} {es : List Entry} (head : Takes e s s')
    (tail : Reads s' es s'') : Reads s (e :: es) s''

/-- What is read after a member depends on what follows the blanks. -/
theorem readMembers_eq (s : Members) (cs : List Char) :
    readMembers s cs
      = match skipBlanks cs with
        | [] => .error .truncated
        | c :: rest =>
          if c = '\x7d' then s.signature.map fun sig => (sig, rest)
          else if c = ',' then
            match skipBlanks rest with
            | [] => .error .truncated
            | c :: rest =>
              if c = '"' then readMember s rest >>= fun read => readMembers read.1 read.2
              else .error .malformed
          else .error .malformed := by
  rw [readMembers]
  split
  · rename_i hb
    rw [hb]
  · rename_i c tail hb
    rw [hb]
    dsimp only
    split_ifs
    · rfl
    · split
      · rename_i hq
        rw [hq]
      · rename_i d after hq
        rw [hq]
        dsimp only
        split_ifs
        · split <;> rename_i hm <;> rw [hm] <;> rfl
        · rfl
    · rfl

/-- At a closing brace the members seen so far make up the signature. -/
theorem readMembers_of_close (s : Members) (rest : List Char) :
    readMembers s ('\x7d' :: rest) = s.signature.map fun sig => (sig, rest) := by
  rw [readMembers_eq, skipBlanks_of_not_blank (by decide)]
  exact if_pos rfl

/-- Blanks before a comma or the end do not matter. -/
theorem readMembers_blank_append {blanks : List Char} (h : IsBlank blanks) (s : Members)
    (cs : List Char) : readMembers s (blanks ++ cs) = readMembers s cs := by
  rw [readMembers_eq, readMembers_eq, skipBlanks_append h]

/-- After a comma comes a member. -/
theorem readMembers_of_comma {blanks : List Char} (h : IsBlank blanks) (s : Members)
    (rest : List Char) :
    readMembers s (',' :: (blanks ++ '"' :: rest))
      = readMember s rest >>= fun read => readMembers read.1 read.2 := by
  rw [readMembers_eq, skipBlanks_of_not_blank (by decide)]
  dsimp only
  rw [if_neg (by decide), if_pos rfl, skipBlanks_append h, skipBlanks_of_not_blank (by decide)]
  exact if_pos rfl

/-- The entries that follow the first one. -/
def followers (es : List Entry) : List Char := es.flatMap fun e => ',' :: e.written

/-- The first entry stands without a comma, the others follow. -/
theorem separated_entries (e : Entry) (es : List Entry) :
    separated [','] ((e :: es).map fun e => e.written) = e.written ++ followers es := by
  rw [List.map_cons, separated_cons, List.flatMap_map]
  rfl

/-- No number goes on where the entries follow. -/
theorem ends_followers (es : List Entry) (hr : Ends rest) : Ends (followers es ++ rest) := by
  cases es with
  | nil => exact hr
  | cons e es => exact ends_cons (by decide)

/-- **Reading entries** that follow another one. -/
theorem readMembers_of_reads {s s' : Members} {es : List Entry} (h : Reads s es s')
    (hr : Ends rest) : readMembers s (followers es ++ rest) = readMembers s' rest := by
  induction h with
  | nil => rfl
  | @cons s s' s'' e es head _ ih =>
    have htext : followers (e :: es) ++ rest
        = ',' :: (e.before ++ '"' :: (e.name ++ '"' :: (e.afterName ++ ':' ::
            (e.item.written ++ (followers es ++ rest))))) := by
      simp [followers, Member.written]
    rw [htext, readMembers_of_comma e.padded.beforeName,
      readMember_of_takes head (ends_followers es hr)]
    exact (readMembers_blank_append e.padded.after _ _).trans ih

/-- **Reading the entries of an object,** of which there is at least one. -/
theorem readObject_of_reads {s : Members} {lead : List Char} {e : Entry} {es : List Entry}
    (hlead : IsBlank lead) (h : Reads ⟨none, none⟩ (e :: es) s) (hr : Ends rest) :
    readObject (commaSeparated lead ((e :: es).map fun e => e.written) ++ rest)
      = readMembers s rest := by
  cases h with
  | cons head tail =>
    have htext : commaSeparated lead ((e :: es).map fun e => e.written) ++ rest
        = lead ++ (e.written ++ (followers es ++ rest)) := by
      rw [commaSeparated, separated_entries, List.append_assoc, List.append_assoc]
    rw [htext, readObject, skipBlanks_append hlead, e.skipBlanks_append e.padded]
    dsimp only
    rw [if_neg (by decide), if_pos rfl, readMember_of_takes head (ends_followers es hr)]
    exact (readMembers_blank_append e.padded.after _ _).trans (readMembers_of_reads tail hr)

/-- The object at its end, whether or not it has entries. -/
theorem readObject_of_reads_close {s : Members} {lead : List Char} {es : List Entry}
    (hlead : IsBlank lead) (h : Reads ⟨none, none⟩ es s) (rest : List Char) :
    readObject (commaSeparated lead (es.map fun e => e.written) ++ '\x7d' :: rest)
      = s.signature.map fun sig => (sig, rest) := by
  cases h with
  | nil =>
    rw [List.map_nil, commaSeparated, separated, List.append_nil, readObject,
      skipBlanks_append hlead, skipBlanks_of_not_blank (by decide)]
    exact if_pos rfl
  | cons head tail =>
    rw [readObject_of_reads hlead (.cons head tail) (ends_cons (by decide)),
      readMembers_of_close]

/-! ### What entries bear -/

/-- What entries give for a key: nothing where it does not occur, and where it occurs once an
element. -/
inductive Bears (es : List Entry) (key : List Char) : Option U256 → Prop
  | absent (h : (es.map Entry.key).count key = 0) : Bears es key none
  | once {a : U256} (h : (es.map Entry.key).count key = 1)
    (ha : ∀ e ∈ es, e.key = key → IsElement e.item.value a) : Bears es key (some a)

variable {e : Entry} {es : List Entry} {key : List Char} {x : Option U256}

/-- An entry with the key bears its element. -/
theorem Bears.of_eq (h : Bears (e :: es) key x) (hkey : e.key = key) :
    ∃ a, x = some a ∧ IsElement e.item.value a ∧ Bears es key none := by
  cases h with
  | absent h =>
    rw [List.map_cons, hkey, List.count_cons_self] at h
    cases h
  | once h ha =>
    rw [List.map_cons, hkey, List.count_cons_self] at h
    exact ⟨_, rfl, ha e List.mem_cons_self hkey, .absent (Nat.succ_inj.1 h)⟩

/-- An entry with another key bears nothing. -/
theorem Bears.of_ne (h : Bears (e :: es) key x) (hkey : e.key ≠ key) : Bears es key x := by
  cases h with
  | absent h =>
    rw [List.map_cons, List.count_cons_of_ne hkey] at h
    exact .absent h
  | once h ha =>
    rw [List.map_cons, List.count_cons_of_ne hkey] at h
    exact .once h fun f hf => ha f (List.mem_cons_of_mem _ hf)

/-- A key that occurs bears an element. -/
theorem Bears.exists_eq_some (h : Bears es key x) (hmem : key ∈ es.map Entry.key) :
    ∃ a, x = some a := by
  cases h with
  | absent h => exact absurd hmem (List.count_eq_zero.1 h)
  | once _ _ => exact ⟨_, rfl⟩

/-- No entry bears a value, so it has not been seen. -/
theorem Bears.eq_none (h : Bears [] key x) : x = none := by
  cases h with
  | absent _ => rfl
  | once h _ => cases h

/-- Entries are read as what they bear, added to what has been read. -/
theorem reads_of_bears_or {s : Members} {y : Option U256} (hx : Bears es ['r'] x)
    (hy : Bears es ['w'] y) (hr : s.r = none ∨ x = none) (hw : s.w = none ∨ y = none) :
    Reads s es ⟨s.r.or x, s.w.or y⟩ := by
  induction es generalizing s x y with
  | nil =>
    obtain rfl := hx.eq_none
    obtain rfl := hy.eq_none
    rw [Option.or_none, Option.or_none]
    exact .nil
  | cons e es ih =>
    -- a key that has been read is not borne by the entries behind it, so nothing is read twice
    by_cases hkr : e.key = ['r']
    · obtain ⟨a, rfl, ha, hnone⟩ := hx.of_eq hkr
      have hsr := hr.resolve_right (Option.some_ne_none a)
      have htail := ih (s := s.withR a) hnone (hy.of_ne (by rw [hkr]; decide)) (.inr rfl) hw
      rw [hsr]
      exact .cons (.r hkr hsr ha) htail
    · by_cases hkw : e.key = ['w']
      · obtain ⟨a, rfl, ha, hnone⟩ := hy.of_eq hkw
        have hsw := hw.resolve_right (Option.some_ne_none a)
        have htail := ih (s := s.withW a) (hx.of_ne hkr) hnone hr (.inr rfl)
        rw [hsw]
        exact .cons (.w hkw hsw ha) htail
      · exact .cons (.other hkr hkw) (ih (hx.of_ne hkr) (hy.of_ne hkw) hr hw)

/-- **Entries are read as what they bear.** -/
theorem reads_of_bears {y : Option U256} (hx : Bears es ['r'] x) (hy : Bears es ['w'] y) :
    Reads ⟨none, none⟩ es ⟨x, y⟩ := by
  have h := reads_of_bears_or (s := ⟨none, none⟩) hx hy (.inl rfl) (.inl rfl)
  rwa [Option.none_or, Option.none_or] at h

end Json
end StarkWire
