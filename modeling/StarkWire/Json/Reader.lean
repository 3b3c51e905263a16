/-
# Reading elements and signatures

An element is a string that holds hex text.  A signature is an object with the members `r` and
`w`, once each, in any order, among any others, which are passed over; or a list of exactly the
two.  After the value only blanks may follow.

The first problem from the left decides.  A member that comes twice is noticed at its second name,
one that is missing at the end of the object, `r` before `w`.
-/

import StarkWire.Json.Number
import StarkWire.Json.Skip
import StarkWire.Signature
import StarkWire.Text.Escape

namespace StarkWire
namespace Json

/-- What is found where something else is wanted. -/
def foundLabel (cs : List Char) : Except ReadError String :=
  match cs with
  | 'n' :: rest => (expectWord ['u', 'l', 'l'] rest).map fun _ => "null"
  | 't' :: rest => (expectWord ['r', 'u', 'e'] rest).map fun _ => "boolean `true`"
  | 'f' :: rest => (expectWord ['a', 'l', 's', 'e'] rest).map fun _ => "boolean `false`"
  | '"' :: rest => (readString rest).map fun read => "string " ++ Text.quoted (String.ofList read.1)
  | '[' :: _ => .ok "sequence"
  | '\x7b' :: _ => .ok "map"
  | c :: _ => if c = '-' || c.isDigit then (readNumber cs).map Number.label else .error .malformed
  | [] => .error .truncated

/-- The problem with a value that is not of the wanted kind. -/
def wrongKind (wanted : String) (cs : List Char) : ReadError :=
  match foundLabel cs with
  | .ok found => .mismatch ("invalid type: " ++ found ++ ", expected " ++ wanted)
  | .error e => e

/-- An element at the start of a text, and what follows it. -/
def readElement (cs : List Char) : Except ReadError (U256 × List Char) :=
  match skipBlanks cs with
  | '"' :: rest =>
    match readString rest with
    | .error e => .error e
    | .ok (text, rest) =>
      match U256.ofHexChars text with
      | .ok a => .ok (a, rest)
      | .error e => .error (.mismatch e.message)
  | cs => .error (wrongKind "a string" cs)

/-- Nothing but blanks is left. -/
def expectEnd (cs : List Char) : Except ReadError Unit :=
  match skipBlanks cs with
  | [] => .ok ()
  | _ :: _ => .error .malformed

/-- What is wanted where a signature is read. -/
def signatureKind : String := "struct Signature"

/-- The problem with a list of fewer than two items. -/
def tooFew (items : Nat) : ReadError :=
  .mismatch ("invalid length " ++ toString items ++ ", expected " ++ signatureKind
    ++ " with 2 elements")

/-- The first item of a list of two whose opening bracket has been passed. -/
def readFirstItem (cs : List Char) : Except ReadError (U256 × List Char) :=
  match skipBlanks cs with
  | [] => .error .truncated
  | c :: rest => if c = ']' then .error (tooFew 0) else readElement (c :: rest)

/-- The second item of a list of two. -/
def readSecondItem (cs : List Char) : Except ReadError (U256 × List Char) :=
  match skipBlanks cs with
  | [] => .error .truncated
  | c :: rest =>
    if c = ']' then .error (tooFew 1)
    else if c = ',' then
      match skipBlanks rest with
      | [] => .error .truncated
      | c :: rest => if c = ']' then .error .malformed else readElement (c :: rest)
    else .error .malformed

/-- The end of a list of two. -/
def closeList (cs : List Char) : Except ReadError (List Char) :=
  match skipBlanks cs with
  | [] => .error .truncated
  | c :: rest => if c = ']' then .ok rest else .error .malformed

/-- A signature in a list whose opening bracket has been passed. -/
def readItems (cs : List Char) : Except ReadError (Signature × List Char) := do
  let (r, rest) ← readFirstItem cs
  let (w, rest) ← readSecondItem rest
  let rest ← closeList rest
  return (⟨r, w⟩, rest)

/-- The members of a signature that have been read so far. -/
structure Members where
  r : Option U256
  w : Option U256
deriving DecidableEq

/-- The members with `r` read. -/
def Members.withR (m : Members) (r : U256) : Members := ⟨some r, m.w⟩

/-- The members with `w` read. -/
def Members.withW (m : Members) (w : U256) : Members := ⟨m.r, some w⟩

/-- The problem with a member that comes twice. -/
def duplicate (name : String) : ReadError := .mismatch ("duplicate field `" ++ name ++ "`")

/-- The problem with a member that does not come. -/
def missing (name : String) : ReadError := .mismatch ("missing field `" ++ name ++ "`")

/-- The signature of all its members. -/
def Members.signature (m : Members) : Except ReadError Signature :=
  match m.r, m.w with
  | some r, some w => .ok ⟨r, w⟩
  | none, _ => .error (missing "r")
  | _, none => .error (missing "w")

/-- The value of a member, and what follows it; the text starts after the name. -/
def readValue (name : List Char) (members : Members) (cs : List Char) :
    Except ReadError (Members × List Char) :=
  if name = ['r'] then
    match members.r with
    | some _ => .error (duplicate "r")
    | none =>
      (expectColon cs >>= readElement).map fun (r, rest) => (members.withR r, rest)
  else if name = ['w'] then
    match members.w with
    | some _ => .error (duplicate "w")
    | none =>
      (expectColon cs >>= readElement).map fun (w, rest) => (members.withW w, rest)
  else (expectColon cs >>= passValue).map fun rest => (members, rest)

/-- A member whose opening quote has been passed, and what follows it. -/
def readMember (members : Members) (cs : List Char) : Except ReadError (Members × List Char) := do
  let (name, rest) ← readString cs
  readValue name members rest

/-- To read an element makes a text shorter. -/
theorem length_readElement_lt {cs rest : List Char} {a : U256}
    (h : readElement cs = .ok (a, rest)) : rest.length < cs.length := by
  have hb := length_skipBlanks_le cs
  unfold readElement at h
  split at h
  · rename_i hq
    rw [hq] at hb
    split at h
    · cases h
    · rename_i hs
      have := length_readString_lt hs
      split at h
      · cases h
        exact Nat.lt_trans this hb
      · cases h
  · cases h

/-- To pass a value makes a text no longer. -/
theorem length_passValue_le {cs rest : List Char} (h : passValue cs = .ok rest) :
    rest.length ≤ cs.length :=
  length_pass_le h

/-- To read the value of a member makes a text shorter: there is a colon before it at least. -/
theorem length_readValue_lt {name cs rest : List Char} {members after : Members}
    (h : readValue name members cs = .ok (after, rest)) : rest.length < cs.length := by
  have element {f : U256 → Members}
      (h : ((expectColon cs >>= readElement).map fun (a, rest) => (f a, rest)) =
        .ok (after, rest)) : rest.length < cs.length := by
    obtain ⟨read, hread, hmap⟩ := map_eq_ok_iff.1 h
    obtain ⟨tail, hc, he⟩ := bind_eq_ok_iff.1 hread
    cases hmap
    exact Nat.lt_trans (length_readElement_lt he) (length_expectColon_lt hc)
  unfold readValue at h
  split at h
  · split at h
    · cases h
    · exact element (f := members.withR) h
  · split at h
    · split at h
      · cases h
      · exact element (f := members.withW) h
    · obtain ⟨read, hread, hmap⟩ := map_eq_ok_iff.1 h
      obtain ⟨tail, hc, hp⟩ := bind_eq_ok_iff.1 hread
      cases hmap
      exact Nat.lt_of_le_of_lt (length_passValue_le hp) (length_expectColon_lt hc)

/-- To read a member makes a text shorter, so that its reader comes to an end. -/
theorem length_readMember_lt {cs rest : List Char} {members after : Members}
    (h : readMember members cs = .ok (after, rest)) : rest.length < cs.length := by
  obtain ⟨read, hs, hv⟩ := bind_eq_ok_iff.1 h
  exact Nat.lt_trans (length_readValue_lt hv) (length_readString_lt hs)

/-- The members that follow one that has been read, and what follows the object. -/
def readMembers (members : Members) (cs : List Char) : Except ReadError (Signature × List Char) :=
  match _hb : skipBlanks cs with
  | [] => .error .truncated
  | c :: rest =>
    if c = '\x7d' then members.signature.map fun s => (s, rest)
    else if c = ',' then
      match _hq : skipBlanks rest with
      | [] => .error .truncated
      | c :: rest =>
        if c = '"' then
          match _hm : readMember members rest with
          | .error e => .error e
          | .ok (members, rest) => readMembers members rest
        else .error .malformed
    else .error .malformed
termination_by cs.length
decreasing_by
  have hb := length_skipBlanks_cons _hb
  have hq := length_skipBlanks_cons _hq
  have hm := length_readMember_lt _hm
  omega

/-- A signature in an object whose opening bracket has been passed. -/
def readObject (cs : List Char) : Except ReadError (Signature × List Char) :=
  match skipBlanks cs with
  | [] => .error .truncated
  | c :: rest =>
    if c = '\x7d' then (Members.signature ⟨none, none⟩).map fun s => (s, rest)
    else if c = '"' then do
      let (members, rest) ← readMember ⟨none, none⟩ rest
      readMembers members rest
    else .error .malformed

/-- A signature at the start of a text, and what follows it. -/
def readSignature (cs : List Char) : Except ReadError (Signature × List Char) :=
  match skipBlanks cs with
  | [] => .error .truncated
  | c :: rest =>
    if c = '[' then readItems rest
    else if c = '\x7b' then readObject rest
    else .error (wrongKind signatureKind (c :: rest))

/-- The value of a whole text. -/
def readAll {α : Type} (read : List Char → Except ReadError (α × List Char)) (text : String) :
    Except ReadError α := do
  let (value, rest) ← read text.toList
  expectEnd rest
  return value

/-- The element that a text holds. -/
def parseElement (text : String) : Except ReadError U256 := readAll readElement text

/-- The signature that a text holds. -/
def parseSignature (text : String) : Except ReadError Signature := readAll readSignature text

end Json
end StarkWire
