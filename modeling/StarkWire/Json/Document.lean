/-
# JSON documents

What is written as JSON: texts, numbers, truth values, lists, and objects whose members keep their
order.  The compact form has no blanks.  The pretty form puts every item and every member on a
line of its own, two spaces further in than what holds it; an empty list or object stays on one
line.
-/

import StarkWire.Json.Text
import StarkWire.Signature

namespace StarkWire
namespace Json

/-- A JSON value to be written. -/
inductive Document where
  | text (value : String)
  | number (value : Nat)
  | flag (value : Bool)
  | list (items : List Document)
  | object (members : List (String × Document))

/-- Pieces with commas between them. -/
def separated (comma : List Char) : List (List Char) → List Char
  | [] => []
  | [piece] => piece
  | piece :: rest => piece ++ comma ++ separated comma rest

/-- Pieces inside a pair of brackets; `indent` is where the lines of a pretty form start, and
there is none in the compact form. -/
def enclosed (opening closing : Char) (indent : Option Nat) (pieces : List (List Char)) :
    List Char :=
  let line (n : Nat) : List Char := '\n' :: List.replicate n ' '
  match pieces, indent with
  | [], _ => [opening, closing]
  | _, none => opening :: separated [','] pieces ++ [closing]
  | _, some n =>
    opening :: line (n + 2) ++ separated (',' :: line (n + 2)) pieces ++ line n ++ [closing]

namespace Document

mutual

/-- The text of a document. -/
def write (indent : Option Nat) : Document → List Char
  | text value => writeString value.toList
  | number value => (toString value).toList
  | flag value => (toString value).toList
  | list items => enclosed '[' ']' indent (writeItems (indent.map (· + 2)) items)
  | object members =>
    enclosed '\x7b' '\x7d' indent (writeMembers (indent.map (· + 2)) members)

/-- The texts of the items of a list. -/
def writeItems (indent : Option Nat) : List Document → List (List Char)
  | [] => []
  | item :: rest => item.write indent :: writeItems indent rest

/-- The texts of the members of an object. -/
def writeMembers (indent : Option Nat) : List (String × Document) → List (List Char)
  | [] => []
  | (name, value) :: rest =>
    (writeString name.toList ++ (if indent.isSome then [':', ' '] else [':']) ++ value.write indent)
      :: writeMembers indent rest

end

/-- The compact form. -/
def compact (d : Document) : String := String.ofList (d.write none)

/-- The pretty form. -/
def pretty (d : Document) : String := String.ofList (d.write (some 0))

/-- An element as its hex text. -/
def element (a : U256) : Document := text a.toHex

/-- The members of a signature. -/
def signatureMembers (s : Signature) : List (String × Document) :=
  [("r", element s.r), ("w", element s.w)]

/-- A signature as an object. -/
def signature (s : Signature) : Document := object (signatureMembers s)

end Document
end Json
end StarkWire
