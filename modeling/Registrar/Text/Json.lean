import Registrar.Text.Quoted

/-!
# JSON text

A JSON value is written in ASCII: characters beyond it appear as `\u` escapes of their UTF-16
units. A layout with an indent puts every item and member on a line of its own, one indent
deeper than its container; without one the value is a single line. An empty container is
written as its two brackets in either layout.
-/

namespace Registrar.Text

/-- The JSON values that documents consist of. -/
inductive Json where
  | text (s : String)
  | list (items : List Json)
  | object (members : List (String × Json))

namespace Json

/-- The UTF-16 units of a character. -/
def units (c : Char) : List Nat :=
  if c.toNat < 0x10000 then [c.toNat]
  else [0xD800 + (c.toNat - 0x10000) / 0x400, 0xDC00 + (c.toNat - 0x10000) % 0x400]

/-- A character between the quotes of a JSON string. -/
def escapeChar (c : Char) : List Char :=
  if c = '"' ∨ c = '\\' then ['\\', c]
  else if c = '\n' then ['\\', 'n']
  else if c = '\r' then ['\\', 'r']
  else if c = '\t' then ['\\', 't']
  else if c = '\x0c' then ['\\', 'f']
  else if c = '\x08' then ['\\', 'b']
  else if 0x20 ≤ c.toNat ∧ c.toNat < 0x7F then [c]
  else (units c).flatMap fun u => '\\' :: 'u' :: Quoted.hexDigits 4 u

/-- A JSON string. -/
def quote (s : String) : List Char :=
  '"' :: s.toList.flatMap escapeChar ++ ['"']

/-- The start of a line at the given depth; nothing when the value is a single line. -/
def newline (indent : Option (List Char)) (depth : Nat) : List Char :=
  match indent with
  | none => []
  | some unit => '\n' :: (List.replicate depth unit).flatten

/-- What separates two items: a line end follows the comma, or a blank on a single line. -/
def comma (indent : Option (List Char)) (depth : Nat) : List Char :=
  ',' :: if indent.isNone then [' '] else newline indent depth

mutual

/-- Writes a value inside containers of the given depth. -/
def write (indent : Option (List Char)) (depth : Nat) : Json → List Char
  | .text s => quote s
  | .list [] => ['[', ']']
  | .list (item :: items) =>
    '[' :: newline indent (depth + 1) ++ write indent (depth + 1) item ++
      writeItems indent (depth + 1) items ++ newline indent depth ++ [']']
  | .object [] => ['{', '}']
  | .object ((name, value) :: members) =>
    '{' :: newline indent (depth + 1) ++ quote name ++ [':', ' '] ++
      write indent (depth + 1) value ++ writeMembers indent (depth + 1) members ++
      newline indent depth ++ ['}']

/-- Writes the items of a list after the first. -/
def writeItems (indent : Option (List Char)) (depth : Nat) : List Json → List Char
  | [] => []
  | item :: items =>
    comma indent depth ++ write indent depth item ++ writeItems indent depth items

/-- Writes the members of an object after the first. -/
def writeMembers (indent : Option (List Char)) (depth : Nat) : List (String × Json) → List Char
  | [] => []
  | (name, value) :: members =>
    comma indent depth ++ quote name ++ [':', ' '] ++ write indent depth value ++
      writeMembers indent depth members

end

end Json

end Registrar.Text
