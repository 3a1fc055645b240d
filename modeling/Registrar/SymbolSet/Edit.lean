import Registrar.SymbolSet

/-!
# Edits of a symbol set

An edit adds names to a category or takes names from it, and says by name which category it is
about. A name that no category has is refused. `SymbolSet.editAll` makes one edit after the other;
an edit that is refused leaves the symbols as they are.
-/

namespace Registrar

namespace Category

/-- A name that no category has. -/
structure Unknown where
  /-- The name. -/
  name : String
  deriving DecidableEq, Repr

/-- The message for a name that no category has. -/
def Unknown.message (e : Unknown) : String :=
  "unknown symbol category '" ++ e.name ++ "'"

/-- The category of a name. -/
def ofLabel (name : String) : Except Unknown Category :=
  match ofLabel? name with
  | some c => .ok c
  | none => .error { name }

end Category

namespace SymbolSet

/-- What an edit does with the names of a category. -/
inductive Change where
  /-- Adds names. -/
  | add (names : List String)
  /-- Takes names away. -/
  | discard (names : List String)
  deriving DecidableEq, Repr

/-- An edit. -/
structure Edit where
  /-- The name of the category. -/
  category : String
  /-- What becomes of its names. -/
  change : Change
  deriving DecidableEq, Repr

/-- The symbols after a change in a category. -/
def change (s : SymbolSet) (c : Category) : Change → SymbolSet
  | .add names => s.add c names
  | .discard names => s.discard c names

/-- The symbols after an edit. -/
def edit (s : SymbolSet) (e : Edit) : Except Category.Unknown SymbolSet := do
  return s.change (← Category.ofLabel e.category) e.change

/-- The names of the category of a name in increasing order. -/
def listed (s : SymbolSet) (category : String) : Except Category.Unknown (List String) := do
  return s.sorted (← Category.ofLabel category)

/-- The symbols after an edit, or as they are if it is refused. -/
def edited (s : SymbolSet) (e : Edit) : SymbolSet :=
  match s.edit e with
  | .ok s => s
  | .error _ => s

/-- The symbols after some edits. -/
def editAll (s : SymbolSet) (edits : List Edit) : SymbolSet :=
  edits.foldl edited s

end SymbolSet

end Registrar
