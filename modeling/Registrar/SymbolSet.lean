import Registrar.Package
import Registrar.Deprecation

/-!
# Exported symbols of a package

A symbol set sorts exported names into four categories. `SymbolSet.addDecl` routes the names of
one declaration: a deprecated declaration or spec contributes nothing, a method never does, and
excluded names are kept out of the constants and variables only. `SymbolSet.ofPackage`
accumulates a whole package.
-/

namespace Registrar

/-- The four kinds of exported symbols. -/
inductive Category where
  | consts
  | vars
  | types
  | funcs
  deriving DecidableEq, Repr

namespace Category

/-- The category's name. -/
def label : Category → String
  | consts => "constants"
  | vars => "variables"
  | types => "types"
  | funcs => "functions"

/-- All categories. -/
def all : List Category :=
  [consts, vars, types, funcs]

/-- The category of a name. -/
def ofLabel? (name : String) : Option Category :=
  all.find? fun c => c.label = name

end Category

/-- Exported names by category. -/
structure SymbolSet where
  consts : NameSet := .empty
  vars : NameSet := .empty
  types : NameSet := .empty
  funcs : NameSet := .empty

namespace SymbolSet

/-- The names of one category. -/
def get (s : SymbolSet) : Category → NameSet
  | .consts => s.consts
  | .vars => s.vars
  | .types => s.types
  | .funcs => s.funcs

/-- Replaces one category. -/
def set (s : SymbolSet) (c : Category) (names : NameSet) : SymbolSet :=
  match c with
  | .consts => { s with consts := names }
  | .vars => { s with vars := names }
  | .types => { s with types := names }
  | .funcs => { s with funcs := names }

/-- Adds names to a category. -/
def add (s : SymbolSet) (c : Category) (names : List String) : SymbolSet :=
  s.set c (NameSet.addAll (s.get c) names)

/-- Removes names from a category. -/
def discard (s : SymbolSet) (c : Category) (names : List String) : SymbolSet :=
  s.set c (names.foldl NameMap.erase (s.get c))

/-- The names of a category in increasing order. -/
def sorted (s : SymbolSet) (c : Category) : List String :=
  (s.get c).keys

/-- No category has a name. -/
def isEmpty (s : SymbolSet) : Bool :=
  Category.all.all fun c => (s.get c).isEmpty

/-- The number of names in all categories. -/
def size (s : SymbolSet) : Nat :=
  s.consts.size + s.vars.size + s.types.size + s.funcs.size

/-- The exported names of the specs that are not deprecated. -/
def liveNames (specs : List Spec) : List String :=
  (specs.filter fun spec => !isDeprecated spec.doc).flatMap Spec.exported

/-- The live names of constants or variables that are not excluded. -/
def valueNames (excluded : NameSet) (specs : List Spec) : List String :=
  (liveNames specs).filter fun name => !excluded.contains name

/-- The category that a declaration contributes to and the names it contributes. -/
def contribution (excluded : NameSet) (d : Decl) : Category × List String :=
  match d.body with
  | .group .const specs =>
    (.consts, if isDeprecated d.doc then [] else valueNames excluded specs)
  | .group .var specs =>
    (.vars, if isDeprecated d.doc then [] else valueNames excluded specs)
  | .group .type specs => (.types, if isDeprecated d.doc then [] else liveNames specs)
  | .func name isMethod =>
    (.funcs, if isDeprecated d.doc || isMethod || !isExported name then [] else [name])

/-- Adds what a declaration contributes. -/
def addDecl (excluded : NameSet) (s : SymbolSet) (d : Decl) : SymbolSet :=
  s.add (contribution excluded d).1 (contribution excluded d).2

/-- The exported symbols of a package. -/
def ofPackage (excluded : NameSet) (p : Package) : SymbolSet :=
  p.declarations.foldl (addDecl excluded) {}

end SymbolSet

end Registrar
