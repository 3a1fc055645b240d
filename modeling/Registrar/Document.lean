import Registrar.Dialect
import Registrar.SymbolSet

/-!
# Registration documents

A document says which symbols a registration function binds to which expressions, before any
output format is chosen. Values stand in named sections, in the order in which they are printed;
types have one section of their own. `Document.build` makes the document of a symbol set.
-/

namespace Registrar

/-- A symbol with the expression that reads it. -/
structure Binding where
  symbol : String
  accessor : String
  deriving DecidableEq, Repr

/-- A named list of bindings. -/
structure Section where
  name : String
  bindings : List Binding := []
  deriving DecidableEq, Repr

/-- The symbols of a section in order. -/
def Section.symbols (s : Section) : List String :=
  s.bindings.map Binding.symbol

/-- Everything that a registration function needs. -/
structure Document where
  /-- What follows `init` in the function's name. -/
  initSuffix : String
  /-- The import path, the key in the registries. -/
  packagePath : String
  /-- The package name, the qualifier in expressions. -/
  packageName : String
  /-- Names used around the bindings. -/
  dialect : Dialect := {}
  /-- The sections of values. -/
  valueSections : List Section := []
  /-- The section of types. -/
  typeSection : Section := { name := "types" }
  deriving DecidableEq, Repr

namespace Document

/-- The name of the registration function. -/
def initName (d : Document) : String :=
  "init" ++ d.initSuffix

/-- The first section of a name, the sections of values before the section of types. -/
def section? (d : Document) (name : String) : Option Section :=
  (d.valueSections ++ [d.typeSection]).find? fun s => s.name = name

/-- Replaces the bindings of a name, or adds the name at the end. -/
def putBindings (name : String) (bindings : List Binding) :
    List (String × List Binding) → List (String × List Binding)
  | [] => [(name, bindings)]
  | entry :: rest =>
    if entry.1 = name then (name, bindings) :: rest
    else entry :: putBindings name bindings rest

/-- The value sections by name: a later section of a name gives the bindings, an earlier one
the place. -/
def valuesByName (d : Document) : List (String × List Binding) :=
  d.valueSections.foldl (fun table s => putBindings s.name s.bindings table) []

/-- Binds each name to the expression that reads it. -/
def bind (expression : String → String → Except AccessorError String) (package : String)
    (names : List String) : Except AccessorError (List Binding) :=
  names.mapM fun name => return { symbol := name, accessor := ← expression package name }

/-- The categories whose symbols are registered as values, in printing order. -/
def valueCategories : List Category :=
  [.consts, .vars, .funcs]

/-- The document of a symbol set: one section per category, symbols in increasing order. -/
def build (attributes : Text.Template.Attributes) (path package initSuffix : String)
    (symbols : SymbolSet) (dialect : Dialect) : Except AccessorError Document := do
  let valueSections ← valueCategories.mapM fun c => do
    let bindings ← bind (dialect.valueExpression attributes) package (symbols.sorted c)
    return { name := c.label, bindings : Section }
  let types ← bind (dialect.typeExpression attributes) package (symbols.sorted .types)
  return { initSuffix, packagePath := path, packageName := package, dialect, valueSections,
           typeSection := { name := "types", bindings := types } }

end Document

end Registrar
