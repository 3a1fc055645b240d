import Registrar.Document

/-!
# Registration functions as Go code

The function fills the map of values and then the map of types of its package. Every section of
values starts with a comment that names it, also when it has no bindings, and an empty line
stands between two sections. A complete file puts a banner, a package clause and the imports in
front of the function.
-/

namespace Registrar.Document

/-- One entry of a map. -/
def bindingLine (b : Binding) : String :=
  "\t\t\"" ++ b.symbol ++ "\": " ++ b.accessor ++ ",\n"

/-- The entries of a section below the comment that names it. -/
def sectionLines (s : Section) : String :=
  "\t\t// " ++ s.name ++ "\n" ++ String.join (s.bindings.map bindingLine)

/-- The statement that fills a registry with a map. -/
def registryLines (registry map : Option String) (path entries : String) : String :=
  "\t" ++ Dialect.shown registry ++ "[\"" ++ path ++ "\"] = " ++ Dialect.shown map ++ "\x7b\n" ++
    entries ++ "\t\x7d\n"

/-- The registration function, below an empty line. -/
def code (d : Document) : String :=
  "\nfunc " ++ d.initName ++ "() \x7b\n" ++
    registryLines d.dialect.valueRegistry d.dialect.valueMap d.packagePath
      ("\n".intercalate (d.valueSections.map sectionLines)) ++
    registryLines d.dialect.typeRegistry d.dialect.typeMap d.packagePath
      (String.join (d.typeSection.bindings.map bindingLine)) ++
    "\x7d\n"

/-- The imports of a file: those of the dialect and the registered package, which is added
unless the dialect lists it. -/
def imports (d : Document) : List String :=
  if d.dialect.imports.contains d.packagePath then d.dialect.imports
  else d.dialect.imports ++ [d.packagePath]

/-- The banner, package clause and import block of a file. -/
def fileHead (d : Document) (package : String) : String :=
  "// Code generated by bindgen. DO NOT EDIT.\n\npackage " ++ package ++ "\n\nimport (\n" ++
    String.join (d.imports.map fun path => "\t\"" ++ path ++ "\"\n") ++ ")\n"

/-- A complete file with the registration function. -/
def codeFile (d : Document) (package : String) : String :=
  d.fileHead package ++ d.code

end Registrar.Document
