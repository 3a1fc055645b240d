import Registrar.Fault
import Registrar.SymbolSet
import Registrar.Strategy
import Registrar.Text.Quoted

/-!
# Records of what was done

A record says what a stage did or left out. Records of little weight are only shown on request.
The functions here say which records a stage makes; they do not take part in its result.
-/

namespace Registrar

/-- The weight of a record. -/
inductive Level where
  | debug
  | info
  | error
  deriving DecidableEq, Repr

/-- The weight in a word. -/
def Level.label : Level → String
  | debug => "DEBUG"
  | info => "INFO"
  | error => "ERROR"

/-- A record. -/
structure Record where
  /-- Its weight. -/
  level : Level
  /-- The part of the program that makes it. -/
  source : String
  /-- What it says. -/
  text : String
  deriving DecidableEq, Repr

namespace Record

/-- A record on one line. -/
def line (r : Record) : String :=
  r.level.label ++ " " ++ r.source ++ ": " ++ r.text

/-- The record is shown without being asked for. -/
def isShown (r : Record) : Bool :=
  r.level = .error

/-- A record of the reading of a directory. -/
def ofParsing (text : String) : Record := ⟨.debug, "gosym.treesitter_backend", text⟩

/-- A record of the choice of a package. -/
def ofChoice (text : String) : Record := ⟨.debug, "gosym.strategy", text⟩

/-- A record of the sorting of symbols. -/
def ofSorting (text : String) : Record := ⟨.debug, "gosym.classifier", text⟩

/-- A record of the generation of a text. -/
def ofGeneration (text : String) : Record := ⟨.debug, "gosym.generator", text⟩

end Record

open Text.Quoted (encodeList)

/-- The place of a declaration or spec in a record. -/
def placeText (path : String) (line : Int) : String :=
  path ++ ":" ++ toString line

/-- The record of a directory that was read. -/
def parsedRecord (directory : String) (files : Nat) (tree : SourceTree) : Record :=
  .ofParsing ("Parsed " ++ toString files ++ " file(s) in " ++ directory ++ ": packages " ++
    encodeList tree.keys)

/-- The records of the choice of a package in a directory. -/
def choiceRecords (s : Strategy) (tree : SourceTree) (directory : String) : List Record :=
  let shown := if directory = "" then "<tree>" else directory
  let candidates := candidatePackages tree
  match s.choose candidates with
  | .error _ => []
  | .ok none =>
    [.ofChoice ("No exportable package in " ++ shown ++ " (found " ++ encodeList tree.keys ++ ")")]
  | .ok (some name) =>
    (if candidates.length ≤ 1 then []
      else [.ofChoice ("Several packages in " ++ directory ++ ", using " ++ name ++ ": " ++
        encodeList candidates)]) ++
      [.ofChoice ("Selected package " ++ name ++ " in " ++ shown)]

/-- The records of the specs of constants or variables. -/
def specRecords (excluded : NameSet) (path : String) (s : Spec) : List Record :=
  if isDeprecated s.doc then
    [.ofSorting ("Skipping deprecated " ++ encodeList s.names ++ " at " ++ placeText path s.line)]
  else (s.exported.filter excluded.contains).map fun name =>
    .ofSorting ("Skipping excluded symbol " ++ name)

/-- The records of a declaration. -/
def declRecords (excluded : NameSet) (d : Decl) : List Record :=
  let skipped (what : String) : List Record :=
    [.ofSorting ("Skipping deprecated " ++ what ++ " " ++ encodeList d.names ++ " at " ++
      placeText d.path d.line)]
  match d.body with
  | .group .type _ => if isDeprecated d.doc then skipped "types" else []
  | .group _ specs =>
    if isDeprecated d.doc then skipped "group" else specs.flatMap (specRecords excluded d.path)
  | .func _ _ => []

/-- The record of the symbols of a package. -/
def countRecord (name : String) (s : SymbolSet) : Record :=
  .ofSorting ("Package " ++ name ++ ": " ++ toString s.consts.size ++ " constant(s), " ++
    toString s.vars.size ++ " variable(s), " ++ toString s.types.size ++ " type(s), " ++
    toString s.funcs.size ++ " function(s)")

/-- The records of the sorting of a package's symbols. -/
def sortingRecords (excluded : NameSet) (p : Package) : List Record :=
  p.declarations.flatMap (declRecords excluded) ++
    [countRecord p.name (SymbolSet.ofPackage excluded p)]

end Registrar
