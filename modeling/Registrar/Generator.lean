import Registrar.Config
import Registrar.Document.Format
import Registrar.Host
import Registrar.Journal

/-!
# From a directory to a generated text

A generator reads the Go files of a directory, chooses one of their packages, sorts its exported
symbols and prints a document that registers them. A directory without a package to choose, or a
package that exports nothing, is skipped. A generator keeps nothing between two directories.
-/

namespace Registrar

/-- How texts are generated. -/
structure Generator where
  /-- Constants and variables that are left out. -/
  excluded : NameSet := .empty
  /-- How a package is chosen. -/
  strategy : Strategy := .strict
  /-- The dialect of the generated code. -/
  dialect : Dialect := {}
  /-- The output format. -/
  format : Format := .go
  /-- The syntax tree of a Go source. -/
  readTree : Go.TreeReader := Go.readSource
  /-- What the attributes lead to that the templates of the dialect take. -/
  attributes : Text.Template.Attributes := Text.Template.noAttributes

namespace Generator

/-- What a generator is made from. -/
structure Options where
  /-- Constants and variables that are left out. -/
  excluded : List String := []
  /-- The key of the strategy. -/
  strategy : String := "strict"
  /-- The key of the output format. -/
  format : String := "go"
  /-- The dialect of the generated code. -/
  dialect : Dialect := {}

/-- The options of a configuration. -/
def Options.ofConfig (c : Config) : Options :=
  { excluded := c.excluded, strategy := c.strategy, format := c.format, dialect := c.dialect }

/-- The generator of some options on a host; the key of the strategy is looked up first. -/
def create (host : Host) (o : Options) : Except Registry.Unknown Generator := do
  let strategy ← Strategy.registry.get o.strategy
  let format ← Format.registry.get o.format
  return { excluded := NameSet.ofList o.excluded, strategy, dialect := o.dialect, format,
           readTree := host.readTree, attributes := host.attributes }

/-- The package that a strategy chooses in a directory. -/
def choose (strategy : Strategy) (tree : SourceTree) (directory : String) :
    Except Fault (Option Package) :=
  (strategy.select tree).mapError
    (Fault.ambiguity (if directory = "" then "<tree>" else directory))

/-- The document of the packages of a directory. -/
def buildFrom (g : Generator) (tree : SourceTree) (directory path initSuffix : String) :
    Except Fault (Option Document) := do
  match ← choose g.strategy tree directory with
  | none => return none
  | some package =>
    let symbols := SymbolSet.ofPackage g.excluded package
    if symbols.isEmpty then return none
    return some (← (Document.build g.attributes path package.name initSuffix symbols
      g.dialect).mapError .accessor)

/-- The document of a directory below a root. -/
def build (g : Generator) (files : FileTree) (root path directory initSuffix : String) :
    Except Fault (Option Document) := do
  let full := joinPath root directory
  g.buildFrom (← (Go.parseDir g.readTree files full).mapError .read) full path initSuffix

/-- The generated text of a directory, empty if it is skipped. -/
def generate (g : Generator) (files : FileTree) (root path directory initSuffix : String) :
    Except Fault String := do
  match ← g.build files root path directory initSuffix with
  | none => return ""
  | some document => return g.format.render document

/-- The records that the reading of a directory leaves, up to a failure. -/
def records (g : Generator) (files : FileTree) (root directory : String) : List Record :=
  let full := joinPath root directory
  match Go.parseFiles g.readTree files full with
  | .error _ => []
  | .ok sources =>
    let tree := SourceTree.ofFiles sources
    parsedRecord full sources.length tree :: choiceRecords g.strategy tree full ++
      match choose g.strategy tree full with
      | .ok (some package) =>
        sortingRecords g.excluded package ++
          if (SymbolSet.ofPackage g.excluded package).isEmpty then
            [.ofGeneration ("Package " ++ package.name ++ " in " ++ full ++
              " exports nothing; skipping")]
          else []
      | _ => []

end Generator

end Registrar
