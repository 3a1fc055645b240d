import Registrar.Document.Code
import Registrar.Document.Json
import Registrar.Registry

/-!
# Output formats

A format prints documents, alone or as the contents of a file, and gives the extension of such
files.
-/

namespace Registrar

/-- An output format. -/
inductive Format where
  /-- Go code. -/
  | go
  /-- JSON with the given indent, on one line without. -/
  | json (indent : Option String := some "  ")
  deriving DecidableEq, Repr

namespace Format

/-- The key of a format on the command line and in configurations. -/
def key : Format → String
  | go => "go"
  | json _ => "json"

/-- The formats in the order they are offered. -/
def all : List Format :=
  [go, json]

/-- The formats by key. -/
def registry : Registry Format :=
  { name := "renderer", entries := all.map fun f => (f.key, f) }

/-- The extension of files in the format. -/
def extension : Format → String
  | go => ".go"
  | json _ => ".json"

/-- The text of a document. -/
def render : Format → Document → String
  | go, d => d.code
  | json indent, d => d.jsonText indent

/-- The contents of a file with a document; only Go files have a package clause. -/
def renderFile (f : Format) (d : Document) (package : String) : String :=
  match f with
  | go => d.codeFile package
  | json _ => f.render d

end Format

end Registrar
