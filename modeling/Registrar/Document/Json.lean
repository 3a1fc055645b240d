import Registrar.Document
import Registrar.Text.Json

/-!
# Registration documents as JSON

The JSON form holds the function name, the import path, the package name, the bindings of the
value sections by name and the bindings of the types, in this order.
-/

namespace Registrar.Document

open Text (Json)

/-- The JSON form of a list of bindings. -/
def bindingsJson (bindings : List Binding) : Json :=
  .list (bindings.map fun b => .object [("symbol", .text b.symbol), ("accessor", .text b.accessor)])

/-- The JSON form of a document. -/
def toJson (d : Document) : Json :=
  .object [
    ("init", .text d.initName),
    ("path", .text d.packagePath),
    ("package", .text d.packageName),
    ("values", .object (d.valuesByName.map fun s => (s.1, bindingsJson s.2))),
    ("types", bindingsJson d.typeSection.bindings)]

/-- The JSON text of a document, ended by a newline; without an indent it is one line. -/
def jsonText (d : Document) (indent : Option String) : String :=
  String.ofList (d.toJson.write (indent.map String.toList) 0) ++ "\n"

end Registrar.Document
