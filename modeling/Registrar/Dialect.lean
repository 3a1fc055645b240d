import Registrar.Text.Template

/-!
# Dialects of registration code

A dialect names the registries and maps of the generated code and holds the templates of the
expressions that reach a symbol. Any of its texts can be missing: a missing name is printed as
`None`, a missing template fails when it is used. What the attributes lead to that a template takes
of a package or a symbol is given from outside.
-/

namespace Registrar

/-- Names and templates used in registration code. -/
structure Dialect where
  /-- The registry of values. -/
  valueRegistry : Option String := some "env.Packages"
  /-- The registry of types. -/
  typeRegistry : Option String := some "env.PackageTypes"
  /-- The type of the map of values. -/
  valueMap : Option String := some "map[string]reflect.Value"
  /-- The type of the map of types. -/
  typeMap : Option String := some "map[string]reflect.Type"
  /-- The template of the expression that reads a value. -/
  valueAccessor : Option String := some "reflect.ValueOf(\x7bpackage\x7d.\x7bsymbol\x7d)"
  /-- The template of the expression that reads a type. -/
  typeAccessor : Option String :=
    some "reflect.TypeOf((*\x7bpackage\x7d.\x7bsymbol\x7d)(nil)).Elem()"
  /-- The imports of a generated file. -/
  imports : List String := ["reflect"]
  deriving DecidableEq, Repr

/-- Why an accessor expression cannot be written. -/
inductive AccessorError where
  /-- The dialect has no such template. -/
  | missing
  /-- The template fails. -/
  | template (e : Text.Template.Error)
  deriving DecidableEq, Repr

namespace Dialect

/-- The values that the fields of an accessor template stand for. -/
def fieldValue (package symbol : String) (name : String) : Option String :=
  if name = "package" then some package
  else if name = "symbol" then some symbol
  else none

section Expressions

variable (attributes : Text.Template.Attributes)

/-- The expression of a template for a symbol of a package. -/
def expression (template : Option String) (package symbol : String) :
    Except AccessorError String :=
  match template with
  | none => .error .missing
  | some t => (Text.Template.expand attributes (fieldValue package symbol) t).mapError .template

/-- The expression that reads a constant, variable or function. -/
def valueExpression (d : Dialect) (package symbol : String) : Except AccessorError String :=
  expression attributes d.valueAccessor package symbol

/-- The expression that reads a type. -/
def typeExpression (d : Dialect) (package symbol : String) : Except AccessorError String :=
  expression attributes d.typeAccessor package symbol

end Expressions

/-- A template of the dialect takes an attribute. -/
def takesAttribute (d : Dialect) : Bool :=
  d.valueAccessor.any Text.Template.takesAttribute ||
    d.typeAccessor.any Text.Template.takesAttribute

/-- A name of the dialect as it is printed. -/
def shown (name : Option String) : String :=
  name.getD "None"

end Dialect

end Registrar
