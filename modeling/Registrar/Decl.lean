import Registrar.Text.Uppercase

/-!
# Declarations of a Go file

A top level declaration is a group of constants, variables or types, or it is a function. A
group lists specs, and every spec introduces names; the group and each of its specs can carry a
doc comment of their own. A name is exported when its first character is an upper-case letter.
-/

namespace Registrar

/-- A name that other packages can use: its first character has the property Uppercase. -/
def isExported (name : String) : Bool :=
  match name.toList with
  | [] => false
  | c :: _ => Text.isUppercase c

/-- One spec of a declaration group. -/
structure Spec where
  /-- The names introduced, in source order. -/
  names : List String
  /-- The text of the doc comment above the spec. -/
  doc : Option String := none
  /-- The line of the first name. -/
  line : Int := 0
  deriving DecidableEq, Repr

/-- The exported names of a spec. -/
def Spec.exported (s : Spec) : List String :=
  s.names.filter isExported

/-- What a declaration group declares. -/
inductive GroupKind where
  | const
  | var
  | type
  deriving DecidableEq, Repr

/-- What a declaration introduces. -/
inductive Decl.Body where
  /-- A `const`, `var` or `type` declaration with its specs. -/
  | group (kind : GroupKind) (specs : List Spec)
  /-- A function, or a method when it has a receiver. -/
  | func (name : String) (isMethod : Bool)
  deriving DecidableEq, Repr

/-- A top level declaration. -/
structure Decl where
  /-- What it introduces. -/
  body : Decl.Body
  /-- The text of the doc comment above it. -/
  doc : Option String := none
  /-- The file it stands in. -/
  path : String := ""
  /-- The line of its keyword. -/
  line : Int := 0
  deriving DecidableEq, Repr

/-- Every name that a declaration introduces. -/
def Decl.names (d : Decl) : List String :=
  match d.body with
  | .group _ specs => specs.flatMap Spec.names
  | .func name _ => [name]

end Registrar
