import Registrar.Yaml.Date
import Registrar.Yaml.Number

/-!
# Kinds of YAML values

A tag names the kind of a value. A plain scalar without a tag is of the first kind that its text
has the form of, and a text otherwise.
-/

namespace Registrar.Yaml

open Text (Pattern)
open Text.Pattern

/-- The kind of a value. -/
inductive Tag where
  | null
  | truth
  | whole
  | fraction
  | bytes
  | date
  | text
  | list
  | map
  | set
  /-- A list of mappings with one entry each, or of such entries. -/
  | pairs
  /-- The key that merges other mappings. -/
  | merge
  /-- The key of a mapping's main value. -/
  | main
  /-- A kind that is not known. -/
  | unknown
  deriving DecidableEq, Repr

namespace Tag

/-- What the handle of two exclamation marks stands for. -/
def standard : String := "tag:yaml.org,2002:"

/-- The known kinds by their names. -/
def known : List (String × Tag) :=
  [("null", null), ("bool", truth), ("int", whole), ("float", fraction), ("binary", bytes),
   ("timestamp", date), ("str", text), ("seq", list), ("map", map), ("set", set),
   ("omap", pairs), ("pairs", pairs), ("merge", merge), ("value", main)]

/-- The kind that a tag names. -/
def ofText (name : String) : Tag :=
  match known.find? fun k => standard ++ k.1 = name with
  | some k => k.2
  | none => unknown

/-- The plain scalars that are truth values. -/
def truthWords : Pattern :=
  anyWord ["yes", "Yes", "YES", "no", "No", "NO", "true", "True", "TRUE", "false", "False",
    "FALSE", "on", "On", "ON", "off", "Off", "OFF"]

/-- The plain scalars that are nothing. -/
def nullWords : Pattern :=
  anyWord ["~", "null", "Null", "NULL", ""]

/-- The kinds of plain scalars with their forms. -/
def forms : List (Pattern × Tag) :=
  [(truthWords, truth), (Number.fraction, fraction), (Number.whole, whole), (word "<<", merge),
   (nullWords, null), (Date.plain, date), (char '=', main)]

/-- A text has a form; a newline at its end is passed over. -/
def hasForm (form : Pattern) (s : List Char) : Bool :=
  form.accepts s ||
    (s.getLast? == some '\n' && !s.dropLast.isEmpty && form.accepts s.dropLast)

/-- The kind of a plain scalar. -/
def ofPlain (s : List Char) : Tag :=
  match forms.find? fun f => hasForm f.1 s with
  | some f => f.2
  | none => text

end Tag

end Registrar.Yaml
