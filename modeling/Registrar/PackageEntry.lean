import Registrar.Text.Lines
import Registrar.Text.Uppercase

/-!
# Packages to generate

An entry names a package by its import path and may say where its files are and how its
registration function is called. Both have defaults that are read off the path.
-/

namespace Registrar

/-- A package to generate. -/
structure PackageEntry where
  /-- The import path. -/
  path : String
  /-- The directory below the source root. -/
  dir : Option String := none
  /-- What follows `init` in the name of the registration function. -/
  init : Option String := none
  deriving DecidableEq, Repr

/-- A character that parts the words of an import path. -/
def isWordBreak (c : Char) : Bool :=
  c == '/' || c == '-' || c == '.' || c == '_'

/-- The words of an import path. -/
def pathWords (path : List Char) : List (List Char) :=
  (Text.splitAt '/' (path.map fun c => if isWordBreak c then '/' else c)).filter
    fun word => !word.isEmpty

/-- A word with its first character in upper case. -/
def capitalize : List Char → List Char
  | [] => []
  | c :: rest => Text.upper c ++ rest

/-- The default suffix of a registration function: the words of the path, capitalized. -/
def initSuffixFor (path : String) : String :=
  String.ofList ((pathWords path.toList).flatMap capitalize)

/-- The name of the file that the registration function of a path is written to. -/
def outputFilename (path extension : String) : String :=
  String.ofList (path.toList.map fun c => if c == '/' then '_' else c) ++ extension

namespace PackageEntry

/-- The directory of the files; an empty one counts as missing. -/
def directory (e : PackageEntry) : String :=
  match e.dir with
  | none => e.path
  | some dir => if dir = "" then e.path else dir

/-- What follows `init` in the name of the registration function. -/
def initSuffix (e : PackageEntry) : String :=
  e.init.getD (initSuffixFor e.path)

end PackageEntry

end Registrar
