import Registrar.Decl
import Registrar.NameMap

/-!
# Files, packages and source trees

A package holds the files of one directory that share a package clause, keyed by their paths; a
source tree holds the packages of one directory, keyed by their names. Both are maps in
code-point order, so neither depends on the order in which files were added.
-/

namespace Registrar

/-- The declarations of one parsed file. -/
structure SourceFile where
  /-- The path it was read from. -/
  path : String
  /-- The name in its package clause. -/
  package : String
  /-- Its top level declarations in source order. -/
  declarations : List Decl := []
  deriving DecidableEq, Repr

/-- The files of a directory that share one package clause. -/
structure Package where
  /-- The package name. -/
  name : String
  /-- The files by path. -/
  files : NameMap SourceFile := .empty

namespace Package

/-- Adds a file in the place of an earlier file of the same path. -/
def addFile (p : Package) (file : SourceFile) : Package :=
  { p with files := p.files.insert file.path file }

/-- The declarations of all files, file by file in path order. -/
def declarations (p : Package) : List Decl :=
  p.files.values.flatMap SourceFile.declarations

end Package

/-- The packages of one directory by name. -/
abbrev SourceTree := NameMap Package

/-- Adds a file to the package of its clause. -/
def SourceTree.addFile (tree : SourceTree) (file : SourceFile) : SourceTree :=
  tree.insert file.package (((tree.get? file.package).getD { name := file.package }).addFile file)

/-- The source tree of a list of files. -/
def SourceTree.ofFiles (files : List SourceFile) : SourceTree :=
  files.foldl SourceTree.addFile .empty

end Registrar
