import Registrar.Go.Listing
import Registrar.Go.Source

/-!
# Reading Go files and directories

The syntax tree of a source comes from a reader of trees, which can be any. A file without a tree is
rejected as a whole, without a position, and a file whose tree has faults at the first of them. A
directory is rejected with the first of its files, in path order, that is; otherwise its files are
gathered into packages by their clauses.
-/

namespace Registrar.Go

open Text.Utf8 (Bytes)

/-- Why files cannot be turned into declarations: the system or the grammar rejects one, or a
path is no path at all. -/
inductive ReadError where
  | parse (e : ParseError)
  | path (e : FileError)
  deriving DecidableEq, Repr

/-- A failure of the system as the rejection of a file or directory; a path that never reached
the system stays what it is. -/
def ReadError.ofFile (path : String) (reason : FileError → ParseError.Reason) (e : FileError) :
    ReadError :=
  if e.isSystem then .parse { path, reason := reason e } else .path e

/-- Gives the syntax tree of a source, and none if the grammar refuses it. -/
abbrev TreeReader := Bytes → Option Node

variable (read : TreeReader)

/-- The source file of a text. -/
def parseSource (source : Bytes) (path : String) : Except ParseError SourceFile :=
  match read source with
  | none => .error { path, reason := .refused }
  | some root => sourceFileOf source path root

/-- The source file at a path. -/
def parseFile (tree : FileTree) (path : String) : Except ReadError SourceFile := do
  let source ← (tree.read path).mapError (.ofFile path .file)
  (parseSource read source path).mapError .parse

/-- The source files of a directory in path order. -/
def parseFiles (tree : FileTree) (directory : String) : Except ReadError (List SourceFile) := do
  let paths ← (listGoFiles tree directory).mapError (.ofFile directory .directory)
  paths.mapM (parseFile read tree)

/-- The packages of a directory. -/
def parseDir (tree : FileTree) (directory : String) : Except ReadError SourceTree := do
  return SourceTree.ofFiles (← parseFiles read tree directory)

end Registrar.Go
