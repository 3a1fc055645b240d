import Registrar.FileTree

/-!
# The Go files of a directory

Only some entries of a directory describe its public surface: test files, fuzz harnesses and
examples are left out, and so are directories, whatever they are called.
-/

namespace Registrar.Go

/-- An entry of a directory that is not left out. -/
def isGoFile (name : String) (isDir : Bool) : Bool :=
  !isDir && name ≠ "fuzz.go" && !("_test.go".toList.isSuffixOf name.toList) &&
    !("example_".toList.isPrefixOf name.toList)

/-- An entry of a directory that is read: a Go file by its name that is not left out. -/
def isEligible (entry : String × Bool) : Bool :=
  ".go".toList.isSuffixOf entry.1.toList && isGoFile entry.1 entry.2

/-- The paths of the Go files of a directory in increasing order. -/
def listGoFiles (tree : FileTree) (directory : String) : Except FileError (List String) := do
  let entries ← tree.list directory
  pure (sortNames ((entries.filter isEligible).map fun e => joinPath directory e.1))

end Registrar.Go
