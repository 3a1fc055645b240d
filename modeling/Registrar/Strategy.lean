import Registrar.Package
import Registrar.Registry

/-!
# Choosing the package of a directory

A directory can hold several packages. Those named `main` or ending in `_test` are no
candidates; a strategy picks one of the rest. The strict strategy refuses to choose between
several candidates, the first strategy takes the smallest.
-/

namespace Registrar

/-- A package name that can describe the public surface of its directory. -/
def isCandidate (name : String) : Bool :=
  name ≠ "main" && !("_test".toList.isSuffixOf name.toList)

/-- The candidates of a source tree in increasing order. -/
def candidatePackages (tree : SourceTree) : List String :=
  tree.keys.filter isCandidate

/-- A way to choose between candidates. -/
inductive Strategy where
  /-- At most one candidate is allowed. -/
  | strict
  /-- The smallest candidate is taken. -/
  | first
  deriving DecidableEq, Repr

namespace Strategy

/-- The key of a strategy on the command line and in configurations. -/
def key : Strategy → String
  | strict => "strict"
  | first => "first"

/-- The strategies in the order they are offered. -/
def all : List Strategy :=
  [strict, first]

/-- The strategies by key. -/
def registry : Registry Strategy :=
  { name := "strategy", entries := all.map fun s => (s.key, s) }

/-- The chosen candidate, none when there is no candidate; the error carries the candidates
between which the strategy refuses to choose. -/
def choose : Strategy → List String → Except (List String) (Option String)
  | _, [] => .ok none
  | strict, c :: d :: rest => .error (c :: d :: rest)
  | _, c :: _ => .ok (some c)

/-- The chosen package of a source tree. -/
def select (s : Strategy) (tree : SourceTree) : Except (List String) (Option Package) := do
  match ← s.choose (candidatePackages tree) with
  | none => pure none
  | some name => pure (tree.get? name)

end Strategy

end Registrar
