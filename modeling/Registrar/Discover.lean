import Registrar.Go.Listing
import Registrar.PackageEntry

/-!
# Finding packages

Every directory below a root that holds a Go file is a package, whose path is the way to it.
Test data, vendored code and directories that start with a point or an underscore are not looked
into. A directory comes before everything below it, and directories side by side are in order.
-/

namespace Registrar

/-- A directory that is not looked into. -/
def isPassedOver (name : String) : Bool :=
  name = "testdata" || name = "vendor" || name.startsWith "." || name.startsWith "_"

/-- A directory with a Go file in it. -/
def holdsGoFiles : Entry → Bool
  | .file _ => false
  | .dir children => children.any fun c => Go.isEligible (c.1, c.2.isDir)

mutual

/-- The ways from an entry to the packages below it. -/
def packageWays : Entry → List (List String)
  | .file _ => []
  | .dir children =>
    ((waysByName children).foldr (fun c l => NameMap.insertEntry c.1 c.2 l) []).flatMap Prod.snd

/-- The ways to the packages in and below each child that is looked into. -/
def waysByName : List (String × Entry) → List (String × List (List String))
  | [] => []
  | (name, e) :: rest =>
    if e.isDir && !isPassedOver name then
      (name, (if holdsGoFiles e then [[name]] else []) ++ (packageWays e).map (name :: ·)) ::
        waysByName rest
    else waysByName rest

end

/-- The packages below a root. A root that cannot be listed has none. -/
def discover (tree : FileTree) (root : String) : Except FileError (List PackageEntry) :=
  match tree.entry root with
  | .ok e => .ok ((packageWays e).map fun way => { path := "/".intercalate way })
  | .error e => if e.isSystem then .ok [] else .error e

end Registrar
