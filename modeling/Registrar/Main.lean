import Registrar.Places

/-!
# The program

Reads the places of a request into a tree of files, runs the request on the tree, and writes back
the files and directories that are new or changed.
-/

namespace Registrar.Program

/-- Puts an entry into a tree unless something is there. -/
def putNew (files : FileTree) (names : List String) (e : Entry) : FileTree :=
  if (files.root.at? names).isSome then files else files.put names e

/-- The text of the absolute path below the root. -/
def absoluteText (names : List String) : String :=
  "/" ++ "/".intercalate names

/-- Adds what there is at a place to a tree; what cannot be read is left out. -/
partial def readPlace (names : List String) (depth : Depth) (files : FileTree) :
    IO FileTree := do
  try
    let path ← IO.FS.realPath (absoluteText names)
    if ← path.isDir then
      let mut files := putNew files names (.dir [])
      if depth ≠ .itself then
        for child in ← path.readDir do
          let childNames := names ++ [child.fileName]
          if ← child.path.isDir then
            if depth = .all then files ← readPlace childNames depth files
            else files := putNew files childNames (.dir [])
          else files ← readPlace childNames depth files
      return files
    else return putNew files names (.file (← IO.FS.readBinFile path).toList)
  catch _ => return files

/-- Adds what there is at a path and on the way to it. -/
def readPath (files : FileTree) (place : String × Depth) : IO FileTree := do
  let names := ((Path.ofText place.1).absolute files.home).parts
  let mut files := files
  for n in List.range names.length do
    files ← readPlace (names.take n) .itself files
  readPlace names place.2 files

/-- Writes what is new or changed in a tree. -/
def writeBack (before after : FileTree) : IO Unit := do
  let oldDirs := before.root.dirs []
  for names in after.root.dirs [] do
    unless oldDirs.contains names do IO.FS.createDirAll (absoluteText names)
  let oldFiles := before.root.files []
  for (names, content) in after.root.files [] do
    unless oldFiles.contains (names, content) do
      IO.FS.writeBinFile (absoluteText names) ⟨content.toArray⟩

/-- The tree of the files that a request reads. -/
def readRequest (host : Host) (r : CommandLine.Request) (home : List String) : IO FileTree := do
  let start : FileTree := { root := (Entry.dir []).put (.dir []) home, home }
  let configured ← ((r.settings?.map (Settings.places host)).getD []).foldlM readPath start
  (r.places host configured).foldlM readPath configured

/-- The host on which the user has a home directory. -/
def hostOf (home : Option String) : Host :=
  { userHome := fun name => if name = "~" then home else none }

/-- The request of some arguments, none where there is no command to run. -/
def requestOf (args : List String) : CommandLine.Request :=
  match CommandLine.parse args with
  | .ok r => r
  | .error _ => .none

end Registrar.Program

open Registrar in
/-- Runs the program. -/
def main (args : List String) : IO UInt32 := do
  let home := pathParts (← IO.currentDir).toString
  let host := Program.hostOf (← IO.getEnv "HOME")
  let before ← Program.readRequest host (Program.requestOf args) home
  let outcome := CommandLine.run host args before
  Program.writeBack before outcome.files
  IO.print outcome.output
  IO.eprint outcome.errors
  match outcome.status with
  | .ok status => return UInt32.ofNat status
  | .error f =>
    IO.eprintln f.text
    return 1
