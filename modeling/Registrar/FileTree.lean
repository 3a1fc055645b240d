import Registrar.FileError
import Registrar.FileTree.Path
import Registrar.NameMap
import Registrar.Text.Utf8

/-!
# File trees

A file tree is a value: the directories and files below the root, and the working directory
against which relative paths are read. Looking up a path goes part by part from the directory it
starts in, and fails at the first part that is too long, is not there, or stands below a file.
Operations that write return the changed tree.
-/

namespace Registrar

open Text.Utf8 (Bytes)

/-- A file or a directory. -/
inductive Entry where
  | file (content : Bytes)
  | dir (children : List (String × Entry))

namespace Entry

/-- The entry is a directory. -/
def isDir : Entry → Bool
  | file _ => false
  | dir _ => true

/-- The child of a name. -/
def child? (name : String) : Entry → Option Entry
  | file _ => none
  | dir children => (children.find? fun c => c.1 = name).map Prod.snd

/-- The entry below a list of names. -/
def at? (e : Entry) : List String → Option Entry
  | [] => some e
  | name :: rest =>
    match e.child? name with
    | none => none
    | some c => c.at? rest

/-- Puts an entry below a list of names, making directories on the way; a file on the way stays
as it is. -/
def put (new : Entry) (e : Entry) : List String → Entry
  | [] => new
  | name :: rest =>
    match e with
    | file content => file content
    | dir children =>
      dir (NameMap.insertEntry name (put new ((e.child? name).getD (dir [])) rest) children)

/-- Removes the entry below a list of names. -/
def remove (e : Entry) : List String → Entry
  | [] => e
  | [name] =>
    match e with
    | file content => file content
    | dir children => dir (children.filter fun c => c.1 ≠ name)
  | name :: rest =>
    match e.child? name with
    | none => e
    | some c => put (c.remove rest) e [name]

mutual

/-- The files below an entry with the names that lead to them. -/
def files (names : List String) : Entry → List (List String × Bytes)
  | file content => [(names, content)]
  | dir children => filesOf names children

/-- The files below the children of a directory. -/
def filesOf (names : List String) : List (String × Entry) → List (List String × Bytes)
  | [] => []
  | (name, e) :: rest => files (names ++ [name]) e ++ filesOf names rest

end

mutual

/-- The directories below an entry, and the entry itself, by the names that lead to them. -/
def dirs (names : List String) : Entry → List (List String)
  | file _ => []
  | dir children => names :: dirsOf names children

/-- The directories among the children of a directory and below them. -/
def dirsOf (names : List String) : List (String × Entry) → List (List String)
  | [] => []
  | (name, e) :: rest => dirs (names ++ [name]) e ++ dirsOf names rest

end

end Entry

/-- A root directory and a working directory. -/
structure FileTree where
  /-- The root directory. -/
  root : Entry
  /-- The names that lead from the root to the working directory. -/
  home : List String

namespace FileTree

/-- The longest name in bytes. -/
def nameLimit : Nat := 255

/-- The longest path text in bytes. -/
def pathLimit : Nat := 4095

/-- One step of a lookup: from the directory below some names to the part's entry. -/
def step (tree : FileTree) (names : List String) (part : String) :
    Except FileError (List String) :=
  match tree.root.at? names with
  | none => .error .notFound
  | some (.file _) => .error .notDirectory
  | some (.dir _) =>
    if part = "." then .ok names
    else if part = ".." then .ok names.dropLast
    else if nameLimit < part.utf8ByteSize then .error .nameTooLong
    else if (tree.root.at? (names ++ [part])).isNone then .error .notFound
    else .ok (names ++ [part])

/-- The names where a path text starts. -/
def start (tree : FileTree) (text : String) : List String :=
  if text.startsWith "/" then [] else tree.home

/-- What is wrong with a path text before any lookup. -/
def checkText (text : String) : Except FileError Unit :=
  if text.toList.contains '\x00' then .error .zeroInPath
  else if text = "" then .error .notFound
  else if pathLimit < text.utf8ByteSize then .error .nameTooLong
  else .ok ()

/-- The names of what a path leads to. A slash at its end asks for a directory. -/
def locate (tree : FileTree) (text : String) : Except FileError (List String) := do
  checkText text
  let names ← (pathParts text).foldlM tree.step (tree.start text)
  if text.endsWith "/" then tree.step names "." else pure names

/-- The entry that a path leads to. -/
def entry (tree : FileTree) (text : String) : Except FileError Entry := do
  match tree.root.at? (← tree.locate text) with
  | none => .error .notFound
  | some e => pure e

/-- The path leads to a directory. -/
def isDir (tree : FileTree) (text : String) : Bool :=
  match tree.entry text with
  | .ok e => e.isDir
  | .error _ => false

/-- The names in a directory, each with whether it is a directory itself. -/
def list (tree : FileTree) (text : String) : Except FileError (List (String × Bool)) := do
  match ← tree.entry text with
  | .file _ => .error .notDirectory
  | .dir children => pure (children.map fun c => (c.1, c.2.isDir))

/-- The contents of a file. -/
def read (tree : FileTree) (text : String) : Except FileError Bytes := do
  match ← tree.entry text with
  | .file content => pure content
  | .dir _ => .error .isDirectory

/-- The names of a path whose last part need not exist. -/
def locateNew (tree : FileTree) (text : String) : Except FileError (List String) := do
  checkText text
  match (pathParts text).getLast? with
  | none => tree.locate text
  | some last =>
    let names ← (pathParts text).dropLast.foldlM tree.step (tree.start text)
    match tree.step names last with
    | .ok names => pure names
    | .error .notFound => pure (names ++ [last])
    | .error e => .error e

/-- The tree with an entry below a list of names. -/
def put (tree : FileTree) (names : List String) (e : Entry) : FileTree :=
  { tree with root := e.put tree.root names }

/-- Writes a file whose directory exists. -/
def write (tree : FileTree) (text : String) (content : Bytes) : Except FileError FileTree := do
  let names ← tree.locateNew text
  match tree.root.at? names with
  | some (.dir _) => .error .isDirectory
  | _ => pure (tree.put names (.file content))

/-- Makes a directory whose parent exists. -/
def makeDir (tree : FileTree) (text : String) : Except FileError FileTree := do
  let names ← tree.locateNew text
  match tree.root.at? names with
  | some _ => .error .alreadyExists
  | none => pure (tree.put names (.dir []))

/-- Makes a directory unless it is there. -/
def ensureDir (tree : FileTree) (text : String) : Except FileError FileTree :=
  match tree.makeDir text with
  | .error e => if tree.isDir text then .ok tree else .error e
  | .ok tree => .ok tree

/-- Makes the directory of the first `count` parts of a path, and those above it when its
parent is missing. -/
def makeDirsUpTo (tree : FileTree) (p : Path) : Nat → Except FileError FileTree
  | 0 => tree.ensureDir (Path.toText { p with parts := [] })
  | count + 1 =>
    let here := Path.toText { p with parts := p.parts.take (count + 1) }
    match tree.makeDir here with
    | .ok tree => .ok tree
    | .error .notFound => do
      (← makeDirsUpTo tree p count).ensureDir here
    | .error e => if tree.isDir here then .ok tree else .error e

/-- Makes the directory of a path and those above it. -/
def makeDirs (tree : FileTree) (p : Path) : Except FileError FileTree :=
  tree.makeDirsUpTo p p.parts.length

/-- Removes a file. -/
def remove (tree : FileTree) (text : String) : Except FileError FileTree := do
  let names ← tree.locate text
  match tree.root.at? names with
  | some (.dir _) => .error .isDirectory
  | _ => pure { tree with root := tree.root.remove names }

/-- The files below the working directory, by the names that lead to them from there. -/
def homeFiles (tree : FileTree) : List (List String × Bytes) :=
  match tree.root.at? tree.home with
  | none => []
  | some e => e.files []

end FileTree

end Registrar
