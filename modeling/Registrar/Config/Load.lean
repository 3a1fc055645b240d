import Registrar.Config
import Registrar.FileTree
import Registrar.Host
import Registrar.Text.Blank

/-!
# Loading configurations

A configuration is named by its file, or by the directory of a file with the usual name; without
a name it is looked for in the working directory. A tilde at the start of the name stands for a home
directory. Where there is no file, all settings have their defaults.
-/

namespace Registrar.Config

open Text.Utf8 (Bytes)

/-- The usual name of a configuration file. -/
def fileName : String := ".bindgen.yml"

/-- There is nothing at a path, as opposed to the path being none. -/
def isAbsence (e : FileError) : Bool :=
  e = .notFound || e = .notDirectory

/-- The absolute path of the configuration file that a path without a tilde stands for. -/
def fileAt (tree : FileTree) (path : Path) : Except FileError Path :=
  match tree.entry path.toText with
  | .ok e => .ok ((if e.isDir then path.join (Path.ofText fileName) else path).absolute tree.home)
  | .error e => if isAbsence e then .ok (path.absolute tree.home) else .error e

section Hosts

variable (host : Host)

/-- The absolute path of the configuration file that a path stands for. -/
def locate (tree : FileTree) (path : Path) : Except Error Path :=
  match path.expandHome host.userHome with
  | none => .error .noHome
  | some path => (fileAt tree path).mapError .file

/-- The configuration in the contents of a file. -/
def ofBytes (root : Path) (file : String) (content : Bytes) : Except Error Config := do
  match Text.Utf8.decode? content with
  | none => throw .notUtf8
  | some text =>
    if text.all Text.isBlank then ofSettings root []
    else match host.readValue text with
      | .ok v => ofValue root file v
      | .error .malformed => throw (.rejected (.notYaml file (host.explain text)))
      | .error f => throw (.noValue f)

/-- Loads the configuration that a path stands for. -/
def load (tree : FileTree) (path : Option String) : Except Error Config := do
  let file ← locate host tree (Path.ofText (path.getD ""))
  match tree.entry file.toText with
  | .error e => if isAbsence e then return { root := file.parent } else throw (.file e)
  | .ok _ => ofBytes host file.parent file.name (← (tree.read file.toText).mapError .file)

end Hosts

end Registrar.Config
