import Registrar.CommandLine

/-!
# The places that a request reads

A request runs on a tree of files. So that the tree need not hold more than the request looks
at, the places are named here: first those of the configuration, and when that is known those of
the sources and of the output.
-/

namespace Registrar

/-- How much of a place is read. -/
inductive Depth where
  /-- A file, or that there is a directory. -/
  | itself
  /-- A file, or a directory with the files in it. -/
  | files
  /-- A file, or a directory with everything below it. -/
  | all
  deriving DecidableEq, Repr

namespace Settings

/-- The places of the configuration, none if it is named by a home directory that nobody knows. -/
def places (host : Host) (s : Settings) : List (String × Depth) :=
  match (Path.ofText s.config).expandHome host.userHome with
  | none => []
  | some path =>
    [(path.toText, .itself), ((path.join (Path.ofText Config.fileName)).toText, .itself)]

end Settings

namespace Walk

/-- The places of the sources and of the output, when the configuration is known. -/
def places (w : Walk) (c : Config) : List (String × Depth) :=
  let sources :=
    if c.packages.isEmpty then [(w.root, Depth.all)]
    else (w.root, .itself) :: c.packages.map fun e => (joinPath w.root e.directory, .files)
  sources ++ (w.outDir? c).toList.map fun out => (out.toText, .files)

end Walk

namespace CommandLine.Request

/-- The settings of a request. -/
def settings? : Request → Option Settings
  | generate g => some g.settings
  | walk w => some w.settings
  | none => Option.none

/-- The places that are read once the configuration is there. -/
def places (host : Host) (r : Request) (files : FileTree) : List (String × Depth) :=
  match r with
  | generate g => [(joinPath g.root g.directory, .files)]
  | walk w =>
    match w.settings.loadConfig host files with
    | .ok c => w.places c
    | .error _ => [(w.root, .itself)]
  | none => []

end CommandLine.Request

end Registrar
