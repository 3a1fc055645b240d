import Registrar.Config.Load
import Registrar.Discover
import Registrar.Generator

/-!
# Commands

`Generate.run` prints the registration code of one package, `Walk.run` writes a file for every
package of a source root. A command works on a tree of files and leaves a changed tree, what it
prints and how it ends: with an exit status, or with a failure that nothing handles.

`Walk.run` compares the names of all files before it writes the first one, so it never writes a
file twice. Both commands run on a host.
-/

namespace Registrar

/-- Something shown while a command runs. -/
inductive Notice where
  /-- A record of a stage. -/
  | record (r : Record)
  /-- A message about a failure. -/
  | failure (text : String)
  deriving DecidableEq, Repr

/-- A notice on one line, none if it is only shown on request and there was none. -/
def Notice.line? (verbose : Bool) : Notice → Option String
  | record r => if verbose || r.isShown then some r.line else none
  | failure text => some ("Error: " ++ text)

/-- What a command leaves. -/
structure Run where
  /-- The files. -/
  files : FileTree
  /-- What it printed. -/
  output : String := ""
  /-- What it showed beside its output, in order. -/
  notices : List Notice := []
  /-- The exit status, or the failure that ended it. -/
  status : Except Fault Nat

namespace Run

/-- The lines of the notices. -/
def report (r : Run) (verbose : Bool) : String :=
  String.join ((r.notices.filterMap (Notice.line? verbose)).map (· ++ "\n"))

/-- A run with notices in front of its own. -/
def behind (notices : List Notice) (r : Run) : Run :=
  { r with notices := notices ++ r.notices }

/-- A run that ends with a message. -/
def stop (files : FileTree) (text : String) (status : Nat) : Run :=
  { files, notices := [.failure text], status := .ok status }

/-- A run that ends with a failure: one that is reported gives the exit status two. -/
def fail (files : FileTree) (f : Fault) : Run :=
  match f.message? with
  | some text => stop files text 2
  | none => { files, status := .error f }

end Run

/-- The options that both commands have. -/
structure Settings where
  /-- The key of the output format. -/
  format : Option String := none
  /-- The configuration file or its directory; empty for the working directory. -/
  config : String := ""
  /-- All records are shown. -/
  verbose : Bool := false
  /-- The key of the strategy. -/
  strategy : Option String := none
  /-- Constants and variables that are left out, beside those of the configuration. -/
  exclude : List String := []
  deriving DecidableEq, Repr

namespace Settings

/-- The first text unless it is empty, else the second. -/
def orElse (first second : String) : String :=
  if first = "" then second else first

/-- The configuration that the settings name. -/
def loadConfig (host : Host) (s : Settings) (files : FileTree) : Except Fault Config :=
  (Config.load host files (if s.config = "" then none else some s.config)).mapError .config

/-- The options of a configuration under the settings. -/
def options (s : Settings) (c : Config) : Generator.Options :=
  { Generator.Options.ofConfig c with
    excluded := c.excluded ++ s.exclude
    strategy := s.strategy.getD c.strategy
    format := s.format.getD c.format }

/-- The generator of a configuration under the settings. -/
def generator (host : Host) (s : Settings) (c : Config) : Except Fault Generator :=
  (Generator.create host (s.options c)).mapError .unknownKey

end Settings

/-- The command that prints the registration code of one package. -/
structure Generate where
  settings : Settings := {}
  /-- The source root. -/
  root : String
  /-- The import path. -/
  path : String
  /-- The directory below the root; empty for the path. -/
  dir : String := ""
  /-- What follows `init` in the function's name, read off the path unless given. -/
  init : Option String := none
  deriving DecidableEq, Repr

namespace Generate

/-- The directory below the root. -/
def directory (g : Generate) : String :=
  Settings.orElse g.dir g.path

/-- What follows `init` in the function's name. -/
def initSuffix (g : Generate) : String :=
  g.init.getD (initSuffixFor g.path)

/-- Prints the code with a generator. -/
def print (g : Generate) (generator : Generator) (files : FileTree) : Run :=
  let run : Run :=
    match generator.generate files g.root g.path g.directory g.initSuffix with
    | .ok text => { files, output := text, status := .ok 0 }
    | .error f => .fail files f
  run.behind ((generator.records files g.root g.directory).map .record)

/-- Runs the command. -/
def run (host : Host) (g : Generate) (files : FileTree) : Run :=
  let full := joinPath g.root g.directory
  if !files.isDir full then .stop files ("Directory not found: " ++ full) 1
  else match g.settings.loadConfig host files >>= g.settings.generator host with
    | .error f => .fail files f
    | .ok generator => g.print generator files

end Generate

/-- The command that writes a file for every package. -/
structure Walk where
  settings : Settings := {}
  /-- The source root. -/
  root : String
  /-- The output directory; empty for the one of the configuration. -/
  out : String := ""
  /-- The package clause of the files; empty for the one of the configuration. -/
  package : String := ""
  /-- Packages that fail are passed over. -/
  keepGoing : Bool := false
  deriving DecidableEq, Repr

namespace Walk

/-- What a walk needs to know of its settings and configuration. -/
structure Plan where
  generator : Generator
  /-- The output directory. -/
  out : Path
  /-- The package clause of the files. -/
  package : String
  /-- The packages. -/
  entries : List PackageEntry

/-- The name of the file of a package. -/
def Plan.fileName (p : Plan) (e : PackageEntry) : String :=
  outputFilename e.path p.generator.format.extension

/-- The first package whose file has the name of an earlier one's file, behind that one; the
packages in front are given with the names of their files. -/
def Plan.collision? (p : Plan) (seen : List (String × PackageEntry)) :
    List PackageEntry → Option (PackageEntry × PackageEntry)
  | [] => none
  | e :: rest =>
    match seen.lookup (p.fileName e) with
    | some earlier => some (earlier, e)
    | none => p.collision? ((p.fileName e, e) :: seen) rest

/-- Writes the file of a package. -/
def Plan.writeDocument (p : Plan) (files : FileTree) (e : PackageEntry) (d : Document) :
    Except Fault (FileTree × Record) := do
  let target := (p.out.join (Path.ofText (p.fileName e))).toText
  let text := p.generator.format.renderFile d p.package
  let files ← (files.write target (Text.Utf8.encode text)).mapError .file
  return (files, ⟨.info, "bindgen", "Wrote " ++ target⟩)

/-- What becomes of a package of a walk. -/
inductive Outcome where
  /-- The walk ends with a failure. -/
  | stopped (f : Fault)
  /-- The package fails with a message and is passed over. -/
  | passedOver (text : String)
  /-- The package exports nothing. -/
  | skipped
  /-- The file of the package is written. -/
  | wrote (d : Document) (files : FileTree) (r : Record)

/-- What becomes of a package, given the files that the walk has come to. -/
def Plan.outcome (w : Walk) (p : Plan) (files : FileTree) (e : PackageEntry) : Outcome :=
  match p.generator.build files w.root e.path e.directory e.initSuffix with
  | .error f =>
    match w.keepGoing, f.message? with
    | true, some text => .passedOver text
    | _, _ => .stopped f
  | .ok none => .skipped
  | .ok (some d) =>
    match p.writeDocument files e d with
    | .error f => .stopped f
    | .ok (files, r) => .wrote d files r

/-- Writes the file of the next package and goes on with the rest. -/
def Plan.writeNext (w : Walk) (p : Plan) (failed : Bool) (files : FileTree) (e : PackageEntry)
    (writeRest : Bool → FileTree → Run) : Run :=
  let run : Run :=
    match p.outcome w files e with
    | .stopped f => .fail files f
    | .passedOver text =>
      (writeRest true files).behind
        [.record ⟨.error, "bindgen", "Skipping " ++ e.path ++ ": " ++ text⟩]
    | .skipped =>
      (writeRest failed files).behind
        [.record ⟨.debug, "bindgen", "Nothing to export from " ++ e.path⟩]
    | .wrote _ files r => (writeRest failed files).behind [.record r]
  run.behind ((p.generator.records files w.root e.directory).map .record)

/-- Writes the files of packages, one after the other. The status says whether one was passed
over. -/
def Plan.writeAll (w : Walk) (p : Plan) (failed : Bool) (files : FileTree) :
    List PackageEntry → Run
  | [] => { files, status := .ok (if failed then 2 else 0) }
  | e :: rest => p.writeNext w failed files e fun failed files => writeAll w p failed files rest

/-- Writes the files of a plan, unless two have the same name. -/
def Plan.run (w : Walk) (p : Plan) (files : FileTree) : Run :=
  match p.collision? [] p.entries with
  | some (earlier, e) =>
    .stop files (earlier.path ++ " and " ++ e.path ++ " would both be written to " ++
      p.fileName e) 2
  | none => Plan.writeAll w p false files p.entries

/-- The packages of a configuration, or those found below the root if it names none. -/
def entries (w : Walk) (c : Config) (files : FileTree) : Except Fault (List PackageEntry) :=
  if c.packages.isEmpty then (discover files w.root).mapError .file else .ok c.packages

/-- The plan of a walk, made when its output directory is there. -/
def plan (host : Host) (w : Walk) (c : Config) (out : Path) (files : FileTree) :
    Except Fault Plan := do
  let generator ← w.settings.generator host c
  let entries ← w.entries c files
  return { generator, out, package := Settings.orElse w.package c.output.package, entries }

/-- The output directory of a walk. -/
def outDir? (w : Walk) (c : Config) : Option Path :=
  if w.out = "" then c.output.directory else some (Path.ofText w.out)

/-- Runs the command. -/
def run (host : Host) (w : Walk) (files : FileTree) : Run :=
  if !files.isDir w.root then .stop files ("Directory not found: " ++ w.root) 1
  else match w.settings.loadConfig host files with
    | .error f => .fail files f
    | .ok c =>
      match w.outDir? c with
      | none =>
        .stop files "No output directory. Pass --out or set output.directory." 1
      | some out =>
        match files.makeDirs out with
        | .error e => .fail files (.file e)
        | .ok files =>
          match w.plan host c out files with
          | .error f => .fail files f
          | .ok p => p.run w files

end Walk

end Registrar
