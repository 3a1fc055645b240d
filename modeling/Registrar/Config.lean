import Registrar.Dialect
import Registrar.FileError
import Registrar.FileTree.Path
import Registrar.PackageEntry
import Registrar.Yaml.Value

/-!
# Configurations

A configuration is read from a mapping of settings. A setting that is absent or null has its
default, and so has an empty text where a name is asked for. Settings of unknown names are
passed over, except in the dialect. `Config.ofValue` checks the settings in a fixed order, so of
several wrong ones the same one is reported always.
-/

namespace Registrar

open Yaml (Value)

/-- Where generated files go. -/
structure Output where
  /-- The package clause of the files. -/
  package : String := "packages"
  /-- The directory they are written to. -/
  directory : Option Path := none
  deriving DecidableEq, Repr

/-- All settings. -/
structure Config where
  /-- The directory of the configuration file. -/
  root : Path
  /-- Constants and variables that are left out. -/
  excluded : List String := []
  /-- The key of the strategy. -/
  strategy : String := "strict"
  /-- The key of the output format. -/
  format : String := "go"
  /-- The dialect of generated code. -/
  dialect : Dialect := {}
  /-- Where generated files go. -/
  output : Output := {}
  /-- The packages to generate. -/
  packages : List PackageEntry := []
  deriving DecidableEq, Repr

namespace Config

/-- Why a configuration is rejected. -/
inductive Rejection where
  /-- The file is not YAML, for a reason in words. -/
  | notYaml (file reason : String)
  /-- The file holds something other than a mapping. -/
  | noSettings (file : String)
  /-- A setting is no mapping. -/
  | notMapping (setting : String)
  /-- A setting is no text. -/
  | notText (setting : String)
  /-- A setting is no list of texts. -/
  | notTexts (setting : String)
  /-- The packages are no list. -/
  | notList
  /-- The dialect has settings with unknown names. -/
  | unknownNames (names : List String)
  /-- A package has no path. -/
  | noPath (index : Nat)
  /-- Another reason, in words. -/
  | other (text : String)
  deriving DecidableEq, Repr

/-- The message of a rejection. -/
def Rejection.message : Rejection → String
  | notYaml file reason => "Failed to parse " ++ file ++ ": " ++ reason
  | noSettings file => file ++ " must contain a mapping at the root"
  | notMapping setting => setting ++ " must be a mapping"
  | notText setting => setting ++ " must be a string"
  | notTexts setting => setting ++ " must be a list of strings"
  | notList => "packages must be a list"
  | unknownNames names => "dialect: unknown key(s) " ++ ", ".intercalate names
  | noPath index => "packages[" ++ toString index ++ "]: 'path' is required"
  | other text => text

/-- Why there is no configuration. -/
inductive Error where
  /-- It is rejected. -/
  | rejected (r : Rejection)
  /-- A setting of the dialect is not named by a text. -/
  | namelessSetting
  /-- The file is YAML, but a scalar in it has no value of its kind. -/
  | noValue (f : Yaml.Fault)
  /-- The file is named by a home directory that nobody knows. -/
  | noHome
  /-- The file is not in UTF-8. -/
  | notUtf8
  /-- The file cannot be read. -/
  | file (e : FileError)
  deriving DecidableEq, Repr

/-- The value of a setting; an absent one is null. -/
def setting (settings : List (Value × Value)) (name : String) : Value :=
  match settings.find? fun s => s.1.isText name with
  | some s => s.2
  | none => .null

/-- The text of a setting. -/
def asText (name : String) : Value → Except Error (Option String)
  | .null => .ok none
  | .text s => .ok (some s)
  | _ => .error (.rejected (.notText name))

/-- A name; an empty or absent one is the default. -/
def asName (name default : String) (v : Value) : Except Error String := do
  match ← asText name v with
  | none => return default
  | some s => return if s = "" then default else s

/-- The texts of a list. -/
def texts? : List Value → Option (List String)
  | [] => some []
  | .text s :: rest => (texts? rest).map (s :: ·)
  | _ :: _ => none

/-- The texts of a setting. -/
def asTexts (name : String) : Value → Except Error (List String)
  | .null => .ok []
  | .list items =>
    match texts? items with
    | some names => .ok names
    | none => .error (.rejected (.notTexts name))
  | _ => .error (.rejected (.notTexts name))

/-- The settings in a setting. -/
def asSettings (name : String) : Value → Except Error (List (Value × Value))
  | .null => .ok []
  | .map settings => .ok settings
  | _ => .error (.rejected (.notMapping name))

/-- The settings of a dialect that are texts, with what they set. -/
def dialectTexts : List (String × (Dialect → Option String → Dialect)) :=
  [("value_registry", fun d s => { d with valueRegistry := s }),
   ("type_registry", fun d s => { d with typeRegistry := s }),
   ("value_map", fun d s => { d with valueMap := s }),
   ("type_map", fun d s => { d with typeMap := s }),
   ("value_accessor", fun d s => { d with valueAccessor := s }),
   ("type_accessor", fun d s => { d with typeAccessor := s })]

/-- The names of all settings of a dialect. -/
def dialectNames : List String :=
  dialectTexts.map Prod.fst ++ ["imports"]

/-- The name of a setting. -/
def nameOf : Value × Value → Except Error String
  | (.text name, _) => .ok name
  | _ => .error .namelessSetting

/-- Applies one setting to a dialect. A null text is missing from then on. -/
def setDialect (d : Dialect) (s : Value × Value) : Except Error Dialect := do
  let name ← nameOf s
  match dialectTexts.lookup name with
  | some set => return set d (← asText ("dialect." ++ name) s.2)
  | none => return { d with imports := ← asTexts ("dialect." ++ name) s.2 }

/-- The dialect of some settings. -/
def dialectOf (settings : List (Value × Value)) : Except Error Dialect := do
  let names ← settings.mapM nameOf
  let unknown := names.filter fun name => !dialectNames.contains name
  if !unknown.isEmpty then throw (.rejected (.unknownNames (sortNames unknown)))
  settings.foldlM setDialect {}

/-- The output of some settings; its directory is below the one of the configuration. -/
def outputOf (root : Path) (settings : List (Value × Value)) : Except Error Output := do
  let directory ← asName "output.directory" "" (setting settings "directory")
  let package ← asName "output.package" "packages" (setting settings "package")
  return { package
           directory := if directory = "" then none
             else some (root.join (Path.ofText directory)) }

/-- The package of an item: a path alone, or settings. -/
def packageOf (index : Nat) : Value → Except Error PackageEntry
  | .text path => .ok { path }
  | v => do
    let name := "packages[" ++ toString index ++ "]"
    let settings ← asSettings name v
    let path ← asName (name ++ ".path") "" (setting settings "path")
    if path = "" then throw (.rejected (.noPath index))
    let dir ← asText (name ++ ".dir") (setting settings "dir")
    let init ← asText (name ++ ".init") (setting settings "init")
    return { path, dir, init }

/-- The packages of a list of items, the first of which has the given index. -/
def packagesFrom (index : Nat) : List Value → Except Error (List PackageEntry)
  | [] => .ok []
  | v :: rest => do
    let entry ← packageOf index v
    return entry :: (← packagesFrom (index + 1) rest)

/-- The packages of a setting; a value that counts as nothing stands for none. -/
def packagesOf (v : Value) : Except Error (List PackageEntry) :=
  if v.isNothing then .ok []
  else match v with
    | .list items => packagesFrom 0 items
    | _ => .error (.rejected .notList)

/-- The configuration of some settings. -/
def ofSettings (root : Path) (settings : List (Value × Value)) : Except Error Config := do
  let excluded ← asTexts "exclude_symbols" (setting settings "exclude_symbols")
  let strategy ← asName "strategy" "strict" (setting settings "strategy")
  let format ← asName "format" "go" (setting settings "format")
  let dialect ← dialectOf (← asSettings "dialect" (setting settings "dialect"))
  let output ← outputOf root (← asSettings "output" (setting settings "output"))
  let packages ← packagesOf (setting settings "packages")
  return { root, excluded, strategy, format, dialect, output, packages }

/-- The configuration of a value; one that counts as nothing has no settings. -/
def ofValue (root : Path) (file : String) (v : Value) : Except Error Config :=
  if v.isNothing then ofSettings root []
  else match v with
    | .map settings => ofSettings root settings
    | _ => .error (.rejected (.noSettings file))

end Config

end Registrar
