import Mathlib.Data.List.Nodup
import Registrar.Proofs.ConfigReading
import Registrar.Proofs.Entry
import Registrar.Proofs.Path

/-!
# Writing a configuration

A configuration is written as settings, each with the value of one of its parts. What is written is
read back, also where settings are left out because they have their default, where a package is its
path alone, and where settings of unknown names are added.
-/

namespace Registrar

open Yaml (Value)

namespace Path

/-- The parts of a text are not empty and hold no slash. -/
theorem isPart_of_mem_pathParts {text part : String} (h : part ∈ pathParts text) : IsPart part := by
  obtain ⟨hmem, hne⟩ := List.mem_filter.mp h
  obtain ⟨piece, hpiece, rfl⟩ := List.mem_map.mp hmem
  refine ⟨of_decide_eq_true hne, ?_⟩
  rw [String.toList_ofList]
  exact (Text.of_mem_splitAt hpiece).1

/-- A text that starts with no slash has no anchor. -/
theorem anchorOf_eq_empty {text : String} (h : text.startsWith "/" = false) :
    anchorOf text = "" := by
  have hne : ∀ rest, text.toList ≠ '/' :: rest := fun rest heq => by
    rw [(startsWith_slash_iff text).mpr ⟨rest, heq⟩] at h
    cases h
  unfold anchorOf
  split
  case h_4 => rfl
  all_goals exact absurd ‹_› (hne _)

/-- A relative path in normal form is read back from its text. -/
theorem ofText_toText {p : Path} (hrelative : p.anchor = "")
    (hparts : ∀ part ∈ p.parts, IsPart part ∧ part ≠ ".") : ofText p.toText = p := by
  obtain ⟨anchor, parts⟩ := p
  cases hrelative
  cases parts with
  | nil => rfl
  | cons first rest =>
    have htext : toText { anchor := "", parts := first :: rest } =
        "/".intercalate (first :: rest) := by
      simp [toText]
    have hfirst := (hparts first List.mem_cons_self).1
    have hstart : ("/".intercalate (first :: rest)).startsWith "/" = false := by
      rw [← hfirst.startsWith_eq_false]
      cases rest with
      | nil => simp
      | cons second rest =>
        rw [String.intercalate_cons_cons, String.append_assoc]
        exact startsWith_append_of_ne_empty hfirst.1 _
    rw [htext, ofText, anchorOf_eq_empty hstart,
      pathParts_intercalate fun part h => (hparts part h).1,
      List.filter_eq_self.mpr fun part h => decide_eq_true (hparts part h).2]

/-- A text that is not empty leads from one path to another below it. -/
def Leads (root p : Path) (text : String) : Prop :=
  text ≠ "" ∧ (ofText text).anchor = "" ∧ p = root.join (ofText text)

/-- The text that leads from one path to another below it. -/
def textBelow (root p : Path) : String :=
  toText { anchor := "", parts := p.parts.drop root.parts.length }

/-- If any text leads to a path, then its own one does. -/
theorem leads_textBelow {root p : Path} {text : String} (h : root.Leads p text) :
    root.Leads p (root.textBelow p) := by
  obtain ⟨-, hanchor, rfl⟩ := h
  have hrelative : ofText text = { anchor := "", parts := (ofText text).parts } := by
    rw [← hanchor]
  have hjoin : root.join (ofText text) = { root with parts := root.parts ++ (ofText text).parts } :=
    if_pos hanchor
  have htext : root.textBelow (root.join (ofText text)) = (ofText text).toText := by
    rw [textBelow, hjoin, List.drop_left, ← hrelative]
  have hback : ofText (ofText text).toText = ofText text := by
    refine ofText_toText hanchor fun part hpart => ?_
    obtain ⟨hmem, hne⟩ := List.mem_filter.mp hpart
    exact ⟨isPart_of_mem_pathParts hmem, of_decide_eq_true hne⟩
  rw [htext]
  refine ⟨fun hempty => ?_, by rw [hback, hanchor], by rw [hback]⟩
  rw [hempty] at hback
  rw [← hback] at hempty
  exact absurd hempty (by decide)

end Path

namespace Config

variable {settings : List (Value × Value)} {name : String} {v : Value}
variable {stands : Value → Prop} {isDefault : Prop}

/-- Settings give a name only values that stand for something, or leave it out if that is the
default. -/
structure Gives (settings : List (Value × Value)) (name : String) (stands : Value → Prop)
    (isDefault : Prop) : Prop where
  present : ∀ v, (Value.text name, v) ∈ settings → stands v
  absent : (∀ v, (Value.text name, v) ∉ settings) → isDefault

/-- The value of a name stands for what the settings give, or is null for the default. -/
theorem Gives.setting_cases (h : Gives settings name stands isDefault) :
    stands (setting settings name) ∨ setting settings name = .null ∧ isDefault := by
  rcases Config.setting_cases settings name with hmem | ⟨habsent, hnull⟩
  · exact .inl (h.present _ hmem)
  · exact .inr ⟨hnull, h.absent habsent⟩

/-- Settings give what one of them is, if no two of them have the same key. -/
theorem gives_of_mem (hnodup : (settings.map Prod.fst).Nodup) (hmem : (.text name, v) ∈ settings)
    (h : stands v) : Gives settings name stands isDefault where
  present v' hmem' := by
    cases List.inj_on_of_nodup_map hnodup hmem hmem' rfl
    exact h
  absent habsent := absurd hmem (habsent v)

end Config

/-! ### The parts of a configuration -/

open Config (Gives setting)

variable {settings : List (Value × Value)} {v : Value}

namespace PackageEntry

variable {e : PackageEntry}

/-- A package is written as its path alone if it has nothing else, or as settings. -/
def IsWrittenAs (e : PackageEntry) (v : Value) : Prop :=
  v = .text e.path ∧ e.dir = none ∧ e.init = none ∨
    ∃ settings, v = .map settings ∧ Gives settings "path" (· = .text e.path) False ∧
      Gives settings "dir" (· = .ofOption e.dir) (e.dir = none) ∧
      Gives settings "init" (· = .ofOption e.init) (e.init = none)

/-- All settings of a package. -/
def toValue (e : PackageEntry) : Value :=
  .map [(.text "path", .text e.path), (.text "dir", .ofOption e.dir),
    (.text "init", .ofOption e.init)]

theorem isWrittenAs_toValue (e : PackageEntry) : e.IsWrittenAs e.toValue := by
  have hnodup : ([(.text "path", .text e.path), (.text "dir", .ofOption e.dir),
      (.text "init", .ofOption e.init)].map (Prod.fst (α := Value) (β := Value))).Nodup := by
    simp
  exact .inr ⟨_, rfl, Config.gives_of_mem hnodup (by simp) rfl,
    Config.gives_of_mem hnodup (by simp) rfl, Config.gives_of_mem hnodup (by simp) rfl⟩

/-- A text that may be missing is given by its setting. -/
theorem setting_of_gives_ofOption {name : String} {t : Option String}
    (h : Gives settings name (· = .ofOption t) (t = none)) :
    setting settings name = .ofOption t := by
  rcases h.setting_cases with hvalue | ⟨hnull, rfl⟩
  · exact hvalue
  · exact hnull

/-- A package with a path is read from the values that it is written as. -/
theorem IsWrittenAs.isReadFrom (h : e.IsWrittenAs v) (hpath : e.path ≠ "") : e.IsReadFrom v := by
  rcases h with hplain | ⟨settings, rfl, hwritten, hdir, hinit⟩
  · exact .inl hplain
  · rcases hwritten.setting_cases with hvalue | ⟨-, hfalse⟩
    · exact .inr ⟨settings, rfl, hvalue, hpath, setting_of_gives_ofOption hdir,
        setting_of_gives_ofOption hinit⟩
    · exact hfalse.elim

/-- Packages with paths are read from a list of what they are written as, in the same order. -/
theorem forall₂_isReadFrom {entries : List PackageEntry} {items : List Value}
    (h : List.Forall₂ IsWrittenAs entries items) (hpaths : ∀ e ∈ entries, e.path ≠ "") :
    List.Forall₂ (fun v e => e.IsReadFrom v) items entries := by
  induction h with
  | nil => exact .nil
  | cons hfirst _ ih =>
    obtain ⟨hpath, hrest⟩ := List.forall_mem_cons.mp hpaths
    exact .cons (hfirst.isReadFrom hpath) (ih hrest)

end PackageEntry

namespace Dialect

variable {d : Dialect} {name : String}

/-- A dialect is written as settings for its names and for no others. -/
structure IsWrittenAs (d : Dialect) (settings : List (Value × Value)) : Prop where
  known : ∀ e ∈ settings, ∃ name ∈ Config.dialectNames, e.1 = .text name
  given : ∀ name ∈ Config.dialectNames,
    Gives settings name (· = d.setting name) (d.setting name = ({} : Dialect).setting name)

/-- All settings of a dialect. -/
def toSettings (d : Dialect) : List (Value × Value) :=
  Config.dialectNames.map fun name => (.text name, d.setting name)

theorem isWrittenAs_toSettings (d : Dialect) : d.IsWrittenAs d.toSettings where
  known := by
    intro e he
    obtain ⟨name, hname, rfl⟩ := List.mem_map.mp he
    exact ⟨name, hname, rfl⟩
  given name hname := by
    refine Config.gives_of_mem ?_ (List.mem_map_of_mem hname) rfl
    have hkeys : d.toSettings.map Prod.fst = Config.dialectNames.map .text := List.map_map
    rw [hkeys]
    exact List.Nodup.map Value.text_injective (by decide)

/-- What a dialect sets for a name is a value of its kind, and not null for the imports. -/
theorem isDialectValue_setting (hname : name ∈ Config.dialectNames) (d : Dialect) :
    Config.IsDialectValue name (d.setting name) ∧
      Config.meant name (d.setting name) = d.setting name := by
  rcases (Config.mem_dialectNames_iff name).mp hname with
    rfl | rfl | rfl | rfl | rfl | rfl | rfl
  case inr.inr.inr.inr.inr.inr => exact ⟨.inr ((Value.isListOf_isText_iff _).mpr ⟨_, rfl⟩), rfl⟩
  all_goals exact ⟨(Value.isNullOr_isText_iff _).mpr ⟨_, rfl⟩, rfl⟩

/-- A dialect is read from the settings that it is written as. -/
theorem IsWrittenAs.dialectOf_eq_ok (h : d.IsWrittenAs settings) :
    Config.dialectOf settings = .ok d := by
  have htaken : ∀ e ∈ settings, Config.IsDialectSetting e := by
    rintro ⟨key, v⟩ he
    obtain ⟨name, hname, hkey⟩ := h.known _ he
    cases hkey
    rw [(h.given name hname).present v he]
    exact ⟨name, hname, rfl, (isDialectValue_setting hname d).1⟩
  obtain ⟨d', hd'⟩ := (Config.exists_dialectOf_eq_ok_iff settings).mpr htaken
  have hsame : d' = d := by
    refine ext_setting fun name hname => ?_
    rw [Config.setting_of_dialectOf hd']
    cases hlast : Config.lastValue? settings name with
    | none => exact ((h.given name hname).absent (Config.lastValue?_eq_none_iff.mp hlast)).symm
    | some v =>
      rw [(h.given name hname).present v (Config.mem_of_lastValue?_eq_some hlast)]
      exact (isDialectValue_setting hname d).2
  rw [hd', hsame]

end Dialect

namespace Output

variable {root : Path} {o : Output}

/-- The directory of an output is written as null if there is none, or as a text that leads to
it. -/
def IsDirectoryAs (root : Path) (directory : Option Path) (v : Value) : Prop :=
  directory = none ∧ v = .null ∨
    ∃ p text, directory = some p ∧ root.Leads p text ∧ v = .text text

/-- An output is written as its two settings. -/
structure IsWrittenAs (root : Path) (o : Output) (settings : List (Value × Value)) : Prop where
  package : Gives settings "package" (· = .text o.package) (o.package = ({} : Output).package)
  directory : Gives settings "directory" (IsDirectoryAs root o.directory) (o.directory = none)

/-- All settings of an output. -/
def toSettings (root : Path) (o : Output) : List (Value × Value) :=
  [(.text "package", .text o.package),
    (.text "directory", .ofOption (o.directory.map root.textBelow))]

theorem isWrittenAs_toSettings (h : ∀ p, o.directory = some p → ∃ text, root.Leads p text) :
    o.IsWrittenAs root (o.toSettings root) := by
  have hnodup : ((o.toSettings root).map Prod.fst).Nodup := by simp [toSettings]
  have hdirectory : IsDirectoryAs root o.directory
      (.ofOption (o.directory.map root.textBelow)) := by
    cases hp : o.directory with
    | none => exact .inl ⟨rfl, rfl⟩
    | some p =>
      obtain ⟨text, htext⟩ := h p hp
      exact .inr ⟨p, _, rfl, Path.leads_textBelow htext, rfl⟩
  exact ⟨Config.gives_of_mem hnodup (by simp [toSettings]) rfl,
    Config.gives_of_mem hnodup (by simp [toSettings]) hdirectory⟩

/-- An output with a package clause is read from the settings that it is written as. -/
theorem IsWrittenAs.outputOf_eq_ok (h : o.IsWrittenAs root settings) (hpackage : o.package ≠ "") :
    Config.outputOf root settings = .ok o := by
  have hname : Config.asName "output.package" "packages" (setting settings "package") =
      .ok o.package := by
    rcases h.package.setting_cases with hvalue | ⟨hnull, hdefault⟩
    · rw [hvalue, Config.asName_text, if_neg hpackage]
    · rw [hnull, hdefault, Config.asName_null]
  rw [Config.outputOf_eq_ok_iff]
  rcases h.directory.setting_cases with (⟨hnone, hvalue⟩ | ⟨p, text, hp, hleads, hvalue⟩) |
    ⟨hvalue, hnone⟩
  · exact ⟨"", by rw [hvalue, Config.asName_null], hname, hnone⟩
  · obtain ⟨hne, -, hjoin⟩ := hleads
    refine ⟨text, by rw [hvalue, Config.asName_text, if_neg hne], hname, ?_⟩
    rw [if_neg hne, hp, hjoin]
  · exact ⟨"", by rw [hvalue, Config.asName_null], hname, hnone⟩

end Output

/-! ### Whole configurations -/

namespace Config

variable {c : Config}

/-- A configuration that settings can give: its names and the paths of its packages are not empty,
and its output directory is below its root. -/
structure IsWritable (c : Config) : Prop where
  strategy : c.strategy ≠ ""
  format : c.format ≠ ""
  package : c.output.package ≠ ""
  directory : ∀ p, c.output.directory = some p → ∃ text, c.root.Leads p text
  packages : ∀ e ∈ c.packages, e.path ≠ ""

/-- A configuration is written as settings for its parts. Settings of other names may stand among
them. -/
structure IsWrittenAs (c : Config) (settings : List (Value × Value)) : Prop where
  excluded : Gives settings "exclude_symbols" (· = .list (c.excluded.map .text)) (c.excluded = [])
  strategy : Gives settings "strategy" (· = .text c.strategy) (c.strategy = "strict")
  format : Gives settings "format" (· = .text c.format) (c.format = "go")
  dialect : Gives settings "dialect" (·.IsMapOf c.dialect.IsWrittenAs) (c.dialect = {})
  output : Gives settings "output" (·.IsMapOf (c.output.IsWrittenAs c.root)) (c.output = {})
  packages : Gives settings "packages"
    (fun v => ∃ items, v = .list items ∧ List.Forall₂ PackageEntry.IsWrittenAs c.packages items)
    (c.packages = [])

/-- All settings of a configuration. -/
def toSettings (c : Config) : List (Value × Value) :=
  [(.text "exclude_symbols", .list (c.excluded.map .text)),
    (.text "strategy", .text c.strategy),
    (.text "format", .text c.format),
    (.text "dialect", .map c.dialect.toSettings),
    (.text "output", .map (c.output.toSettings c.root)),
    (.text "packages", .list (c.packages.map PackageEntry.toValue))]

theorem isWrittenAs_toSettings (h : c.IsWritable) : c.IsWrittenAs c.toSettings := by
  have hnodup : (c.toSettings.map Prod.fst).Nodup := by simp [toSettings]
  have hpackages : List.Forall₂ PackageEntry.IsWrittenAs c.packages
      (c.packages.map PackageEntry.toValue) := by
    rw [List.forall₂_map_right_iff]
    exact List.forall₂_same.mpr fun e _ => e.isWrittenAs_toValue
  exact {
    excluded := gives_of_mem hnodup (by simp [toSettings]) rfl
    strategy := gives_of_mem hnodup (by simp [toSettings]) rfl
    format := gives_of_mem hnodup (by simp [toSettings]) rfl
    dialect := gives_of_mem hnodup (by simp [toSettings])
      ⟨_, rfl, c.dialect.isWrittenAs_toSettings⟩
    output := gives_of_mem hnodup (by simp [toSettings])
      ⟨_, rfl, Output.isWrittenAs_toSettings h.directory⟩
    packages := gives_of_mem hnodup (by simp [toSettings]) ⟨_, rfl, hpackages⟩ }

/-- A configuration is read from the settings that it is written as. -/
theorem IsWrittenAs.ofSettings_eq_ok {settings : List (Value × Value)}
    (h : c.IsWrittenAs settings) (hc : c.IsWritable) : ofSettings c.root settings = .ok c := by
  refine (ofSettings_eq_ok_iff _ _ _).mpr ⟨rfl, ?_, ?_, ?_, ?_, ?_, ?_⟩
  · rcases h.excluded.setting_cases with hvalue | ⟨hnull, hdefault⟩
    · exact (asTexts_eq_ok_iff _ _ _).mpr (.inr hvalue)
    · exact (asTexts_eq_ok_iff _ _ _).mpr (.inl ⟨hnull, hdefault⟩)
  · rcases h.strategy.setting_cases with hvalue | ⟨hnull, hdefault⟩
    · rw [hvalue, asName_text, if_neg hc.strategy]
    · rw [hnull, asName_null, hdefault]
  · rcases h.format.setting_cases with hvalue | ⟨hnull, hdefault⟩
    · rw [hvalue, asName_text, if_neg hc.format]
    · rw [hnull, asName_null, hdefault]
  · rcases h.dialect.setting_cases with ⟨own, hvalue, hown⟩ | ⟨hnull, hdefault⟩
    · rw [hvalue]
      exact hown.dialectOf_eq_ok
    · rw [hnull, hdefault]
      rfl
  · rcases h.output.setting_cases with ⟨own, hvalue, hown⟩ | ⟨hnull, hdefault⟩
    · rw [hvalue]
      exact hown.outputOf_eq_ok hc.package
    · rw [hnull, hdefault]
      rfl
  · rw [packagesOf_eq_ok_iff]
    rcases h.packages.setting_cases with ⟨items, hvalue, hitems⟩ | ⟨hnull, hdefault⟩
    · exact .inr ⟨items, hvalue, PackageEntry.forall₂_isReadFrom hitems hc.packages⟩
    · exact .inl ⟨by rw [hnull]; rfl, hdefault⟩

/-- What is written is read back. All settings of a configuration are one way to write it, and
whatever the way is, reading the mapping gives the configuration, and so does loading a file beside
its root that holds the mapping. -/
theorem reads_back (hc : c.IsWritable) :
    c.IsWrittenAs c.toSettings ∧ ∀ settings, c.IsWrittenAs settings →
      (∀ file, ofValue c.root file (.map settings) = .ok c) ∧
      ∀ (host : Host) tree path file, valueAt? host tree path = some (file, .map settings) →
        file.parent = c.root → load host tree path = .ok c := by
  refine ⟨isWrittenAs_toSettings hc, fun settings h => ?_⟩
  have hread : ∀ file, ofValue c.root file (.map settings) = .ok c := fun file => by
    rw [ofValue_map, h.ofSettings_eq_ok hc]
  refine ⟨hread, fun host tree path file hvalue hroot => ?_⟩
  rw [load_of_valueAt? hvalue, hroot, hread]

/-- A configuration with a part of each kind that differs from its default. -/
def writtenConfig : Config :=
  { root := .ofText "/etc"
    format := "json"
    dialect := { valueMap := some "M" }
    output := { directory := some (.ofText "/etc/gen/out") }
    packages := [{ path := "a" }, { path := "b", init := some "B" }, { path := "a" }] }

/-- The configuration in short form, between settings of other names. -/
def writtenSettings : List (Value × Value) :=
  [(.text "note", .list [.whole 1]),
    (.text "packages",
      .list [.text "a", .map [(.text "init", .text "B"), (.text "path", .text "b")], .text "a"]),
    (.text "dialect", .map [(.text "value_map", .text "M")]),
    (.text "output", .map [(.text "directory", .text "gen/out")]),
    (.text "format", .text "json"),
    (.whole 7, .null)]

/-- A file that holds these settings. -/
def writtenFiles : FileTree :=
  { root := .dir [("etc", .dir [
      ("own.yml", .ofText ("note: [1]\npackages:\n- a\n- \x7binit: B, path: b\x7d\n- a\n" ++
        "dialect: \x7bvalue_map: M\x7d\noutput:\n  directory: gen/out\nformat: json\n7:\n"))])]
    home := [] }

theorem reads_back_writtenFiles :
    writtenConfig.IsWritable ∧ writtenConfig.IsWrittenAs writtenSettings ∧
      load {} writtenFiles (some "etc/own.yml") = .ok writtenConfig := by
  have hdirectory : Path.Leads (.ofText "/etc") (.ofText "/etc/gen/out") "gen/out" := by
    unfold Path.Leads
    decide +kernel
  have hwritable : writtenConfig.IsWritable :=
    { strategy := by decide
      format := by decide
      package := by decide
      directory := fun p hp => ⟨"gen/out", by cases hp; exact hdirectory⟩
      packages := by decide }
  have hnodup : (writtenSettings.map Prod.fst).Nodup := by simp [writtenSettings]
  have hdialect : writtenConfig.dialect.IsWrittenAs [(.text "value_map", .text "M")] :=
    { known := by simp [dialectNames, dialectTexts]
      given := fun name _ => by
        by_cases hname : name = "value_map"
        · subst hname
          exact gives_of_mem (by simp) List.mem_cons_self rfl
        · exact ⟨by simp [hname], fun _ => by simp [Dialect.setting, writtenConfig, hname]⟩ }
  have houtput : writtenConfig.output.IsWrittenAs (.ofText "/etc")
      [(.text "directory", .text "gen/out")] :=
    { package := ⟨by simp, fun _ => rfl⟩
      directory := gives_of_mem (by simp) (by simp) (.inr ⟨_, _, rfl, hdirectory, rfl⟩) }
  have hsecond : PackageEntry.IsWrittenAs { path := "b", init := some "B" }
      (.map [(.text "init", .text "B"), (.text "path", .text "b")]) :=
    .inr ⟨_, rfl, gives_of_mem (by simp) (by simp) rfl, ⟨by simp, fun _ => rfl⟩,
      gives_of_mem (v := .text "B") (by simp) (by simp) rfl⟩
  have hwritten : writtenConfig.IsWrittenAs writtenSettings :=
    { excluded := ⟨by simp [writtenSettings], fun _ => rfl⟩
      strategy := ⟨by simp [writtenSettings], fun _ => rfl⟩
      format := gives_of_mem (v := .text "json") hnodup (by simp [writtenSettings]) rfl
      dialect := gives_of_mem hnodup (by simp [writtenSettings]) ⟨_, rfl, hdialect⟩
      output := gives_of_mem hnodup (by simp [writtenSettings]) ⟨_, rfl, houtput⟩
      packages := gives_of_mem hnodup (by simp [writtenSettings]) ⟨_, rfl,
        .cons (.inl ⟨rfl, rfl, rfl⟩) (.cons hsecond (.cons (.inl ⟨rfl, rfl, rfl⟩) .nil))⟩ }
  have hvalue : valueAt? {} writtenFiles (some "etc/own.yml") =
      some (.ofText "/etc/own.yml", .map writtenSettings) := by
    decide +kernel
  obtain ⟨-, hreads⟩ := reads_back hwritable
  exact ⟨hwritable, hwritten, (hreads _ hwritten).2 _ _ _ _ hvalue (by decide +kernel)⟩

end Config

end Registrar
