import Registrar.Config.Load
import Registrar.Proofs.DialectSettings

/-!
# Reading a configuration

A configuration is read setting by setting, and each of its parts comes from the value of its own
setting alone. What is read from a file is read from the value of its text.
-/

namespace Registrar

open Yaml (Value)

/-- A value stands for a package: as its path alone, or as a mapping with a path that is not
empty. -/
def PackageEntry.IsReadFrom (e : PackageEntry) (v : Value) : Prop :=
  v = .text e.path ∧ e.dir = none ∧ e.init = none ∨
    ∃ settings, v = .map settings ∧ Config.setting settings "path" = .text e.path ∧ e.path ≠ "" ∧
      Config.setting settings "dir" = .ofOption e.dir ∧
      Config.setting settings "init" = .ofOption e.init

namespace Config

variable {root : Path} {settings : List (Value × Value)} {c : Config}

/-- The output is read from its two settings. -/
theorem outputOf_eq_ok_iff (root : Path) (settings : List (Value × Value)) (o : Output) :
    outputOf root settings = .ok o ↔ ∃ directory,
      asName "output.directory" "" (setting settings "directory") = .ok directory ∧
        asName "output.package" "packages" (setting settings "package") = .ok o.package ∧
        o.directory =
          if directory = "" then none else some (root.join (Path.ofText directory)) := by
  obtain ⟨package, directory⟩ := o
  simp only [outputOf, Except.bind_eq_ok_iff, Except.pure_eq_ok_iff, Output.mk.injEq]
  constructor
  · rintro ⟨text, htext, name, hname, rfl, rfl⟩
    exact ⟨text, htext, hname, rfl⟩
  · rintro ⟨text, htext, hname, hdirectory⟩
    exact ⟨text, htext, package, hname, rfl, hdirectory.symm⟩

/-- A package in settings has a path that is not empty. -/
theorem packageOf_map_eq_ok_iff (index : Nat) (settings : List (Value × Value)) (e : PackageEntry) :
    packageOf index (.map settings) = .ok e ↔
      setting settings "path" = .text e.path ∧ e.path ≠ "" ∧
        setting settings "dir" = .ofOption e.dir ∧ setting settings "init" = .ofOption e.init := by
  obtain ⟨path, dir, init⟩ := e
  have hread : packageOf index (.map settings) = (do
      let name := "packages[" ++ toString index ++ "]"
      let path ← asName (name ++ ".path") "" (setting settings "path")
      if path = "" then throw (.rejected (.noPath index))
      let dir ← asText (name ++ ".dir") (setting settings "dir")
      let init ← asText (name ++ ".init") (setting settings "init")
      return { path, dir, init }) := rfl
  rw [hread]
  simp only [Except.bind_eq_ok_iff]
  constructor
  · rintro ⟨path', hpath, h⟩
    split at h
    · cases h
    · rename_i hne
      simp only [Except.bind_eq_ok_iff, asText_eq_ok_iff, Except.pure_eq_ok_iff] at h
      obtain ⟨dir', hdir, init', hinit, heq⟩ := h
      cases heq
      exact ⟨(asName_eq_ok_iff_of_ne _ _ hne).mp hpath, hne, hdir, hinit⟩
  · rintro ⟨hpath, hne, hdir, hinit⟩
    refine ⟨path, (asName_eq_ok_iff_of_ne _ _ hne).mpr hpath, ?_⟩
    rw [if_neg hne, (asText_eq_ok_iff _ _ _).mpr hdir, Except.ok_bind,
      (asText_eq_ok_iff _ _ _).mpr hinit]
    rfl

/-- A package is read from the values that stand for it, whatever its place in the list. -/
theorem packageOf_eq_ok_iff (index : Nat) (v : Value) (e : PackageEntry) :
    packageOf index v = .ok e ↔ e.IsReadFrom v := by
  cases v with
  | text s =>
    obtain ⟨path, dir, init⟩ := e
    simp [packageOf, PackageEntry.IsReadFrom, eq_comm]
  | map settings =>
    rw [packageOf_map_eq_ok_iff]
    simp [PackageEntry.IsReadFrom]
  | null =>
    have hnull : packageOf index .null = packageOf index (.map []) := rfl
    rw [hnull, packageOf_map_eq_ok_iff]
    simp [PackageEntry.IsReadFrom, setting]
  | _ => simp [packageOf, asSettings, PackageEntry.IsReadFrom]

/-- Packages are read one by one. -/
theorem packagesFrom_eq_ok_iff (index : Nat) (items : List Value) (entries : List PackageEntry) :
    packagesFrom index items = .ok entries ↔
      List.Forall₂ (fun v e => e.IsReadFrom v) items entries := by
  induction items generalizing index entries with
  | nil =>
    rw [List.forall₂_nil_left_iff]
    exact ⟨fun h => (Except.ok.inj h).symm, fun h => h ▸ rfl⟩
  | cons v rest ih =>
    simp only [packagesFrom, Except.bind_eq_ok_iff, Except.pure_eq_ok_iff, packageOf_eq_ok_iff, ih,
      List.forall₂_cons_left_iff]
    constructor
    · rintro ⟨e, he, es, hes, rfl⟩
      exact ⟨e, es, he, hes, rfl⟩
    · rintro ⟨e, es, he, hes, rfl⟩
      exact ⟨e, he, es, hes, rfl⟩

/-- Packages are read from a list, and none from a value that counts as nothing. -/
theorem packagesOf_eq_ok_iff (v : Value) (entries : List PackageEntry) :
    packagesOf v = .ok entries ↔ v.isNothing = true ∧ entries = [] ∨
      ∃ items, v = .list items ∧ List.Forall₂ (fun v e => e.IsReadFrom v) items entries := by
  unfold packagesOf
  by_cases hnothing : v.isNothing = true
  · rw [if_pos hnothing]
    constructor
    · intro h
      exact .inl ⟨hnothing, (Except.ok.inj h).symm⟩
    · rintro (⟨-, rfl⟩ | ⟨items, rfl, hitems⟩)
      · rfl
      · have hnil : items = [] := List.isEmpty_iff.mp hnothing
        subst hnil
        rw [List.forall₂_nil_left_iff.mp hitems]
  · rw [if_neg hnothing, or_iff_right fun h => hnothing h.1]
    cases v with
    | list items => simp [packagesFrom_eq_ok_iff]
    | _ => simp

/-- Each part of a configuration is read from its own setting. -/
theorem ofSettings_eq_ok_iff (root : Path) (settings : List (Value × Value)) (c : Config) :
    ofSettings root settings = .ok c ↔ c.root = root ∧
      asTexts "exclude_symbols" (setting settings "exclude_symbols") = .ok c.excluded ∧
      asName "strategy" "strict" (setting settings "strategy") = .ok c.strategy ∧
      asName "format" "go" (setting settings "format") = .ok c.format ∧
      (asSettings "dialect" (setting settings "dialect") >>= dialectOf) = .ok c.dialect ∧
      (asSettings "output" (setting settings "output") >>= outputOf root) = .ok c.output ∧
      packagesOf (setting settings "packages") = .ok c.packages := by
  obtain ⟨root', excluded, strategy, format, dialect, output, packages⟩ := c
  simp only [ofSettings, Except.bind_eq_ok_iff, Except.pure_eq_ok_iff, Config.mk.injEq]
  constructor
  · rintro ⟨_, hexcluded, _, hstrategy, _, hformat, d, hd, _, hdialect, o, ho, _, houtput, _,
      hpackages, rfl, rfl, rfl, rfl, rfl, rfl, rfl⟩
    exact ⟨rfl, hexcluded, hstrategy, hformat, ⟨d, hd, hdialect⟩, ⟨o, ho, houtput⟩, hpackages⟩
  · rintro ⟨rfl, hexcluded, hstrategy, hformat, ⟨d, hd, hdialect⟩, ⟨o, ho, houtput⟩, hpackages⟩
    exact ⟨_, hexcluded, _, hstrategy, _, hformat, d, hd, _, hdialect, o, ho, _, houtput, _,
      hpackages, rfl, rfl, rfl, rfl, rfl, rfl, rfl⟩

/-- A mapping is read as its settings, an empty one too. -/
@[simp] theorem ofValue_map (root : Path) (file : String) (settings : List (Value × Value)) :
    ofValue root file (.map settings) = ofSettings root settings := by
  rw [ofValue]
  split
  · rename_i h
    rw [List.isEmpty_iff.mp h]
  · rfl

@[simp] theorem ofValue_null (root : Path) (file : String) :
    ofValue root file .null = ofSettings root [] := rfl

/-- The configuration file that a path stands for, with the value of its text. A blank text counts
as null. -/
def valueAt? (host : Host) (tree : FileTree) (path : Option String) : Option (Path × Value) := do
  let file ← (locate host tree (Path.ofText (path.getD ""))).toOption
  let content ← (tree.read file.toText).toOption
  let text ← Text.Utf8.decode? content
  let v? := if text.all Text.isBlank then some .null else (host.readValue text).toOption
  v?.map fun v => (file, v)

/-- A configuration that is loaded from a file is the one of the value of its text. -/
theorem load_of_valueAt? {host : Host} {tree : FileTree} {path : Option String} {file : Path}
    {v : Value} (h : valueAt? host tree path = some (file, v)) :
    load host tree path = ofValue file.parent file.name v := by
  simp only [valueAt?, Option.bind_eq_bind, Option.bind_eq_some_iff, Except.toOption_eq_some_iff,
    Option.map_eq_some_iff, Prod.mk.injEq] at h
  obtain ⟨_, hfile, content, hread, text, htext, _, hvalue, rfl, rfl⟩ := h
  obtain ⟨e, hentry, -⟩ := (Except.bind_eq_ok_iff _ _ _).mp hread
  simp only [load, hfile, Except.mapError_ok, Except.ok_bind, hentry, hread]
  simp only [ofBytes, htext]
  split at hvalue
  · rename_i hblank
    rw [if_pos hblank, ← Option.some.inj hvalue, ofValue_null]
  · rename_i hsome
    rw [if_neg hsome, (Except.toOption_eq_some_iff _ _).mp hvalue]

end Config

end Registrar
