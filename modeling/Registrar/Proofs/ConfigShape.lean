import Registrar.Proofs.ConfigReading
import Registrar.Proofs.Entry

/-!
# The shape of configurations

A documented configuration is null or a mapping, each setting of which is null or of the kind that
is asked for. Reading takes all of these values, and some others: for the whole configuration and
for the list of packages every value that counts as nothing is as good as null, and a package may
be an empty path if it stands alone. Without such stand-ins the two agree.
-/

namespace Registrar

open Yaml (Value)
open Yaml.Value (IsText IsName IsListOf IsMapOf)

namespace Config

variable {root : Path} {settings : List (Value × Value)} {v : Value}

/-! ### Documented configurations -/

/-- Settings of an output. -/
def IsOutput (settings : List (Value × Value)) : Prop :=
  (setting settings "package").IsNullOr IsText ∧ (setting settings "directory").IsNullOr IsText

/-- Settings of a package. -/
def IsPackage (settings : List (Value × Value)) : Prop :=
  (setting settings "path").IsName ∧ (setting settings "dir").IsNullOr IsText ∧
    (setting settings "init").IsNullOr IsText

/-- An item of the list of packages: a path, or the settings of a package. -/
def IsPackageItem (v : Value) : Prop :=
  v.IsName ∨ v.IsMapOf IsPackage

/-- The settings other than the packages are null or of their kinds. -/
structure AreTyped (settings : List (Value × Value)) : Prop where
  excluded : (setting settings "exclude_symbols").IsNullOr (IsListOf IsText)
  strategy : (setting settings "strategy").IsNullOr IsText
  format : (setting settings "format").IsNullOr IsText
  dialect : (setting settings "dialect").IsNullOr
    (IsMapOf fun dialect => ∀ e ∈ dialect, IsDialectSetting e)
  output : (setting settings "output").IsNullOr (IsMapOf IsOutput)

/-- A configuration as it is documented: null or a mapping, whose settings are null or of their
kinds. -/
def IsDocumented (v : Value) : Prop :=
  v.IsNullOr (IsMapOf fun settings => AreTyped settings ∧
    (setting settings "packages").IsNullOr (IsListOf IsPackageItem))

/-- A configuration in loose form: a value that counts as nothing stands for the whole of it or for
its packages, and an empty path stands for a package. -/
def IsLoose (v : Value) : Prop :=
  v.isNothing = true ∨ v.IsMapOf fun settings => AreTyped settings ∧
    ((setting settings "packages").isNothing = true ∨
      (setting settings "packages").IsListOf fun item => IsPackageItem item ∨ item = .text "")

/-- Nothing but null stands for the configuration or for its packages, and no package is an empty
path. -/
def IsExplicit (v : Value) : Prop :=
  (v.isNothing = true → v.IsNullOr (IsMapOf fun _ => True)) ∧
    ∀ settings, v = .map settings →
      ((setting settings "packages").isNothing = true →
        (setting settings "packages").IsNullOr (IsListOf fun _ => True)) ∧
        ∀ items, setting settings "packages" = .list items → Value.text "" ∉ items

/-- Settings without any setting are of their kinds. -/
theorem areTyped_nil : AreTyped [] :=
  ⟨.inl rfl, .inl rfl, .inl rfl, .inl rfl, .inl rfl⟩

/-- An empty path alone is no item of the list of packages. -/
theorem not_isPackageItem_empty : ¬ IsPackageItem (.text "") := by
  rintro (⟨path, heq, hne⟩ | ⟨settings, heq, -⟩)
  · exact hne (Value.text.inj heq).symm
  · cases heq

/-- Packages are documented exactly if they are in loose form and explicit. -/
theorem isNullOr_isPackageItem_iff (packages : Value) :
    packages.IsNullOr (IsListOf IsPackageItem) ↔
      (packages.isNothing = true ∨
        packages.IsListOf fun item => IsPackageItem item ∨ item = .text "") ∧
      (packages.isNothing = true → packages.IsNullOr (IsListOf fun _ => True)) ∧
        ∀ items, packages = .list items → Value.text "" ∉ items := by
  constructor
  · rintro (rfl | ⟨items, rfl, hitems⟩)
    · exact ⟨.inl rfl, fun _ => .inl rfl, fun _ h => nomatch h⟩
    · refine ⟨.inr ⟨items, rfl, fun item hitem => .inl (hitems item hitem)⟩,
        fun _ => .inr ⟨items, rfl, fun _ _ => trivial⟩, ?_⟩
      rintro items' ⟨⟩ hempty
      exact not_isPackageItem_empty (hitems _ hempty)
  · rintro ⟨hnothing | ⟨items, rfl, hitems⟩, hstands, hempty⟩
    · rcases hstands hnothing with hnull | ⟨items, rfl, -⟩
      · exact .inl hnull
      · refine .inr ⟨items, rfl, ?_⟩
        simp [List.isEmpty_iff.mp hnothing]
    · refine .inr ⟨items, rfl, fun item hitem => (hitems item hitem).resolve_right ?_⟩
      rintro rfl
      exact hempty items rfl hitem

/-- For a mapping it is its packages alone that are in loose form. -/
theorem isLoose_map_iff (settings : List (Value × Value)) :
    IsLoose (.map settings) ↔ AreTyped settings ∧
      ((setting settings "packages").isNothing = true ∨
        (setting settings "packages").IsListOf fun item =>
          IsPackageItem item ∨ item = .text "") := by
  rw [IsLoose, Value.isMapOf_map_iff]
  refine or_iff_right_of_imp fun hnothing => ?_
  rw [List.isEmpty_iff.mp hnothing]
  exact ⟨areTyped_nil, .inl rfl⟩

/-- A configuration is documented exactly if it is in loose form and explicit. -/
theorem isDocumented_iff (v : Value) : IsDocumented v ↔ IsLoose v ∧ IsExplicit v := by
  by_cases hmap : ∃ settings, v = .map settings
  · obtain ⟨settings, rfl⟩ := hmap
    rw [isLoose_map_iff, and_assoc]
    simp only [IsDocumented, IsExplicit, Value.IsNullOr, IsMapOf, Value.map.injEq, exists_eq_left',
      forall_eq', reduceCtorEq, false_or, and_true, exists_eq', implies_true, true_and]
    exact and_congr_right fun _ => isNullOr_isPackageItem_iff _
  · have hnot : ∀ shape, ¬ v.IsMapOf shape := fun _ h => hmap h.exists_eq
    have hnull : v = .null → v.isNothing = true := fun h => h ▸ rfl
    simp only [IsDocumented, IsLoose, IsExplicit, Value.IsNullOr, hnot, or_false]
    exact ⟨fun h => ⟨hnull h, fun _ => h, fun settings hv => (hmap ⟨settings, hv⟩).elim⟩,
      fun h => h.2.1 h.1⟩

/-! ### Accepted configurations -/

/-- The settings in a value are read if it is null or a mapping that is read. -/
theorem exists_asSettings_bind_iff {α : Type} {f : List (Value × Value) → Except Error α}
    (hnil : ∃ a, f [] = .ok a) (name : String) (v : Value) :
    (∃ a, (asSettings name v >>= f) = .ok a) ↔
      v.IsNullOr (IsMapOf fun settings => ∃ a, f settings = .ok a) := by
  simp only [Except.bind_eq_ok_iff, asSettings_eq_ok_iff]
  constructor
  · rintro ⟨a, settings, ⟨rfl, -⟩ | rfl, h⟩
    · exact .inl rfl
    · exact .inr ⟨settings, rfl, a, h⟩
  · rintro (rfl | ⟨settings, rfl, a, h⟩)
    · obtain ⟨a, ha⟩ := hnil
      exact ⟨a, [], .inl ⟨rfl, rfl⟩, ha⟩
    · exact ⟨a, settings, .inr rfl, h⟩

theorem exists_outputOf_eq_ok_iff (root : Path) (settings : List (Value × Value)) :
    (∃ o, outputOf root settings = .ok o) ↔ IsOutput settings := by
  rw [IsOutput, ← exists_asName_eq_ok_iff "output.package" "packages",
    ← exists_asName_eq_ok_iff "output.directory" ""]
  simp only [outputOf_eq_ok_iff]
  constructor
  · rintro ⟨o, directory, hdirectory, hpackage, -⟩
    exact ⟨⟨_, hpackage⟩, ⟨_, hdirectory⟩⟩
  · rintro ⟨⟨package, hpackage⟩, ⟨directory, hdirectory⟩⟩
    exact ⟨⟨package, _⟩, directory, hdirectory, hpackage, rfl⟩

/-- A package is read from an item of the list, and from an empty path. -/
theorem exists_isReadFrom_iff (v : Value) :
    (∃ e : PackageEntry, e.IsReadFrom v) ↔ IsPackageItem v ∨ v = .text "" := by
  constructor
  · rintro ⟨e, ⟨rfl, -⟩ | ⟨settings, rfl, hpath, hne, hdir, hinit⟩⟩
    · by_cases hempty : e.path = ""
      · exact .inr (by rw [hempty])
      · exact .inl (.inl ⟨e.path, rfl, hempty⟩)
    · exact .inl (.inr ⟨settings, rfl, ⟨e.path, hpath, hne⟩,
        (Value.isNullOr_isText_iff _).mpr ⟨e.dir, hdir⟩,
        (Value.isNullOr_isText_iff _).mpr ⟨e.init, hinit⟩⟩)
  · rintro ((⟨path, rfl, -⟩ | ⟨settings, rfl, ⟨path, hpath, hne⟩, hdir, hinit⟩) | rfl)
    · exact ⟨{ path }, .inl ⟨rfl, rfl, rfl⟩⟩
    · obtain ⟨dir, hdir⟩ := (Value.isNullOr_isText_iff _).mp hdir
      obtain ⟨init, hinit⟩ := (Value.isNullOr_isText_iff _).mp hinit
      exact ⟨{ path, dir, init }, .inr ⟨settings, rfl, hpath, hne, hdir, hinit⟩⟩
    · exact ⟨{ path := "" }, .inl ⟨rfl, rfl, rfl⟩⟩

/-- A list has counterparts for all of its members exactly if each member has one. -/
theorem exists_forall₂_iff {α β : Type} {R : α → β → Prop} {l : List α} :
    (∃ l', List.Forall₂ R l l') ↔ ∀ a ∈ l, ∃ b, R a b := by
  induction l with
  | nil => simp
  | cons a rest ih =>
    rw [List.forall_mem_cons, ← ih]
    constructor
    · rintro ⟨_, hab | ⟨hab, hrest⟩⟩
      exact ⟨⟨_, hab⟩, _, hrest⟩
    · rintro ⟨⟨b, hab⟩, l', hrest⟩
      exact ⟨b :: l', .cons hab hrest⟩

theorem exists_packagesOf_eq_ok_iff (v : Value) :
    (∃ entries, packagesOf v = .ok entries) ↔
      v.isNothing = true ∨ v.IsListOf fun item => IsPackageItem item ∨ item = .text "" := by
  simp only [packagesOf_eq_ok_iff, exists_or, exists_and_left, exists_eq, and_true, IsListOf,
    ← exists_isReadFrom_iff, ← exists_forall₂_iff]
  refine or_congr_right ⟨?_, ?_⟩
  · rintro ⟨entries, items, rfl, hitems⟩
    exact ⟨items, rfl, entries, hitems⟩
  · rintro ⟨items, rfl, entries, hitems⟩
    exact ⟨entries, items, rfl, hitems⟩

/-- Settings are accepted if they are of their kinds and their packages, if any, are read. -/
theorem exists_ofSettings_eq_ok_iff (root : Path) (settings : List (Value × Value)) :
    (∃ c, ofSettings root settings = .ok c) ↔ AreTyped settings ∧
      ((setting settings "packages").isNothing = true ∨
        (setting settings "packages").IsListOf fun item =>
          IsPackageItem item ∨ item = .text "") := by
  have hdialect := exists_asSettings_bind_iff (f := dialectOf) ⟨{}, rfl⟩ "dialect"
    (setting settings "dialect")
  simp only [exists_dialectOf_eq_ok_iff] at hdialect
  have houtput := exists_asSettings_bind_iff (f := outputOf root) ⟨{}, rfl⟩ "output"
    (setting settings "output")
  simp only [exists_outputOf_eq_ok_iff] at houtput
  rw [← exists_packagesOf_eq_ok_iff]
  simp only [ofSettings_eq_ok_iff]
  constructor
  · rintro ⟨c, -, h1, h2, h3, h4, h5, h6⟩
    exact ⟨⟨(exists_asTexts_eq_ok_iff _ _).mp ⟨_, h1⟩, (exists_asName_eq_ok_iff _ _ _).mp ⟨_, h2⟩,
      (exists_asName_eq_ok_iff _ _ _).mp ⟨_, h3⟩, hdialect.mp ⟨_, h4⟩, houtput.mp ⟨_, h5⟩⟩, _, h6⟩
  · rintro ⟨⟨h1, h2, h3, h4, h5⟩, packages, hpackages⟩
    obtain ⟨excluded, hexcluded⟩ := (exists_asTexts_eq_ok_iff "exclude_symbols" _).mpr h1
    obtain ⟨strategy, hstrategy⟩ := (exists_asName_eq_ok_iff "strategy" "strict" _).mpr h2
    obtain ⟨format, hformat⟩ := (exists_asName_eq_ok_iff "format" "go" _).mpr h3
    obtain ⟨dialect, hdialect⟩ := hdialect.mpr h4
    obtain ⟨output, houtput⟩ := houtput.mpr h5
    exact ⟨⟨root, excluded, strategy, format, dialect, output, packages⟩, rfl, hexcluded, hstrategy,
      hformat, hdialect, houtput, hpackages⟩

/-- A value is accepted exactly if it is a configuration in loose form. -/
theorem exists_ofValue_eq_ok_iff (root : Path) (file : String) (v : Value) :
    (∃ c, ofValue root file v = .ok c) ↔ IsLoose v := by
  by_cases hmap : ∃ settings, v = .map settings
  · obtain ⟨settings, rfl⟩ := hmap
    rw [ofValue_map, exists_ofSettings_eq_ok_iff, isLoose_map_iff]
  · rw [IsLoose, or_iff_left fun h => hmap h.exists_eq]
    unfold ofValue
    split
    · rename_i hnothing
      exact iff_of_true ⟨_, rfl⟩ hnothing
    · rename_i hsome
      refine iff_of_false ?_ hsome
      rintro ⟨c, hc⟩
      split at hc
      · exact hmap ⟨_, rfl⟩
      · cases hc

/-- Which configuration files are accepted: those whose value is a configuration in loose form, so
the documented ones and those in which something other than null stands for nothing, or an empty
path for a package. -/
theorem accepts_iff_isLoose {host : Host} {tree : FileTree} {path : Option String} {file : Path}
    (h : valueAt? host tree path = some (file, v)) :
    ((∃ c, load host tree path = .ok c) ↔ IsLoose v) ∧
      (IsDocumented v ↔ IsLoose v ∧ IsExplicit v) := by
  rw [load_of_valueAt? h]
  exact ⟨exists_ofValue_eq_ok_iff _ _ v, isDocumented_iff v⟩

/-- Configuration files: a documented one, one that only holds false, one whose packages are the
number zero, and one with an empty path for a package. -/
def shapedFiles : FileTree :=
  { root := .dir [
      (".bindgen.yml", .ofText ("dialect:\n  imports: [reflect, 'a b']\n  value_map: null\n" ++
        "7: [x]\noutput: \x7bdirectory: gen\x7d\npackages:\n- a\n- \x7bpath: b, init: ''\x7d\n")),
      ("false.yml", .ofText "false\n"),
      ("path.yml", .ofText "packages: ['']\n"),
      ("zero.yml", .ofText "packages: 0\n")]
    home := [] }

/-- The value of the documented one. -/
def shapedValue : Value :=
  .map [(.text "dialect", .map [(.text "imports", .list [.text "reflect", .text "a b"]),
      (.text "value_map", .null)]),
    (.whole 7, .list [.text "x"]),
    (.text "output", .map [(.text "directory", .text "gen")]),
    (.text "packages",
      .list [.text "a", .map [(.text "path", .text "b"), (.text "init", .text "")]])]

theorem accepts_iff_isLoose_shapedFiles :
    valueAt? {} shapedFiles none = some (.ofText "/.bindgen.yml", shapedValue) ∧
      IsDocumented shapedValue := by
  have hrun : valueAt? {} shapedFiles none = some (.ofText "/.bindgen.yml", shapedValue) ∧
      load {} shapedFiles none = .ok
        { root := .ofText "/"
          dialect := { valueMap := none, imports := ["reflect", "a b"] }
          output := { directory := some (.ofText "/gen") }
          packages := [{ path := "a" }, { path := "b", init := some "" }] } := by
    decide +kernel
  obtain ⟨hvalue, hload⟩ := hrun
  have hexplicit : IsExplicit shapedValue := by
    refine ⟨fun _ => .inr ⟨_, rfl, trivial⟩, ?_⟩
    rintro settings ⟨⟩
    refine ⟨fun _ => .inr ⟨_, rfl, fun _ _ => trivial⟩, ?_⟩
    rintro items ⟨⟩
    decide
  obtain ⟨haccepts, hdocumented⟩ := accepts_iff_isLoose hvalue
  exact ⟨hvalue, hdocumented.mpr ⟨haccepts.mp ⟨_, hload⟩, hexplicit⟩⟩

/-- Values are accepted that are no documented configurations: false as a whole, zero for the
packages, and an empty path for a package. -/
theorem not_isDocumented_of_accepted :
    (valueAt? {} shapedFiles (some "false.yml") = some (.ofText "/false.yml", .truth false) ∧
      load {} shapedFiles (some "false.yml") = .ok { root := .ofText "/" } ∧
      ¬ IsDocumented (.truth false)) ∧
    (valueAt? {} shapedFiles (some "zero.yml") =
        some (.ofText "/zero.yml", .map [(.text "packages", .whole 0)]) ∧
      load {} shapedFiles (some "zero.yml") = .ok { root := .ofText "/" } ∧
      ¬ IsDocumented (.map [(.text "packages", .whole 0)])) ∧
    valueAt? {} shapedFiles (some "path.yml") =
        some (.ofText "/path.yml", .map [(.text "packages", .list [.text ""])]) ∧
      load {} shapedFiles (some "path.yml") =
        .ok { root := .ofText "/", packages := [{ path := "" }] } ∧
      ¬ IsDocumented (.map [(.text "packages", .list [.text ""])]) := by
  have hrun :
      (valueAt? {} shapedFiles (some "false.yml") = some (.ofText "/false.yml", .truth false) ∧
        load {} shapedFiles (some "false.yml") = .ok { root := .ofText "/" }) ∧
      (valueAt? {} shapedFiles (some "zero.yml") =
          some (.ofText "/zero.yml", .map [(.text "packages", .whole 0)]) ∧
        load {} shapedFiles (some "zero.yml") = .ok { root := .ofText "/" }) ∧
      valueAt? {} shapedFiles (some "path.yml") =
          some (.ofText "/path.yml", .map [(.text "packages", .list [.text ""])]) ∧
        load {} shapedFiles (some "path.yml") =
          .ok { root := .ofText "/", packages := [{ path := "" }] } := by
    decide +kernel
  obtain ⟨⟨hvalue, hload⟩, ⟨hvalue', hload'⟩, hvalue'', hload''⟩ := hrun
  refine ⟨⟨hvalue, hload, ?_⟩, ⟨hvalue', hload', ?_⟩, hvalue'', hload'', ?_⟩
  · simp [isDocumented_iff, IsExplicit, Value.IsNullOr, IsMapOf, Value.isNothing]
  · simp [isDocumented_iff, IsExplicit, Value.IsNullOr, IsListOf, setting_cons, Value.isNothing]
  · simp [isDocumented_iff, IsExplicit, setting_cons]

end Config

end Registrar
