import Registrar.Command
import Registrar.Proofs.ConfigShape

/-!
# How a configuration fails

Whatever the value of a configuration file is, reading it fails with a rejection, which the commands
report. There is one exception: the settings of a dialect are named in the message about unknown
names, and a key that is no text cannot be.
-/

namespace Registrar

open Yaml (Value)
open Yaml.Value (IsText IsListOf IsMapOf)

namespace Config

variable {α β : Type} {settings : List (Value × Value)} {v : Value}

/-- A computation fails only with a rejection. -/
def OnlyRejects (x : Except Error α) : Prop :=
  ∀ e, x = .error e → ∃ r, e = .rejected r

theorem onlyRejects_ok (a : α) : OnlyRejects (.ok a : Except Error α) :=
  fun _ h => nomatch h

theorem onlyRejects_error (r : Rejection) : OnlyRejects (.error (.rejected r) : Except Error α) :=
  fun _ h => ⟨r, (Except.error.inj h).symm⟩

/-- A chain fails only with a rejection if both of its parts do. -/
theorem OnlyRejects.bind {x : Except Error α} {f : α → Except Error β} (hx : OnlyRejects x)
    (hf : ∀ a, x = .ok a → OnlyRejects (f a)) : OnlyRejects (x >>= f) := by
  intro e h
  rcases (Except.bind_eq_error_iff x f e).mp h with h | ⟨a, ha, h⟩
  · exact hx e h
  · exact hf a ha e h

theorem onlyRejects_asText (name : String) (v : Value) : OnlyRejects (asText name v) := by
  cases v <;> first | exact onlyRejects_ok _ | exact onlyRejects_error _

theorem onlyRejects_asName (name default : String) (v : Value) :
    OnlyRejects (asName name default v) := by
  refine (onlyRejects_asText name v).bind fun t _ => ?_
  cases t <;> exact onlyRejects_ok _

theorem onlyRejects_asTexts (name : String) (v : Value) : OnlyRejects (asTexts name v) := by
  cases v with
  | null => exact onlyRejects_ok _
  | list items =>
    rw [asTexts]
    split
    · exact onlyRejects_ok _
    · exact onlyRejects_error _
  | _ => exact onlyRejects_error _

theorem onlyRejects_asSettings (name : String) (v : Value) : OnlyRejects (asSettings name v) := by
  cases v <;> first | exact onlyRejects_ok _ | exact onlyRejects_error _

theorem onlyRejects_outputOf (root : Path) (settings : List (Value × Value)) :
    OnlyRejects (outputOf root settings) :=
  (onlyRejects_asName _ _ _).bind fun _ _ =>
    (onlyRejects_asName _ _ _).bind fun _ _ => onlyRejects_ok _

theorem onlyRejects_packageOf (index : Nat) (v : Value) : OnlyRejects (packageOf index v) := by
  by_cases htext : ∃ s, v = .text s
  · obtain ⟨s, rfl⟩ := htext
    exact onlyRejects_ok _
  · unfold packageOf
    split
    · exact absurd ⟨_, rfl⟩ htext
    · refine (onlyRejects_asSettings _ _).bind fun settings _ =>
        (onlyRejects_asName _ _ _).bind fun path _ => ?_
      split
      · exact onlyRejects_error _
      · exact (onlyRejects_asText _ _).bind fun dir _ =>
          (onlyRejects_asText _ _).bind fun init _ => onlyRejects_ok _

theorem onlyRejects_packagesFrom (index : Nat) (items : List Value) :
    OnlyRejects (packagesFrom index items) := by
  induction items generalizing index with
  | nil => exact onlyRejects_ok _
  | cons v rest ih =>
    exact (onlyRejects_packageOf index v).bind fun e _ =>
      (ih (index + 1)).bind fun entries _ => onlyRejects_ok _

theorem onlyRejects_packagesOf (v : Value) : OnlyRejects (packagesOf v) := by
  unfold packagesOf
  split
  · exact onlyRejects_ok _
  · split
    · exact onlyRejects_packagesFrom 0 _
    · exact onlyRejects_error _

/-- A setting of a dialect that is named by a text fails only with a rejection. -/
theorem onlyRejects_setDialect (d : Dialect) {e : Value × Value} (he : e.1.IsText) :
    OnlyRejects (setDialect d e) := by
  obtain ⟨k, v⟩ := e
  obtain ⟨name, rfl⟩ := he
  refine (onlyRejects_ok name).bind fun name _ => ?_
  split
  · exact (onlyRejects_asText _ _).bind fun t _ => onlyRejects_ok _
  · exact (onlyRejects_asTexts _ _).bind fun names _ => onlyRejects_ok _

theorem onlyRejects_foldlM_setDialect (d : Dialect) (h : ∀ e ∈ settings, e.1.IsText) :
    OnlyRejects (settings.foldlM setDialect d) := by
  induction settings generalizing d with
  | nil => exact onlyRejects_ok d
  | cons e rest ih =>
    obtain ⟨he, hrest⟩ := List.forall_mem_cons.mp h
    rw [List.foldlM_cons]
    exact (onlyRejects_setDialect d he).bind fun next _ => ih next hrest

/-- A dialect whose settings are all named by texts fails only with a rejection. -/
theorem onlyRejects_dialectOf (h : ∀ e ∈ settings, e.1.IsText) :
    OnlyRejects (dialectOf settings) := by
  obtain ⟨names, hnames⟩ := Except.exists_mapM_eq_ok nameOf settings fun e he => by
    obtain ⟨name, hname⟩ := h e he
    exact ⟨name, (nameOf_eq_ok_iff e name).mpr hname⟩
  rw [dialectOf_eq, hnames, Except.ok_bind]
  split
  · exact onlyRejects_foldlM_setDialect {} h
  · exact onlyRejects_error _

/-- A dialect with a setting that is named by no text fails without a rejection. -/
theorem dialectOf_eq_namelessSetting (h : ∃ e ∈ settings, ¬ e.1.IsText) :
    dialectOf settings = .error .namelessSetting := by
  have hnames : settings.mapM nameOf = .error .namelessSetting := by
    cases hnames : settings.mapM nameOf with
    | ok names =>
      obtain ⟨e, he, hkey⟩ := h
      obtain ⟨name, -, hname⟩ := (Except.mem_of_mapM_eq_ok hnames).1 e he
      exact absurd ⟨name, (nameOf_eq_ok_iff e name).mp hname⟩ hkey
    | error err =>
      obtain ⟨⟨k, v⟩, -, hname⟩ := Except.exists_mem_of_mapM_eq_error hnames
      cases k <;> simp_all [nameOf]
  rw [dialectOf_eq, hnames]
  rfl

/-- A configuration has a dialect with a setting that is named by no text, behind settings of the
kinds that are asked for. -/
def HasNamelessSetting (v : Value) : Prop :=
  v.IsMapOf fun settings => (setting settings "exclude_symbols").IsNullOr (IsListOf IsText) ∧
    (setting settings "strategy").IsNullOr IsText ∧ (setting settings "format").IsNullOr IsText ∧
    (setting settings "dialect").IsMapOf fun dialect => ∃ e ∈ dialect, ¬ e.1.IsText

/-- Settings fail only with a rejection unless they hold a dialect with a nameless setting. -/
theorem onlyRejects_ofSettings (root : Path) (h : ¬ HasNamelessSetting (.map settings)) :
    OnlyRejects (ofSettings root settings) := by
  rw [HasNamelessSetting, Value.isMapOf_map_iff] at h
  refine (onlyRejects_asTexts _ _).bind fun excluded hexcluded =>
    (onlyRejects_asName _ _ _).bind fun strategy hstrategy =>
    (onlyRejects_asName _ _ _).bind fun format hformat =>
    (onlyRejects_asSettings _ _).bind fun dialect hdialect =>
    (onlyRejects_dialectOf ?_).bind fun _ _ =>
    (onlyRejects_asSettings _ _).bind fun output _ =>
    (onlyRejects_outputOf root output).bind fun _ _ =>
    (onlyRejects_packagesOf _).bind fun packages _ => onlyRejects_ok _
  intro e he
  by_contra hkey
  refine h ⟨(exists_asTexts_eq_ok_iff _ _).mp ⟨_, hexcluded⟩,
    (exists_asName_eq_ok_iff _ _ _).mp ⟨_, hstrategy⟩,
    (exists_asName_eq_ok_iff _ _ _).mp ⟨_, hformat⟩, dialect, ?_, e, he, hkey⟩
  rcases (asSettings_eq_ok_iff _ _ _).mp hdialect with ⟨-, rfl⟩ | hmap
  · cases he
  · exact hmap

/-- Settings that hold a dialect with a nameless setting fail without a rejection. -/
theorem ofSettings_eq_namelessSetting (root : Path) (h : HasNamelessSetting (.map settings)) :
    ofSettings root settings = .error .namelessSetting := by
  rw [HasNamelessSetting, Value.isMapOf_map_iff] at h
  obtain ⟨hexcluded, hstrategy, hformat, dialect, hdialect, hkey⟩ := h
  obtain ⟨excluded, hexcluded⟩ := (exists_asTexts_eq_ok_iff "exclude_symbols" _).mpr hexcluded
  obtain ⟨strategy, hstrategy⟩ := (exists_asName_eq_ok_iff "strategy" "strict" _).mpr hstrategy
  obtain ⟨format, hformat⟩ := (exists_asName_eq_ok_iff "format" "go" _).mpr hformat
  have hsettings := (asSettings_eq_ok_iff "dialect" _ dialect).mpr (.inr hdialect)
  simp only [ofSettings, hexcluded, hstrategy, hformat, hsettings, Except.ok_bind,
    dialectOf_eq_namelessSetting hkey, Except.error_bind]

/-- A value fails only with a rejection exactly if it holds no dialect with a nameless setting. -/
theorem onlyRejects_ofValue_iff (root : Path) (file : String) (v : Value) :
    OnlyRejects (ofValue root file v) ↔ ¬ HasNamelessSetting v := by
  by_cases hmap : ∃ settings, v = .map settings
  · obtain ⟨settings, rfl⟩ := hmap
    rw [ofValue_map]
    refine ⟨fun honly hnameless => ?_, onlyRejects_ofSettings root⟩
    obtain ⟨r, hr⟩ := honly _ (ofSettings_eq_namelessSetting root hnameless)
    cases hr
  · refine iff_of_true ?_ fun h => hmap (IsMapOf.exists_eq h)
    unfold ofValue
    split
    · exact onlyRejects_ok _
    · split
      · exact absurd ⟨_, rfl⟩ hmap
      · exact onlyRejects_error _

end Config

namespace Settings

/-- A configuration that is read from a file is accepted or rejected, whatever the value of the file
is, exactly if its dialect has no nameless setting. A rejection is what both commands report before
they end with status two. -/
theorem accepts_or_rejects_iff {host : Host} {s : Settings} {files : FileTree} {file : Path}
    {v : Value} (h : Config.valueAt? host files
      (if s.config = "" then none else some s.config) = some (file, v)) :
    (((∃ c, s.loadConfig host files = .ok c) ∨
        ∃ r, s.loadConfig host files = .error (.config (.rejected r))) ↔
      ¬ Config.HasNamelessSetting v) ∧
    ∀ r, s.loadConfig host files = .error (.config (.rejected r)) →
      (∀ g : Generate, g.settings = s → files.isDir (joinPath g.root g.directory) = true →
        g.run host files = .stop files r.message 2) ∧
      ∀ w : Walk, w.settings = s → files.isDir w.root = true →
        w.run host files = .stop files r.message 2 := by
  refine ⟨?_, fun r hload => ⟨?_, ?_⟩⟩
  · rw [← Config.onlyRejects_ofValue_iff file.parent file.name v, loadConfig,
      Config.load_of_valueAt? h]
    cases Config.ofValue file.parent file.name v with
    | ok c => simp [Config.onlyRejects_ok]
    | error e => simp [Config.OnlyRejects]
  · rintro g rfl hdir
    simp [Generate.run, hdir, hload, Run.fail, Fault.message?]
  · rintro w rfl hroot
    simp [Walk.run, hroot, hload, Run.fail, Fault.message?]

/-- A package, and two configurations to choose from: one with keys of several kinds, the second
package of which has a number for its path, and one with a number as the name of a setting of its
dialect. -/
def keyedFiles : FileTree :=
  { root := .dir [
      (".bindgen.yml", .ofText ("1: a\n~: b\noutput: \x7btrue: c\x7d\n" ++
        "packages: [x, \x7b2: y, path: 3\x7d]\n")),
      ("dialect.yml", .ofText "dialect: \x7b1: a\x7d\n"),
      ("src", .dir [("p", .dir [("x.go", .ofText "package p\n\nvar A = 0\n")])])]
    home := [] }

/-- The value of the first configuration. -/
def keyedValue : Value :=
  .map [(.whole 1, .text "a"), (.null, .text "b"),
    (.text "output", .map [(.truth true, .text "c")]),
    (.text "packages", .list [.text "x", .map [(.whole 2, .text "y"), (.text "path", .whole 3)]])]

/-- The request to print the code of the package under a configuration. -/
def keyedPrint (config : String) : Generate :=
  { settings := { config }, root := "src", path := "p" }

theorem accepts_or_rejects_iff_keyedFiles :
    Config.valueAt? {} keyedFiles none = some (.ofText "/.bindgen.yml", keyedValue) ∧
      ¬ Config.HasNamelessSetting keyedValue ∧
      (keyedPrint "").run {} keyedFiles = .stop keyedFiles "packages[1].path must be a string" 2 ∧
      Walk.run {} { root := "src", out := "gen" } keyedFiles =
        .stop keyedFiles "packages[1].path must be a string" 2 := by
  have hrun : Config.valueAt? {} keyedFiles none = some (.ofText "/.bindgen.yml", keyedValue) ∧
      ({} : Settings).loadConfig {} keyedFiles =
        .error (.config (.rejected (.notText "packages[1].path"))) ∧
      keyedFiles.isDir (joinPath "src" (keyedPrint "").directory) = true ∧
      keyedFiles.isDir "src" = true := by
    decide +kernel
  obtain ⟨hvalue, hload, hdir, hroot⟩ := hrun
  obtain ⟨hends, hreports⟩ := accepts_or_rejects_iff (s := {}) hvalue
  obtain ⟨hprint, hwalk⟩ := hreports _ hload
  exact ⟨hvalue, hends.mp (.inr ⟨_, hload⟩), hprint (keyedPrint "") rfl hdir,
    hwalk { root := "src", out := "gen" } rfl hroot⟩

/-- The value of a file is neither accepted nor rejected: a setting of its dialect is named by a
number. Nothing handles the failure. -/
theorem not_accepts_or_rejects :
    Config.valueAt? {} keyedFiles (some "dialect.yml") = some (.ofText "/dialect.yml",
        .map [(.text "dialect", .map [(.whole 1, .text "a")])]) ∧
      ({ config := "dialect.yml" } : Settings).loadConfig {} keyedFiles =
        .error (.config .namelessSetting) ∧
      ((keyedPrint "dialect.yml").run {} keyedFiles).status =
        .error (.config .namelessSetting) := by
  decide +kernel

end Settings

end Registrar
