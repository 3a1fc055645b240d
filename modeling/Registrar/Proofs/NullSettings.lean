import Registrar.Proofs.ConfigShape

/-!
# Settings that are null

A setting that is null is left out of a configuration without a change, at whatever place it stands,
but for the settings of the dialect: there null takes a text away or empties the imports, and only
without the setting the default is kept.
-/

namespace Registrar

open Yaml (Value)
open Yaml.Value (IsText IsListOf IsMapOf)

namespace Config

variable {front back settings : List (Value × Value)} {key v v' : Value} {path : List Value}
variable {name : String}

/-- Leaving out an entry that is null. The path holds the keys and the places in lists that lead to
the entry, its own key at the end, and each of these keys stands once in its mapping. -/
inductive DropsNull : List Value → Value → Value → Prop
  | entry (front back : List (Value × Value)) {key : Value} (hnew : IsNew key (front ++ back)) :
      DropsNull [key] (.map (front ++ (key, .null) :: back)) (.map (front ++ back))
  | value (front back : List (Value × Value)) {key v v' : Value} {path : List Value}
      (hnew : IsNew key (front ++ back)) (h : DropsNull path v v') :
      DropsNull (key :: path) (.map (front ++ (key, v) :: back)) (.map (front ++ (key, v') :: back))
  | item (front back : List Value) {v v' : Value} {path : List Value} (h : DropsNull path v v') :
      DropsNull (.whole front.length :: path) (.list (front ++ v :: back))
        (.list (front ++ v' :: back))

theorem isNew_of_append (h : IsNew key (front ++ back)) : IsNew key front :=
  fun name hname v hv => h name hname v (List.mem_append_left back hv)

/-- Null and texts have no entries. -/
theorem DropsNull.not_isNullOr_isText (h : DropsNull path v v') : ¬ v.IsNullOr IsText := by
  rintro (rfl | ⟨s, rfl⟩) <;> cases h

/-- Lists of texts have no entries. -/
theorem DropsNull.not_isNullOr_isListOf_isText (h : DropsNull path v v') :
    ¬ v.IsNullOr (IsListOf IsText) := by
  rintro (rfl | ⟨items, rfl, hitems⟩)
  · cases h
  · cases h with
    | item _ _ h => exact h.not_isNullOr_isText (.inr (hitems _ (by simp)))

/-- What counts as nothing has no entries. -/
theorem DropsNull.isNothing_eq_false (h : DropsNull path v v') : v.isNothing = false := by
  cases h <;> simp [Value.isNothing]

/-- A mapping without an entry is a mapping. Its settings are the same, except for one that is
itself without an entry if the path leads into it. -/
theorem DropsNull.map_cases (h : DropsNull path (.map settings) v') :
    ∃ settings', v' = .map settings' ∧ ∀ name,
      (setting settings' name = setting settings name ∧
        ∀ key rest, path ≠ .text name :: key :: rest) ∨
      ∃ rest, path = .text name :: rest ∧
        DropsNull rest (setting settings name) (setting settings' name) := by
  cases h with
  | entry _ _ hnew =>
    refine ⟨_, rfl, fun name => .inl ⟨?_, by simp⟩⟩
    rw [setting_append_cons (isNew_of_append hnew)]
    split
    · rename_i hkey
      rcases setting_cases (_ ++ _) name with hmem | ⟨-, hnull⟩
      · exact absurd hmem (hnew name hkey _)
      · exact hnull
    · rfl
  | @value _ _ key _ _ rest hnew h =>
    refine ⟨_, rfl, fun name => ?_⟩
    rw [setting_append_cons (isNew_of_append hnew), setting_append_cons (isNew_of_append hnew)]
    by_cases hkey : key = .text name
    · rw [if_pos hkey, if_pos hkey, hkey]
      exact .inr ⟨rest, rfl, h⟩
    · rw [if_neg hkey, if_neg hkey]
      exact .inl ⟨rfl, fun _ _ heq => hkey (List.cons.inj heq).1⟩

/-- Settings that are null or a text stay as they are. -/
theorem DropsNull.exists_map (h : DropsNull path (.map settings) v') :
    ∃ settings', v' = .map settings' ∧ ∀ name, (setting settings name).IsNullOr IsText →
      setting settings' name = setting settings name := by
  obtain ⟨settings', rfl, hsettings⟩ := h.map_cases
  refine ⟨settings', rfl, fun name htext => ?_⟩
  rcases hsettings name with ⟨hsame, -⟩ | ⟨rest, -, hdrop⟩
  · exact hsame
  · exact absurd htext hdrop.not_isNullOr_isText

/-! ### The parts of a configuration -/

/-- A member of a list has its counterpart too where something else stands in its place. -/
theorem forall₂_append_cons_imp {α β : Type} {R : α → β → Prop} {front back : List α} {a a' : α}
    {l : List β} (h : List.Forall₂ R (front ++ a :: back) l) (himp : ∀ b, R a b → R a' b) :
    List.Forall₂ R (front ++ a' :: back) l := by
  induction front generalizing l with
  | nil =>
    cases h with
    | cons ha hback => exact .cons (himp _ ha) hback
  | cons x front ih =>
    cases h with
    | cons hx hrest => exact .cons hx (ih hrest)

theorem isReadFrom_of_dropsNull (hdrop : DropsNull path v v') {e : PackageEntry}
    (h : e.IsReadFrom v) : e.IsReadFrom v' := by
  rcases h with ⟨rfl, -⟩ | ⟨settings, rfl, hpath, hne, hdir, hinit⟩
  · exact absurd (.inr ⟨_, rfl⟩) hdrop.not_isNullOr_isText
  · obtain ⟨settings', rfl, hsame⟩ := hdrop.exists_map
    refine .inr ⟨settings', rfl, ?_, hne, ?_, ?_⟩
    · rw [hsame _ (.inr ⟨_, hpath⟩), hpath]
    · rw [hsame _ ((Value.isNullOr_isText_iff _).mpr ⟨_, hdir⟩), hdir]
    · rw [hsame _ ((Value.isNullOr_isText_iff _).mpr ⟨_, hinit⟩), hinit]

/-- What is read from a value is the same without an entry of it that is null. -/
def PassesOverNull {α : Type} (read : Value → Except Error α) : Prop :=
  ∀ path v v' a, DropsNull path v v' → read v = .ok a → read v' = .ok a

theorem passesOverNull_asTexts (name : String) : PassesOverNull (asTexts name) :=
  fun _ _ _ _ hdrop h =>
    absurd ((exists_asTexts_eq_ok_iff _ _).mp ⟨_, h⟩) hdrop.not_isNullOr_isListOf_isText

theorem passesOverNull_asName (name default : String) : PassesOverNull (asName name default) :=
  fun _ _ _ _ hdrop h =>
    absurd ((exists_asName_eq_ok_iff _ _ _).mp ⟨_, h⟩) hdrop.not_isNullOr_isText

theorem passesOverNull_packagesOf : PassesOverNull packagesOf := by
  intro path v v' entries hdrop h
  rw [packagesOf_eq_ok_iff] at h ⊢
  rcases h with ⟨hnothing, -⟩ | ⟨items, rfl, hitems⟩
  · cases hdrop.isNothing_eq_false.symm.trans hnothing
  · cases hdrop with
    | item _ _ hdrop =>
      exact .inr ⟨_, rfl, forall₂_append_cons_imp hitems fun e => isReadFrom_of_dropsNull hdrop⟩

/-- Settings that are without an entry are those of a mapping. -/
theorem DropsNull.eq_map_of_asSettings (hdrop : DropsNull path v v')
    (h : asSettings name v = .ok settings) : v = .map settings := by
  rcases (asSettings_eq_ok_iff _ _ _).mp h with ⟨rfl, -⟩ | rfl
  · exact absurd (.inl rfl) hdrop.not_isNullOr_isText
  · rfl

theorem passesOverNull_outputOf (root : Path) :
    PassesOverNull fun v => asSettings "output" v >>= outputOf root := by
  intro path v v' o hdrop h
  obtain ⟨settings, hsettings, ho⟩ := (Except.bind_eq_ok_iff _ _ _).mp h
  obtain rfl := hdrop.eq_map_of_asSettings hsettings
  obtain ⟨hpackage, hdirectory⟩ := (exists_outputOf_eq_ok_iff root settings).mp ⟨o, ho⟩
  obtain ⟨settings', rfl, hsame⟩ := hdrop.exists_map
  change outputOf root settings' = .ok o
  rw [outputOf_eq_ok_iff] at ho ⊢
  rwa [hsame _ hpackage, hsame _ hdirectory]

/-- No setting of a dialect has entries. -/
theorem DropsNull.not_isDialectSetting (hdrop : DropsNull path v v') :
    ¬ IsDialectSetting (key, v) := by
  rintro ⟨name, -, -, hvalue⟩
  rw [IsDialectValue] at hvalue
  split at hvalue
  · exact hdrop.not_isNullOr_isListOf_isText hvalue
  · exact hdrop.not_isNullOr_isText hvalue

/-- Without a setting that is null a dialect keeps the default for its name. -/
theorem dialectOf_of_dropsNull {d : Dialect} (hdrop : DropsNull path (.map settings) v')
    (h : dialectOf settings = .ok d) :
    ∃ name ∈ dialectNames, path = [.text name] ∧ d.setting name = meant name .null ∧
      ∃ settings' d', v' = .map settings' ∧ dialectOf settings' = .ok d' ∧ ∀ other,
        d'.setting other =
          if other = name then ({} : Dialect).setting other else d.setting other := by
  have hsettings := (exists_dialectOf_eq_ok_iff settings).mp ⟨d, h⟩
  cases hdrop with
  | @value front back key x _ _ _ hdrop =>
    exact absurd (hsettings (key, x) (by simp)) hdrop.not_isDialectSetting
  | @entry front back key hnew =>
    obtain ⟨name, hname, hkey, -⟩ := hsettings (key, .null) (by simp)
    cases hkey
    have hrest : ∀ e ∈ front ++ back, IsDialectSetting e := by
      intro e he
      refine hsettings e ?_
      rcases List.mem_append.mp he with he | he
      · exact List.mem_append_left _ he
      · exact List.mem_append_right _ (List.mem_cons_of_mem _ he)
    obtain ⟨d', hd'⟩ := (exists_dialectOf_eq_ok_iff _).mpr hrest
    have habsent : lastValue? (front ++ back) name = none :=
      lastValue?_eq_none_iff.mpr (hnew name rfl)
    have hlast : ∀ other, lastValue? (front ++ (.text name, .null) :: back) other =
        if other = name then some .null else lastValue? (front ++ back) other := by
      intro other
      rw [lastValue?_append, Option.or_eq_none_iff] at habsent
      rw [← List.singleton_append, lastValue?_append, lastValue?_append, lastValue?_append,
        lastValue?_singleton]
      by_cases hother : other = name
      · rw [hother, habsent.1, habsent.2]
        simp
      · simp [hother, Ne.symm hother]
    refine ⟨name, hname, rfl, ?_, _, d', rfl, hd', fun other => ?_⟩
    · rw [setting_of_dialectOf h, hlast, if_pos rfl]
      rfl
    · rw [setting_of_dialectOf hd', setting_of_dialectOf h, hlast]
      by_cases hother : other = name
      · rw [if_pos hother, hother, habsent]
        rfl
      · rw [if_neg hother, if_neg hother]

/-- Null is no default of a dialect. -/
theorem setting_default_ne_meant_null (hname : name ∈ dialectNames) :
    ({} : Dialect).setting name ≠ meant name .null := by
  revert name
  decide

/-- Only the last step of a path into a dialect can lead to a setting of it. -/
theorem dialect_of_dropsNull {d : Dialect} {settings' : List (Value × Value)}
    (hcases : (setting settings' "dialect" = setting settings "dialect" ∧
        ∀ key rest, path ≠ .text "dialect" :: key :: rest) ∨
      ∃ rest, path = .text "dialect" :: rest ∧
        DropsNull rest (setting settings "dialect") (setting settings' "dialect"))
    (h : (asSettings "dialect" (setting settings "dialect") >>= dialectOf) = .ok d) :
    ∃ d', (asSettings "dialect" (setting settings' "dialect") >>= dialectOf) = .ok d' ∧
      (d' = d ↔ ∀ name, path ≠ [.text "dialect", .text name]) ∧
      ∀ name, path = [.text "dialect", .text name] → d.setting name = meant name .null ∧
        ∀ other, d'.setting other =
          if other = name then ({} : Dialect).setting other else d.setting other := by
  rcases hcases with ⟨hsame, hpath⟩ | ⟨rest, rfl, hdrop⟩
  · exact ⟨d, by rwa [hsame], iff_of_true rfl fun name => hpath _ _,
      fun name heq => absurd heq (hpath _ _)⟩
  · obtain ⟨own, hown, h⟩ := (Except.bind_eq_ok_iff _ _ _).mp h
    rw [hdrop.eq_map_of_asSettings hown] at hdrop
    obtain ⟨name, hname, rfl, hnull, own', d', hmap, hread, hsets⟩ := dialectOf_of_dropsNull hdrop h
    rw [hmap]
    refine ⟨d', hread, iff_of_false ?_ fun hpath => hpath name rfl, ?_⟩
    · intro heq
      have hdefault := hsets name
      rw [if_pos rfl, heq, hnull] at hdefault
      exact setting_default_ne_meant_null hname hdefault.symm
    · rintro name' ⟨⟩
      exact ⟨hnull, hsets⟩

/-- A configuration without a setting that is null. It is accepted too, and the same unless the
setting is one of the dialect; then the dialect has the default of the setting's name where it had
no text or no imports, and all else is the same. -/
theorem ofValue_dropsNull_iff {root : Path} {file : String} {c : Config}
    (hdrop : DropsNull path (.map settings) v') (h : ofValue root file (.map settings) = .ok c) :
    ∃ c', ofValue root file v' = .ok c' ∧
      (c' = c ↔ ∀ name, path ≠ [.text "dialect", .text name]) ∧
      ∀ name, path = [.text "dialect", .text name] →
        c' = { c with dialect := c'.dialect } ∧ c.dialect.setting name = meant name .null ∧
          ∀ other, c'.dialect.setting other =
            if other = name then ({} : Dialect).setting other else c.dialect.setting other := by
  obtain ⟨settings', rfl, hsettings⟩ := hdrop.map_cases
  have hpart : ∀ {α : Type} {read : Value → Except Error α} {a : α} (name : String),
      PassesOverNull read → read (setting settings name) = .ok a →
      read (setting settings' name) = .ok a := by
    intro α read a name hread ha
    rcases hsettings name with ⟨hsame, -⟩ | ⟨rest, -, hdrop⟩
    · rwa [hsame]
    · exact hread _ _ _ _ hdrop ha
  rw [ofValue_map] at h ⊢
  obtain ⟨hroot, hexcluded, hstrategy, hformat, hdialect, houtput, hpackages⟩ :=
    (ofSettings_eq_ok_iff root settings c).mp h
  obtain ⟨d', hd', hsame, hdefault⟩ := dialect_of_dropsNull (hsettings "dialect") hdialect
  refine ⟨{ c with dialect := d' }, (ofSettings_eq_ok_iff _ _ _).mpr ⟨hroot,
    hpart _ (passesOverNull_asTexts _) hexcluded, hpart _ (passesOverNull_asName _ _) hstrategy,
    hpart _ (passesOverNull_asName _ _) hformat, hd',
    hpart _ (passesOverNull_outputOf root) houtput, hpart _ passesOverNull_packagesOf hpackages⟩,
    ?_, fun name heq => ⟨rfl, hdefault name heq⟩⟩
  rw [← hsame]
  exact ⟨fun heq => congrArg Config.dialect heq, fun heq => by rw [heq]⟩

/-- Settings with null in each place that holds settings. -/
def nullSettings : List (Value × Value) :=
  [(.text "strategy", .null),
    (.text "dialect", .map [(.text "value_map", .null), (.text "type_map", .text "T")]),
    (.text "output", .map [(.text "directory", .null)]),
    (.text "packages", .list [.text "a", .map [(.text "path", .text "b"), (.text "dir", .null)]])]

/-- Without the directory of the second package all is the same, without the text of the dialect the
dialect is not. -/
theorem ofValue_dropsNull_iff_nullSettings :
    ∃ c withoutDir withoutText,
      ofValue (.ofText "/etc") "own.yml" (.map nullSettings) = .ok c ∧
      DropsNull [.text "packages", .whole 1, .text "dir"] (.map nullSettings) withoutDir ∧
      ofValue (.ofText "/etc") "own.yml" withoutDir = .ok c ∧
      DropsNull [.text "dialect", .text "value_map"] (.map nullSettings) withoutText ∧
      ∃ c' ≠ c, ofValue (.ofText "/etc") "own.yml" withoutText = .ok c' := by
  have hread : ofValue (.ofText "/etc") "own.yml" (.map nullSettings) = .ok
      { root := .ofText "/etc"
        dialect := { valueMap := none, typeMap := some "T" }
        packages := [{ path := "a" }, { path := "b" }] } := by
    decide +kernel
  have hdir : DropsNull [.text "packages", .whole 1, .text "dir"] (.map nullSettings) _ :=
    .value (nullSettings.take 3) [] (by simp [IsNew, nullSettings])
      (.item [.text "a"] [] (.entry [(.text "path", .text "b")] [] (by simp [IsNew])))
  have htext : DropsNull [.text "dialect", .text "value_map"] (.map nullSettings) _ :=
    .value (nullSettings.take 1) (nullSettings.drop 2) (by simp [IsNew, nullSettings])
      (.entry [] [(.text "type_map", .text "T")] (by simp [IsNew]))
  obtain ⟨c₁, hwithoutDir, hsame, -⟩ := ofValue_dropsNull_iff hdir hread
  obtain ⟨c₂, hwithoutText, hother, -⟩ := ofValue_dropsNull_iff htext hread
  rw [hsame.mpr (by simp)] at hwithoutDir
  exact ⟨_, _, _, hread, hdir, hwithoutDir, htext, c₂,
    fun heq => hother.mp heq "value_map" rfl, hwithoutText⟩

/-- A text of the dialect that is null, alone in its mapping, is no default: the configuration
without it differs. -/
theorem not_ofValue_eq_of_dropsNull :
    DropsNull [.text "dialect", .text "value_registry"]
        (.map [(.text "dialect", .map [(.text "value_registry", .null)])])
        (.map [(.text "dialect", .map [])]) ∧
      ofValue (.ofText "/") ".bindgen.yml"
          (.map [(.text "dialect", .map [(.text "value_registry", .null)])]) =
        .ok { root := .ofText "/", dialect := { valueRegistry := none } } ∧
      ofValue (.ofText "/") ".bindgen.yml" (.map [(.text "dialect", .map [])]) =
        .ok { root := .ofText "/", dialect := {} } ∧
      ({ valueRegistry := none } : Dialect) ≠ {} := by
  refine ⟨?_, by decide +kernel⟩
  exact .value [] [] (by simp [IsNew]) (.entry [] [] (by simp [IsNew]))

end Config

end Registrar
