import Registrar.Proofs.Setting

/-!
# Settings of a dialect

What a dialect sets is a value for each of its names, and these values determine it. Reading the
settings of a dialect takes exactly the known names with values of their kinds; of several values
for one name the last counts.
-/

namespace Registrar

open Yaml (Value)

namespace Dialect

/-- What a dialect sets for a name; null where a text is missing. -/
def setting (d : Dialect) (name : String) : Value :=
  if name = "value_registry" then .ofOption d.valueRegistry
  else if name = "type_registry" then .ofOption d.typeRegistry
  else if name = "value_map" then .ofOption d.valueMap
  else if name = "type_map" then .ofOption d.typeMap
  else if name = "value_accessor" then .ofOption d.valueAccessor
  else if name = "type_accessor" then .ofOption d.typeAccessor
  else if name = "imports" then .list (d.imports.map .text)
  else .null

variable {d d' : Dialect}

/-- A dialect is determined by what it sets. -/
theorem ext_setting (h : ∀ name ∈ Config.dialectNames, d.setting name = d'.setting name) :
    d = d' := by
  obtain ⟨⟩ := d
  obtain ⟨⟩ := d'
  simpa [Config.dialectNames, Config.dialectTexts, setting,
    (List.map_injective_iff.mpr Value.text_injective).eq_iff] using h

theorem setting_imports (d : Dialect) : d.setting "imports" = .list (d.imports.map .text) := rfl

end Dialect

namespace Config

variable {settings : List (Value × Value)} {d d' : Dialect} {name : String} {v : Value}

/-- What a value sets in a dialect: for the imports null stands for none. -/
def meant (name : String) (v : Value) : Value :=
  if name = "imports" ∧ v = .null then .list [] else v

/-- A value is of the kind that a name of a dialect asks for. -/
def IsDialectValue (name : String) (v : Value) : Prop :=
  v.IsNullOr (if name = "imports" then Value.IsListOf Value.IsText else Value.IsText)

theorem mem_dialectNames_iff (name : String) : name ∈ dialectNames ↔
    name = "value_registry" ∨ name = "type_registry" ∨ name = "value_map" ∨ name = "type_map" ∨
      name = "value_accessor" ∨ name = "type_accessor" ∨ name = "imports" := by
  simp [dialectNames, dialectTexts]

/-- A name of a dialect is that of the imports or of a text, which is set on its own. -/
theorem lookup_dialectTexts (hname : name ∈ dialectNames) :
    name = "imports" ∧ dialectTexts.lookup name = none ∨
      name ≠ "imports" ∧ ∃ set, dialectTexts.lookup name = some set ∧ ∀ d t other,
        (set d t).setting other = if other = name then .ofOption t else d.setting other := by
  rcases (mem_dialectNames_iff name).mp hname with rfl | rfl | rfl | rfl | rfl | rfl | rfl
  case inr.inr.inr.inr.inr.inr => exact .inl ⟨rfl, rfl⟩
  all_goals
    refine .inr ⟨by decide, _, rfl, fun d t other => ?_⟩
    split
    · rename_i h
      rw [h]
      rfl
    · rename_i h
      simp [Dialect.setting, h]

/-- Texts are read for a name of a text. -/
theorem setDialect_of_lookup_eq_some {set : Dialect → Option String → Dialect}
    (hset : dialectTexts.lookup name = some set) (d : Dialect) (v : Value) :
    setDialect d (.text name, v) = (asText ("dialect." ++ name) v).map (set d) := by
  simp only [setDialect, nameOf, Except.ok_bind, hset]
  cases asText ("dialect." ++ name) v <;> rfl

/-- Lists of texts are read for the imports. -/
theorem setDialect_imports (d : Dialect) (v : Value) : setDialect d (.text "imports", v) =
    (asTexts "dialect.imports" v).map fun names => { d with imports := names } := by
  have hread : setDialect d (.text "imports", v) =
      (return { d with imports := ← asTexts "dialect.imports" v }) := rfl
  rw [hread]
  cases asTexts "dialect.imports" v <;> rfl

/-- A setting of a dialect is taken if its value is of the kind of its name. -/
theorem exists_setDialect_eq_ok_iff (hname : name ∈ dialectNames) (d : Dialect) (v : Value) :
    (∃ d', setDialect d (.text name, v) = .ok d') ↔ IsDialectValue name v := by
  rcases lookup_dialectTexts hname with ⟨rfl, -⟩ | ⟨hne, set, hset, -⟩
  · rw [IsDialectValue, if_pos rfl, ← exists_asTexts_eq_ok_iff "dialect.imports"]
    simp [setDialect_imports, Except.map_eq_ok_iff]
  · rw [IsDialectValue, if_neg hne, ← exists_asText_eq_ok_iff ("dialect." ++ name)]
    simp [setDialect_of_lookup_eq_some hset, Except.map_eq_ok_iff]

/-- A setting of a dialect that is taken sets its name and nothing else. -/
theorem setting_of_setDialect (hname : name ∈ dialectNames)
    (h : setDialect d (.text name, v) = .ok d') (other : String) :
    d'.setting other = if other = name then meant name v else d.setting other := by
  rcases lookup_dialectTexts hname with ⟨rfl, -⟩ | ⟨hne, set, hset, hsets⟩
  · rw [setDialect_imports, Except.map_eq_ok_iff] at h
    obtain ⟨names, hnames, rfl⟩ := h
    have hmeant : meant "imports" v = .list (names.map .text) := by
      rcases (asTexts_eq_ok_iff _ _ _).mp hnames with ⟨rfl, rfl⟩ | rfl <;> simp [meant]
    split
    · rename_i heq
      rw [heq, hmeant, Dialect.setting_imports]
    · rename_i hother
      simp [Dialect.setting, hother]
  · rw [setDialect_of_lookup_eq_some hset, Except.map_eq_ok_iff] at h
    obtain ⟨t, ht, rfl⟩ := h
    have hmeant : meant name v = v := if_neg fun h => hne h.1
    rw [hsets, hmeant, (asText_eq_ok_iff _ _ _).mp ht]

/-- A setting that a dialect has: a known name with a value of its kind. -/
def IsDialectSetting (e : Value × Value) : Prop :=
  ∃ name ∈ dialectNames, e.1 = .text name ∧ IsDialectValue name e.2

/-- The last value that stands beside a name. -/
def lastValue? (settings : List (Value × Value)) (name : String) : Option Value :=
  (settings.reverse.find? fun e => e.1.isText name).map Prod.snd

theorem lastValue?_append (front back : List (Value × Value)) (name : String) :
    lastValue? (front ++ back) name = (lastValue? back name).or (lastValue? front name) := by
  rw [lastValue?, List.reverse_append, List.find?_append, Option.map_or]
  rfl

theorem lastValue?_singleton (k v : Value) (name : String) :
    lastValue? [(k, v)] name = if k = .text name then some v else none := by
  by_cases h : k = .text name
  · simp [lastValue?, h]
  · have hfalse : k.isText name = false := by simpa [Bool.eq_false_iff] using h
    simp [lastValue?, h, hfalse]

/-- The last value of a name stands beside it. -/
theorem mem_of_lastValue?_eq_some (h : lastValue? settings name = some v) :
    (Value.text name, v) ∈ settings := by
  obtain ⟨⟨k, x⟩, hfind, rfl⟩ := Option.map_eq_some_iff.mp h
  have hmem := List.mem_reverse.mp (List.mem_of_find?_eq_some hfind)
  have hkey : k = .text name := by simpa using List.find?_some hfind
  exact hkey ▸ hmem

/-- A name is absent exactly if it has no last value. -/
theorem lastValue?_eq_none_iff :
    lastValue? settings name = none ↔ ∀ v, (Value.text name, v) ∉ settings := by
  rw [lastValue?, Option.map_eq_none_iff, List.find?_eq_none]
  simp only [List.mem_reverse, Value.isText_eq_true_iff]
  constructor
  · intro h v hmem
    exact h _ hmem rfl
  · rintro h ⟨k, v⟩ hmem rfl
    exact h v hmem

/-- Settings that are taken one after the other leave for each name what its last value means. -/
theorem setting_of_foldlM (hnames : ∀ e ∈ settings, ∃ name ∈ dialectNames, e.1 = .text name)
    (h : settings.foldlM setDialect d = .ok d') (name : String) :
    d'.setting name = ((lastValue? settings name).map (meant name)).getD (d.setting name) := by
  induction settings generalizing d with
  | nil =>
    cases h
    rfl
  | cons e rest ih =>
    obtain ⟨k, v⟩ := e
    obtain ⟨⟨own, hown, hk⟩, hrest⟩ := List.forall_mem_cons.mp hnames
    cases hk
    rw [List.foldlM_cons, Except.bind_eq_ok_iff] at h
    obtain ⟨next, hnext, h⟩ := h
    rw [ih hrest h, setting_of_setDialect hown hnext, ← List.singleton_append, lastValue?_append,
      lastValue?_singleton]
    cases lastValue? rest name with
    | some x => rfl
    | none =>
      by_cases hname : name = own
      · simp [hname]
      · simp [hname, Ne.symm hname]

/-- Settings are taken one after the other exactly if each is one that a dialect has. -/
theorem exists_foldlM_eq_ok_iff
    (hnames : ∀ e ∈ settings, ∃ name ∈ dialectNames, e.1 = .text name) (d : Dialect) :
    (∃ d', settings.foldlM setDialect d = .ok d') ↔ ∀ e ∈ settings, IsDialectSetting e := by
  induction settings generalizing d with
  | nil => exact iff_of_true ⟨d, rfl⟩ (by simp)
  | cons e rest ih =>
    obtain ⟨k, v⟩ := e
    obtain ⟨⟨own, hown, hk⟩, hrest⟩ := List.forall_mem_cons.mp hnames
    cases hk
    have hfirst : IsDialectSetting (.text own, v) ↔ IsDialectValue own v := by
      simp [IsDialectSetting, hown]
    rw [List.forall_mem_cons, hfirst, ← exists_setDialect_eq_ok_iff hown d]
    simp only [List.foldlM_cons, Except.bind_eq_ok_iff]
    constructor
    · rintro ⟨d', next, hnext, h⟩
      exact ⟨⟨next, hnext⟩, (ih hrest next).mp ⟨d', h⟩⟩
    · rintro ⟨⟨next, hnext⟩, h⟩
      obtain ⟨d', hd'⟩ := (ih hrest next).mpr h
      exact ⟨d', next, hnext, hd'⟩

/-- The name of a setting is the text that it has as its key. -/
theorem nameOf_eq_ok_iff (e : Value × Value) (name : String) :
    nameOf e = .ok name ↔ e.1 = .text name := by
  obtain ⟨k, v⟩ := e
  cases k <;> simp [nameOf]

/-- Reading a dialect looks at all names before it takes the first setting. -/
theorem dialectOf_eq (settings : List (Value × Value)) :
    dialectOf settings = settings.mapM nameOf >>= fun names =>
      if ∀ name ∈ names, name ∈ dialectNames then settings.foldlM setDialect {}
      else .error (.rejected (.unknownNames
        (sortNames (names.filter fun name => !dialectNames.contains name)))) := by
  unfold dialectOf
  congr 1
  funext names
  have hunknown : (names.filter fun name => !dialectNames.contains name) = [] ↔
      ∀ name ∈ names, name ∈ dialectNames := by
    simp
  by_cases h : ∀ name ∈ names, name ∈ dialectNames
  · simp only [if_pos h, hunknown.mpr h]
    rfl
  · have hsome := mt hunknown.mp h
    rw [if_neg h]
    simp only [List.isEmpty_eq_false_iff.mpr hsome]
    rfl

/-- A dialect is read from settings with known names that are taken one after the other. -/
theorem dialectOf_eq_ok_iff (settings : List (Value × Value)) (d : Dialect) :
    dialectOf settings = .ok d ↔ (∀ e ∈ settings, ∃ name ∈ dialectNames, e.1 = .text name) ∧
      settings.foldlM setDialect {} = .ok d := by
  rw [dialectOf_eq, Except.bind_eq_ok_iff]
  constructor
  · rintro ⟨names, hnames, h⟩
    split at h
    · rename_i hknown
      refine ⟨fun e he => ?_, h⟩
      obtain ⟨name, hname, hkey⟩ := (Except.mem_of_mapM_eq_ok hnames).1 e he
      exact ⟨name, hknown name hname, (nameOf_eq_ok_iff e name).mp hkey⟩
    · cases h
  · rintro ⟨hknown, h⟩
    obtain ⟨names, hnames⟩ := Except.exists_mapM_eq_ok nameOf settings fun e he => by
      obtain ⟨name, -, hkey⟩ := hknown e he
      exact ⟨name, (nameOf_eq_ok_iff e name).mpr hkey⟩
    refine ⟨names, hnames, ?_⟩
    rw [if_pos, h]
    intro name hname
    obtain ⟨e, he, hread⟩ := (Except.mem_of_mapM_eq_ok hnames).2 name hname
    obtain ⟨known, hmem, hkey⟩ := hknown e he
    have hsame : name = known :=
      Value.text.inj (((nameOf_eq_ok_iff e name).mp hread).symm.trans hkey)
    exact hsame ▸ hmem

/-- A dialect is read exactly from settings that a dialect has. -/
theorem exists_dialectOf_eq_ok_iff (settings : List (Value × Value)) :
    (∃ d, dialectOf settings = .ok d) ↔ ∀ e ∈ settings, IsDialectSetting e := by
  simp only [dialectOf_eq_ok_iff]
  constructor
  · rintro ⟨d, hnames, h⟩
    exact (exists_foldlM_eq_ok_iff hnames {}).mp ⟨d, h⟩
  · intro h
    have hnames : ∀ e ∈ settings, ∃ name ∈ dialectNames, e.1 = .text name := fun e he => by
      obtain ⟨name, hname, hkey, -⟩ := h e he
      exact ⟨name, hname, hkey⟩
    obtain ⟨d, hd⟩ := (exists_foldlM_eq_ok_iff hnames {}).mpr h
    exact ⟨d, hnames, hd⟩

/-- A dialect sets for each name what the last value of the name means, or else the default. -/
theorem setting_of_dialectOf (h : dialectOf settings = .ok d) (name : String) :
    d.setting name =
      ((lastValue? settings name).map (meant name)).getD (({} : Dialect).setting name) :=
  have hread := (dialectOf_eq_ok_iff settings d).mp h
  setting_of_foldlM hread.1 hread.2 name

end Config

end Registrar
