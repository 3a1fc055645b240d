import Registrar.Config
import Registrar.Proofs.Except
import Registrar.Proofs.YamlValue

/-!
# Settings in mappings

The value of a setting is looked up by its name, and an absent setting is null. Each way to read
a value is described by the values that it takes: a text or null, a list of texts or null, a
mapping or null.
-/

namespace Registrar

namespace Config

open Yaml (Value)

variable {settings front back : List (Value × Value)} {key v : Value} {name : String}

/-! ### Looking up a setting -/

theorem setting_cons (e : Value × Value) (settings : List (Value × Value)) (name : String) :
    setting (e :: settings) name = if e.1 = .text name then e.2 else setting settings name := by
  by_cases h : e.1 = .text name
  · simp [setting, h]
  · have hfalse : e.1.isText name = false := by simpa [Bool.eq_false_iff] using h
    simp [setting, h, hfalse]

/-- The value of a setting is one that stands beside its name, or null where the name is absent. -/
theorem setting_cases (settings : List (Value × Value)) (name : String) :
    (Value.text name, setting settings name) ∈ settings ∨
      (∀ v, (Value.text name, v) ∉ settings) ∧ setting settings name = .null := by
  induction settings with
  | nil => exact .inr ⟨fun v => List.not_mem_nil, rfl⟩
  | cons e rest ih =>
    obtain ⟨k, x⟩ := e
    rw [setting_cons]
    by_cases h : k = .text name
    · rw [if_pos h, h]
      exact .inl List.mem_cons_self
    · rw [if_neg h]
      rcases ih with hmem | ⟨habsent, hnull⟩
      · exact .inl (List.mem_cons_of_mem _ hmem)
      · refine .inr ⟨fun v hmem => ?_, hnull⟩
        rcases List.mem_cons.mp hmem with heq | hmem
        · exact h (congrArg Prod.fst heq).symm
        · exact habsent v hmem

/-- A key is new among entries: as a text it is the key of none of them. -/
def IsNew (key : Value) (entries : List (Value × Value)) : Prop :=
  ∀ name, key = .text name → ∀ v, (Value.text name, v) ∉ entries

/-- An entry whose key is new in front of it gives the value of that key and of no other. -/
theorem setting_append_cons (h : IsNew key front) (v : Value) (back : List (Value × Value))
    (name : String) : setting (front ++ (key, v) :: back) name =
      if key = .text name then v else setting (front ++ back) name := by
  induction front with
  | nil => exact setting_cons _ _ _
  | cons e rest ih =>
    have hrest : IsNew key rest := fun name hname x hx => h name hname x (List.mem_cons_of_mem _ hx)
    rw [List.cons_append, List.cons_append, setting_cons, setting_cons, ih hrest]
    by_cases hkey : key = .text name
    · have hne : e.1 ≠ .text name := fun heq => h name hkey e.2 (heq ▸ List.mem_cons_self)
      rw [if_neg hne, if_pos hkey, if_pos hkey]
    · rw [if_neg hkey, if_neg hkey]

/-! ### Reading a value -/

/-- A text that may be missing is read from a text or from null. -/
theorem asText_eq_ok_iff (name : String) (v : Value) (t : Option String) :
    asText name v = .ok t ↔ v = .ofOption t := by
  cases v <;> cases t <;> simp [asText, Value.ofOption]

@[simp] theorem asName_null (name default : String) : asName name default .null = .ok default :=
  rfl

@[simp] theorem asName_text (name default s : String) :
    asName name default (.text s) = .ok (if s = "" then default else s) := by
  have hread : asName name default (.text s) =
      (return if s = "" then default else s : Except Error String) := rfl
  rw [hread]
  rfl

/-- A text that may be missing is read from nothing else. -/
theorem exists_asText_eq_ok_iff (name : String) (v : Value) :
    (∃ t, asText name v = .ok t) ↔ v.IsNullOr Value.IsText := by
  simp only [asText_eq_ok_iff, Value.isNullOr_isText_iff]

/-- A name is read from a text or from null. -/
theorem exists_asName_eq_ok_iff (name default : String) (v : Value) :
    (∃ s, asName name default v = .ok s) ↔ v.IsNullOr Value.IsText := by
  rw [← exists_asText_eq_ok_iff name]
  constructor
  · rintro ⟨s, h⟩
    obtain ⟨t, ht, -⟩ := (Except.bind_eq_ok_iff _ _ _).mp h
    exact ⟨t, ht⟩
  · rintro ⟨t, ht⟩
    obtain rfl := (asText_eq_ok_iff name v t).mp ht
    cases t with
    | none => exact ⟨_, asName_null name default⟩
    | some s => exact ⟨_, asName_text name default s⟩

/-- A name without a default is read from a text that is not empty, or is empty. -/
theorem asName_eq_ok_iff_of_ne (name : String) (v : Value) {s : String} (hs : s ≠ "") :
    asName name "" v = .ok s ↔ v = .text s := by
  constructor
  · intro h
    rcases (exists_asName_eq_ok_iff name "" v).mp ⟨s, h⟩ with rfl | ⟨s', rfl⟩
    · exact absurd (Except.ok.inj h).symm hs
    · rw [asName_text] at h
      have hs' : (if s' = "" then "" else s') = s' := by split <;> simp_all
      rw [hs'] at h
      exact congrArg Value.text (Except.ok.inj h)
  · rintro rfl
    rw [asName_text, if_neg hs]

/-- Texts are read from the values that are these texts. -/
theorem texts?_eq_some_iff (items : List Value) (names : List String) :
    texts? items = some names ↔ items = names.map .text := by
  induction items generalizing names with
  | nil => cases names <;> simp [texts?]
  | cons v rest ih =>
    cases v <;> cases names <;> simp [texts?, ih, and_comm]

/-- A list of texts is read from such a list or from null. -/
theorem asTexts_eq_ok_iff (name : String) (v : Value) (names : List String) :
    asTexts name v = .ok names ↔ v = .null ∧ names = [] ∨ v = .list (names.map .text) := by
  cases v with
  | null => simp [asTexts, eq_comm]
  | list items =>
    rw [asTexts]
    cases htexts : texts? items with
    | none =>
      have hne : items ≠ names.map .text := fun h => by
        simp [(texts?_eq_some_iff items names).mpr h] at htexts
      simp [hne]
    | some names' =>
      have hitems := (texts?_eq_some_iff items names').mp htexts
      simp [hitems, (List.map_injective_iff.mpr Value.text_injective).eq_iff]
  | _ => simp [asTexts]

/-- A list of texts is read from nothing else. -/
theorem exists_asTexts_eq_ok_iff (name : String) (v : Value) :
    (∃ names, asTexts name v = .ok names) ↔ v.IsNullOr (Value.IsListOf Value.IsText) := by
  simp only [asTexts_eq_ok_iff, exists_or, exists_and_left, exists_eq, and_true, Value.IsNullOr,
    Value.isListOf_isText_iff]

/-- Settings are read from a mapping or from null. -/
theorem asSettings_eq_ok_iff (name : String) (v : Value) (settings : List (Value × Value)) :
    asSettings name v = .ok settings ↔ v = .null ∧ settings = [] ∨ v = .map settings := by
  cases v <;> simp [asSettings, eq_comm]

end Config

end Registrar
