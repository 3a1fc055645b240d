import Registrar.Yaml.Value

/-!
# Values of YAML texts as data

Two values can be compared. The shapes that are asked of values are put together from a few: null
or something else, a text, a list, a mapping.
-/

namespace Registrar.Yaml.Value

/-! ### Equality -/

mutual

/-- Two values are the same. -/
def same : Value → Value → Bool
  | null, null => true
  | truth b, truth b' => b = b'
  | whole n, whole n' => n = n'
  | fraction isZero, fraction isZero' => isZero = isZero'
  | bytes isEmpty, bytes isEmpty' => isEmpty = isEmpty'
  | date, date => true
  | text s, text s' => s = s'
  | list items, list items' => sameAll items items'
  | pair first second, pair first' second' => same first first' && same second second'
  | map entries, map entries' => sameEntries entries entries'
  | set members, set members' => sameAll members members'
  | _, _ => false

/-- Two lists hold the same values. -/
def sameAll : List Value → List Value → Bool
  | [], [] => true
  | v :: rest, v' :: rest' => same v v' && sameAll rest rest'
  | _, _ => false

/-- Two lists hold the same entries. -/
def sameEntries : List (Value × Value) → List (Value × Value) → Bool
  | [], [] => true
  | (k, v) :: rest, (k', v') :: rest' => same k k' && same v v' && sameEntries rest rest'
  | _, _ => false

end

mutual

theorem same_self (v : Value) : same v v = true := by
  cases v with
  | null | truth | whole | fraction | bytes | date | text => simp [same]
  | list items => rw [same, sameAll_self items]
  | pair first second => rw [same, same_self first, same_self second, Bool.and_self]
  | map entries => rw [same, sameEntries_self entries]
  | set members => rw [same, sameAll_self members]

theorem sameAll_self (l : List Value) : sameAll l l = true := by
  cases l with
  | nil => rfl
  | cons v rest => rw [sameAll, same_self v, sameAll_self rest, Bool.and_self]

theorem sameEntries_self (l : List (Value × Value)) : sameEntries l l = true := by
  cases l with
  | nil => rfl
  | cons e rest =>
    obtain ⟨k, v⟩ := e
    rw [sameEntries, same_self k, same_self v, sameEntries_self rest, Bool.and_self, Bool.and_self]

end

mutual

theorem eq_of_same {v v' : Value} (h : same v v' = true) : v = v' := by
  cases v with
  | null | truth | whole | fraction | bytes | date | text => cases v' <;> simp_all [same]
  | list items =>
    cases v' with
    | list items' => rw [eq_of_sameAll h]
    | _ => simp [same] at h
  | pair first second =>
    cases v' with
    | pair first' second' =>
      rw [same, Bool.and_eq_true] at h
      rw [eq_of_same h.1, eq_of_same h.2]
    | _ => simp [same] at h
  | map entries =>
    cases v' with
    | map entries' => rw [eq_of_sameEntries h]
    | _ => simp [same] at h
  | set members =>
    cases v' with
    | set members' => rw [eq_of_sameAll h]
    | _ => simp [same] at h

theorem eq_of_sameAll {l l' : List Value} (h : sameAll l l' = true) : l = l' := by
  cases l with
  | nil => cases l' <;> simp_all [sameAll]
  | cons v rest =>
    cases l' with
    | nil => simp [sameAll] at h
    | cons v' rest' =>
      rw [sameAll, Bool.and_eq_true] at h
      rw [eq_of_same h.1, eq_of_sameAll h.2]

theorem eq_of_sameEntries {l l' : List (Value × Value)} (h : sameEntries l l' = true) :
    l = l' := by
  cases l with
  | nil => cases l' <;> simp_all [sameEntries]
  | cons e rest =>
    cases l' with
    | nil => simp [sameEntries] at h
    | cons e' rest' =>
      obtain ⟨k, v⟩ := e
      obtain ⟨k', v'⟩ := e'
      rw [sameEntries, Bool.and_eq_true, Bool.and_eq_true] at h
      rw [eq_of_same h.1.1, eq_of_same h.1.2, eq_of_sameEntries h.2]

end

instance : DecidableEq Value := fun v v' =>
  decidable_of_iff (same v v' = true) ⟨eq_of_same, fun h => h ▸ same_self v⟩

/-! ### Shapes -/

/-- Null, or of another shape. -/
def IsNullOr (shape : Value → Prop) (v : Value) : Prop :=
  v = null ∨ shape v

/-- A text. -/
def IsText (v : Value) : Prop :=
  ∃ s, v = text s

/-- A text that is not empty. -/
def IsName (v : Value) : Prop :=
  ∃ s, v = text s ∧ s ≠ ""

/-- A list whose items are all of a shape. -/
def IsListOf (shape : Value → Prop) (v : Value) : Prop :=
  ∃ items, v = list items ∧ ∀ item ∈ items, shape item

/-- A mapping whose entries are of a shape. -/
def IsMapOf (shape : List (Value × Value) → Prop) (v : Value) : Prop :=
  ∃ entries, v = map entries ∧ shape entries

@[simp] theorem isMapOf_map_iff (shape : List (Value × Value) → Prop)
    (entries : List (Value × Value)) : (map entries).IsMapOf shape ↔ shape entries := by
  simp only [IsMapOf, map.injEq, exists_eq_left']

theorem IsMapOf.exists_eq {shape : List (Value × Value) → Prop} {v : Value} (h : v.IsMapOf shape) :
    ∃ entries, v = map entries := by
  obtain ⟨entries, heq, -⟩ := h
  exact ⟨entries, heq⟩

/-- A text that may be missing; null where it is. -/
def ofOption : Option String → Value
  | none => null
  | some s => text s

@[simp] theorem ofOption_inj {t t' : Option String} : ofOption t = ofOption t' ↔ t = t' := by
  cases t <;> cases t' <;> simp [ofOption]

/-- Null or a text is a text that may be missing. -/
theorem isNullOr_isText_iff (v : Value) : v.IsNullOr IsText ↔ ∃ t, v = ofOption t := by
  simp [IsNullOr, IsText, Option.exists, ofOption]

theorem text_injective : Function.Injective text := fun _ _ => text.inj

/-- A list of texts comes from the texts. -/
theorem isListOf_isText_iff (v : Value) :
    v.IsListOf IsText ↔ ∃ names : List String, v = list (names.map text) := by
  constructor
  · rintro ⟨items, rfl, hitems⟩
    induction items with
    | nil => exact ⟨[], rfl⟩
    | cons item rest ih =>
      obtain ⟨⟨s, rfl⟩, hrest⟩ := List.forall_mem_cons.mp hitems
      obtain ⟨names, hnames⟩ := ih hrest
      exact ⟨s :: names, by rw [list.inj hnames, List.map_cons]⟩
  · rintro ⟨names, rfl⟩
    refine ⟨_, rfl, fun item hitem => ?_⟩
    obtain ⟨s, -, rfl⟩ := List.mem_map.mp hitem
    exact ⟨s, rfl⟩

/-- The test for a text agrees with equality. -/
@[simp] theorem isText_eq_true_iff (name : String) (v : Value) :
    v.isText name = true ↔ v = text name := by
  cases v <;> simp [isText]

end Registrar.Yaml.Value
