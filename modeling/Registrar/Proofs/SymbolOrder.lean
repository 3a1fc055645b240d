import Mathlib.Data.List.Induction
import Registrar.Proofs.ByteOrder
import Registrar.Proofs.Survivors
import Registrar.SymbolSet.Edit

/-!
# What edits leave in a symbol set

After any edits a category lists the names that are current in it: those that some edit has added
and no later one has taken away. They stand in the order of their UTF-8 bytes, each once. An edit
changes no category but its own, and one that names no category is refused and changes none.
-/

namespace Registrar

namespace Category

theorem ofLabel_label (c : Category) : ofLabel c.label = .ok c := by
  cases c <;> rfl

theorem ofLabel_eq_error {name : String} (h : ∀ c : Category, name ≠ c.label) :
    ofLabel name = .error { name } := by
  have hnone : ofLabel? name = none := by
    rw [ofLabel?, List.find?_eq_none]
    intro c _
    simpa using (h c).symm
  rw [ofLabel, hnone]

end Category

namespace SymbolSet

/-- An edit adds a name to a category. -/
def Edit.Adds (e : Edit) (c : Category) (name : String) : Prop :=
  e.category = c.label ∧ ∃ names, e.change = .add names ∧ name ∈ names

/-- An edit takes a name from a category. -/
def Edit.Discards (e : Edit) (c : Category) (name : String) : Prop :=
  e.category = c.label ∧ ∃ names, e.change = .discard names ∧ name ∈ names

/-- A name is current in a category: an edit has added it, and no later one has taken it away. -/
def IsCurrent (edits : List Edit) (c : Category) (name : String) : Prop :=
  ∃ before e after, edits = before ++ e :: after ∧ e.Adds c name ∧
    ∀ later ∈ after, ¬ later.Discards c name

/-- The symbols that some edits make out of none. -/
def reached (edits : List Edit) : SymbolSet :=
  ({} : SymbolSet).editAll edits

/-! ## One edit -/

/-- Taking names from one category leaves the others as they are. -/
theorem get_discard (s : SymbolSet) (c : Category) (names : List String) (c' : Category) :
    (s.discard c names).get c' =
      if c' = c then names.foldl NameMap.erase (s.get c) else s.get c' := by
  cases c <;> cases c' <;> rfl

theorem get_change_of_ne (s : SymbolSet) {c c' : Category} (h : c' ≠ c) (change : Change) :
    (s.change c change).get c' = s.get c' := by
  cases change with
  | add names => exact (get_add s c names c').trans (if_neg h)
  | discard names => exact (get_discard s c names c').trans (if_neg h)

theorem edited_of_label (s : SymbolSet) {e : Edit} {c : Category} (h : e.category = c.label) :
    s.edited e = s.change c e.change := by
  rw [edited, edit, h, Category.ofLabel_label]
  rfl

/-- An edit that names no category is refused. -/
theorem edit_eq_error (s : SymbolSet) {e : Edit} (h : ∀ c : Category, e.category ≠ c.label) :
    s.edit e = .error { name := e.category } := by
  rw [edit, Category.ofLabel_eq_error h]
  rfl

theorem listed_label (s : SymbolSet) (c : Category) : s.listed c.label = .ok (s.sorted c) := by
  rw [listed, Category.ofLabel_label]
  rfl

theorem listed_eq_error (s : SymbolSet) {name : String} (h : ∀ c : Category, name ≠ c.label) :
    s.listed name = .error { name } := by
  rw [listed, Category.ofLabel_eq_error h]
  rfl

theorem edited_of_forall_ne (s : SymbolSet) {e : Edit} (h : ∀ c : Category, e.category ≠ c.label) :
    s.edited e = s := by
  rw [edited, edit_eq_error s h]

/-- An edit leaves the categories that it does not name as they are. -/
theorem get_edited_of_ne (s : SymbolSet) {e : Edit} {c : Category} (h : e.category ≠ c.label) :
    (s.edited e).get c = s.get c := by
  by_cases hknown : ∃ c' : Category, e.category = c'.label
  · obtain ⟨c', hc'⟩ := hknown
    have hne : c ≠ c' := by
      rintro rfl
      exact h hc'
    rw [edited_of_label s hc', get_change_of_ne s hne]
  · rw [edited_of_forall_ne s (not_exists.mp hknown)]

/-- After an edit a category has the names that the edit adds, and of its earlier ones those that
the edit does not take away. -/
theorem mem_sorted_edited_iff (s : SymbolSet) (e : Edit) (c : Category) (name : String) :
    name ∈ (s.edited e).sorted c ↔
      e.Adds c name ∨ name ∈ s.sorted c ∧ ¬ e.Discards c name := by
  rw [sorted, sorted, Edit.Adds, Edit.Discards]
  by_cases hc : e.category = c.label
  · rw [edited_of_label s hc]
    cases hchange : e.change with
    | add names =>
      rw [change, get_add, if_pos rfl, NameSet.mem_keys_addAll]
      simp [hc, or_comm]
    | discard names =>
      rw [change, get_discard, if_pos rfl, NameMap.mem_keys_foldl_erase]
      simp [hc]
  · rw [get_edited_of_ne s hc]
    simp [hc]

/-! ## A run of edits -/

/-- One more edit makes current what it adds, and keeps what it does not take away. -/
theorem isCurrent_append_singleton_iff (edits : List Edit) (e : Edit) (c : Category)
    (name : String) :
    IsCurrent (edits ++ [e]) c name ↔
      e.Adds c name ∨ IsCurrent edits c name ∧ ¬ e.Discards c name := by
  constructor
  · rintro ⟨before, added, after, hedits, hadds, hlater⟩
    rcases List.eq_nil_or_concat after with rfl | ⟨after, last, rfl⟩
    · obtain ⟨-, hlast⟩ := List.append_inj' hedits rfl
      rw [List.singleton_inj.mp hlast]
      exact .inl hadds
    · rw [List.concat_eq_append, ← List.cons_append, ← List.append_assoc] at hedits
      obtain ⟨hfront, hlast⟩ := List.append_inj' hedits rfl
      rw [List.concat_eq_append, List.forall_mem_append, List.forall_mem_singleton,
        ← List.singleton_inj.mp hlast] at hlater
      exact .inr ⟨⟨before, added, after, hfront, hadds, hlater.1⟩, hlater.2⟩
  · rintro (hadds | ⟨⟨before, added, after, rfl, hadds, hlater⟩, hkeeps⟩)
    · exact ⟨edits, e, [], rfl, hadds, by simp⟩
    · refine ⟨before, added, after ++ [e], by simp, hadds, ?_⟩
      rw [List.forall_mem_append, List.forall_mem_singleton]
      exact ⟨hlater, hkeeps⟩

/-- After any edits a category has the names that are current in it. -/
theorem mem_sorted_reached_iff (edits : List Edit) (c : Category) (name : String) :
    name ∈ (reached edits).sorted c ↔ IsCurrent edits c name := by
  induction edits using List.reverseRecOn with
  | nil =>
    have hnone : ¬ IsCurrent [] c name := by
      rintro ⟨before, e, after, hedits, -⟩
      simp at hedits
    exact iff_of_false (by simp [sorted, reached, editAll, keys_get_empty]) hnone
  | append_singleton edits e ih =>
    have hstep : reached (edits ++ [e]) = (reached edits).edited e := by
      rw [reached, editAll, List.foldl_append]
      rfl
    rw [hstep, mem_sorted_edited_iff, ih, isCurrent_append_singleton_iff]

/-- The number of symbols is that of the names in all categories. -/
theorem size_eq_sum (s : SymbolSet) :
    s.size = (Category.all.map fun c => (s.sorted c).length).sum := by
  simp only [size, NameMap.size, sorted, NameMap.keys, List.length_map, Category.all, List.map_cons,
    List.map_nil, List.sum_cons, List.sum_nil, get]
  omega

theorem isEmpty_iff_forall_sorted (s : SymbolSet) :
    s.isEmpty = true ↔ ∀ c, s.sorted c = [] := by
  rw [isEmpty_eq_true_iff]
  exact forall_congr' fun c => List.eq_nil_iff_forall_not_mem.symm

/-- The names of a category stand in the order of their bytes. -/
theorem pairwise_encode_sorted (s : SymbolSet) (c : Category) :
    (s.sorted c).Pairwise fun a b => Text.Utf8.encode a < Text.Utf8.encode b :=
  (s.get c).keys_ordered.imp (Text.Utf8.encode_lt_encode_iff _ _).mpr

/-- Code-point order is the order of UTF-8 bytes. After any edits each category lists the names that
are current in it, each once and in this order, and by these lists the symbols are counted and found
to be none. An edit changes no category but its own; one that names no category is refused, as a
listing of it is, and changes none. -/
theorem reached_inByteOrder :
    (∀ a b : String, Text.Utf8.encode a < Text.Utf8.encode b ↔ a < b) ∧
    ∀ edits : List Edit,
      (∀ c : Category, (reached edits).listed c.label = .ok ((reached edits).sorted c) ∧
        (∀ name, name ∈ (reached edits).sorted c ↔ IsCurrent edits c name) ∧
        ((reached edits).sorted c).Nodup ∧
        ((reached edits).sorted c).Pairwise
          fun a b => Text.Utf8.encode a < Text.Utf8.encode b) ∧
      (reached edits).size = (Category.all.map fun c => ((reached edits).sorted c).length).sum ∧
      ((reached edits).isEmpty = true ↔ ∀ c, (reached edits).sorted c = []) ∧
      (∀ (e : Edit) (c : Category), e.category ≠ c.label →
        ((reached edits).edited e).get c = (reached edits).get c) ∧
      ∀ e : Edit, (∀ c : Category, e.category ≠ c.label) →
        (reached edits).edit e = .error { name := e.category } ∧
          (reached edits).listed e.category = .error { name := e.category } ∧
          (reached edits).edited e = reached edits := by
  refine ⟨Text.Utf8.encode_lt_encode_iff, fun edits => ⟨?_, ?_, ?_, ?_, ?_⟩⟩
  · intro c
    exact ⟨listed_label _ c, mem_sorted_reached_iff edits c, NameMap.keys_nodup _,
      pairwise_encode_sorted _ c⟩
  · exact size_eq_sum _
  · exact isEmpty_iff_forall_sorted _
  · intro e c hc
    exact get_edited_of_ne _ hc
  · intro e he
    exact ⟨edit_eq_error _ he, listed_eq_error _ he, edited_of_forall_ne _ he⟩

/-- Edits of two categories and of none. The names are of one, three and four bytes. -/
def mixedEdits : List Edit :=
  [{ category := "constants", change := .add ["𝔄", "Z", "\uFF21", "Old"] },
    { category := "functions", change := .add ["Z"] },
    { category := "constants", change := .discard ["Z", "Old"] },
    { category := "methods", change := .add ["M"] },
    { category := "constants", change := .add ["Z", "𝔄"] }]

theorem reached_inByteOrder_mixedEdits :
    (reached mixedEdits).sorted .consts = ["Z", "\uFF21", "𝔄"] ∧
      Text.Utf8.encode "\uFF21" < Text.Utf8.encode "𝔄" ∧
      "functions" ≠ Category.consts.label ∧
      ((reached mixedEdits).edited ⟨"functions", .discard ["Z"]⟩).get .consts =
        (reached mixedEdits).get .consts ∧
      (∀ c : Category, "methods" ≠ c.label) ∧
      (reached mixedEdits).listed "methods" = .error { name := "methods" } := by
  obtain ⟨hbytes, hreached⟩ := reached_inByteOrder
  obtain ⟨-, -, -, hothers, hrefused⟩ := hreached mixedEdits
  have hfunctions : "functions" ≠ Category.consts.label := by
    decide
  have hmethods : ∀ c : Category, "methods" ≠ c.label := by
    intro c
    cases c <;> decide
  refine ⟨by decide, (hbytes _ _).mpr (by decide), hfunctions, ?_, hmethods, ?_⟩
  · exact hothers ⟨"functions", .discard ["Z"]⟩ .consts hfunctions
  · exact (hrefused ⟨"methods", .add ["M"]⟩ hmethods).2.1

end SymbolSet

end Registrar
