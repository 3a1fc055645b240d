import Mathlib.Data.List.Sort
import Registrar.NameMap

/-!
# Laws of finite maps and sets of names

Each operation is described by the entries or the keys it leaves. Since the keys of a map stand in
strictly increasing order, a set of names is determined by its members alone, whatever the order
in which they were added.
-/

namespace Registrar

/-- A search for what one member of a list at most can be finds that member. -/
theorem find?_eq_some_iff_of_unique {α : Type} {test : α → Bool} {l : List α}
    (h : ∀ x ∈ l, ∀ y ∈ l, test x = true → test y = true → x = y) (a : α) :
    l.find? test = some a ↔ a ∈ l ∧ test a = true := by
  constructor
  · intro hfind
    exact ⟨List.mem_of_find?_eq_some hfind, List.find?_some hfind⟩
  · rintro ⟨hmem, htest⟩
    obtain ⟨b, hb⟩ := Option.isSome_iff_exists.mp (List.find?_isSome.mpr ⟨a, hmem, htest⟩)
    rw [hb, h b (List.mem_of_find?_eq_some hb) a hmem (List.find?_some hb) htest]

namespace NameMap

variable {α : Type}

/-- Inserting puts the new entry in and keeps those of the other names. -/
theorem mem_insertEntry_iff {name : String} {value : α} {l : List (String × α)}
    (h : l.Pairwise fun a b => a.1 < b.1) (x : String × α) :
    x ∈ insertEntry name value l ↔ x = (name, value) ∨ x ∈ l ∧ x.1 ≠ name := by
  induction l with
  | nil => simp [insertEntry]
  | cons e rest ih =>
    obtain ⟨hhead, hrest⟩ := List.pairwise_cons.mp h
    unfold insertEntry
    split
    · rename_i hlt
      have hne : ∀ y ∈ e :: rest, y.1 ≠ name := by
        intro y hy
        rcases List.mem_cons.mp hy with rfl | hy
        · exact (String.ne_of_lt hlt).symm
        · exact (String.ne_of_lt (String.lt_trans hlt (hhead y hy))).symm
      rw [List.mem_cons]
      exact or_congr_right ⟨fun hx => ⟨hx, hne x hx⟩, And.left⟩
    · split
      · rename_i heq
        have hne : ∀ y ∈ rest, y.1 ≠ name := by
          intro y hy
          rw [heq]
          exact (String.ne_of_lt (hhead y hy)).symm
        rw [List.mem_cons]
        refine or_congr_right ⟨fun hx => ⟨List.mem_cons_of_mem _ hx, hne x hx⟩, ?_⟩
        rintro ⟨hx, hxn⟩
        rcases List.mem_cons.mp hx with rfl | hx
        · exact absurd heq.symm hxn
        · exact hx
      · rename_i hne
        rw [List.mem_cons, ih hrest, List.mem_cons]
        constructor
        · rintro (rfl | hx | ⟨hx, hxn⟩)
          · exact Or.inr ⟨Or.inl rfl, fun he => hne he.symm⟩
          · exact Or.inl hx
          · exact Or.inr ⟨Or.inr hx, hxn⟩
        · rintro (hx | ⟨hx | hx, hxn⟩)
          · exact Or.inr (Or.inl hx)
          · exact Or.inl hx
          · exact Or.inr (Or.inr ⟨hx, hxn⟩)

/-- A list whose entries are put in their places one by one stands in order. -/
theorem foldr_insertEntry_ordered (l : List (String × α)) :
    (l.foldr (fun e m => insertEntry e.1 e.2 m) []).Pairwise fun a b => a.1 < b.1 := by
  induction l with
  | nil => exact .nil
  | cons e rest ih => exact insertEntry_ordered e.1 e.2 ih

/-- Where each name stands once, no entry is lost when the entries are put in their places. -/
theorem mem_foldr_insertEntry_iff {l : List (String × α)} (h : (l.map Prod.fst).Nodup)
    (x : String × α) : x ∈ l.foldr (fun e m => insertEntry e.1 e.2 m) [] ↔ x ∈ l := by
  induction l with
  | nil => rfl
  | cons e rest ih =>
    obtain ⟨hnew, hrest⟩ := List.nodup_cons.mp h
    rw [List.foldr_cons, mem_insertEntry_iff (foldr_insertEntry_ordered rest), ih hrest,
      List.mem_cons]
    refine or_congr_right ⟨And.left, fun hx => ⟨hx, fun hname => hnew ?_⟩⟩
    exact hname ▸ List.mem_map_of_mem hx

/-- The entries after an insertion. -/
theorem mem_entries_insert (m : NameMap α) (name : String) (value : α) (x : String × α) :
    x ∈ (m.insert name value).entries ↔ x = (name, value) ∨ x ∈ m.entries ∧ x.1 ≠ name :=
  mem_insertEntry_iff m.ordered x

theorem mem_keys_iff (m : NameMap α) (name : String) :
    name ∈ m.keys ↔ ∃ value, (name, value) ∈ m.entries := by
  simp only [keys, List.mem_map, Prod.exists, exists_and_right, exists_eq_right]

@[simp] theorem keys_empty : (empty : NameMap α).keys = [] := rfl

/-- The names after an insertion. -/
@[simp] theorem mem_keys_insert (m : NameMap α) (key : String) (value : α) (name : String) :
    name ∈ (m.insert key value).keys ↔ name = key ∨ name ∈ m.keys := by
  simp only [mem_keys_iff, mem_entries_insert, Prod.mk.injEq]
  constructor
  · rintro ⟨v, ⟨he, -⟩ | ⟨hv, -⟩⟩
    · exact Or.inl he
    · exact Or.inr ⟨v, hv⟩
  · rintro (he | ⟨v, hv⟩)
    · exact ⟨value, Or.inl ⟨he, rfl⟩⟩
    · by_cases he : name = key
      · exact ⟨value, Or.inl ⟨he, rfl⟩⟩
      · exact ⟨v, Or.inr ⟨hv, he⟩⟩

/-- The names after one is taken away. -/
@[simp] theorem mem_keys_erase (m : NameMap α) (key name : String) :
    name ∈ (m.erase key).keys ↔ name ∈ m.keys ∧ name ≠ key := by
  simp only [mem_keys_iff, erase, List.mem_filter, decide_eq_true_eq, exists_and_right]

/-- The names after those of a list are taken away, one after the other. -/
theorem mem_keys_foldl_erase (m : NameMap α) (names : List String) (name : String) :
    name ∈ (names.foldl erase m).keys ↔ name ∈ m.keys ∧ name ∉ names := by
  induction names generalizing m with
  | nil => simp
  | cons first rest ih => rw [List.foldl_cons, ih, mem_keys_erase, List.mem_cons, not_or, and_assoc]

/-- The names increase strictly. -/
theorem keys_ordered (m : NameMap α) : m.keys.Pairwise (· < ·) :=
  List.pairwise_map.mpr m.ordered

/-- No name occurs twice. -/
theorem keys_nodup (m : NameMap α) : m.keys.Nodup :=
  m.keys_ordered.imp String.ne_of_lt

/-- Two maps with the same names list them alike. -/
theorem keys_eq_of_mem_iff {β : Type} (m : NameMap α) (m' : NameMap β)
    (h : ∀ name, name ∈ m.keys ↔ name ∈ m'.keys) : m.keys = m'.keys :=
  m.keys_ordered.eq_of_mem_iff m'.keys_ordered h

/-- A map is determined by its entries. -/
theorem ext_entries {m m' : NameMap α} (h : ∀ x, x ∈ m.entries ↔ x ∈ m'.entries) : m = m' := by
  have : Std.Asymm fun a b : String × α => a.1 < b.1 := ⟨fun _ _ => String.lt_asymm⟩
  have hentries : m.entries = m'.entries := m.ordered.eq_of_mem_iff m'.ordered h
  cases m
  cases m'
  simpa using hentries

/-- Where each name stands once, a name is found with the value that stands beside it. -/
theorem find?_map_eq_some_iff {l : List (String × α)} (h : (l.map Prod.fst).Nodup) (name : String)
    (value : α) :
    (l.find? fun e => e.1 = name).map Prod.snd = some value ↔ (name, value) ∈ l := by
  have hunique : ∀ x ∈ l, ∀ y ∈ l, decide (x.1 = name) = true → decide (y.1 = name) = true →
      x = y := by
    intro x hx y hy hxn hyn
    exact List.inj_on_of_nodup_map h hx hy
      ((of_decide_eq_true hxn).trans (of_decide_eq_true hyn).symm)
  simp [Option.map_eq_some_iff, find?_eq_some_iff_of_unique hunique]

/-- A name has a value exactly when the two are an entry. -/
theorem get?_eq_some_iff (m : NameMap α) (name : String) (value : α) :
    m.get? name = some value ↔ (name, value) ∈ m.entries :=
  find?_map_eq_some_iff m.keys_nodup name value

/-- A name without a value is not among the names. -/
theorem get?_eq_none_iff (m : NameMap α) (name : String) :
    m.get? name = none ↔ name ∉ m.keys := by
  rw [mem_keys_iff, Option.eq_none_iff_forall_ne_some, not_exists]
  exact forall_congr' fun value => not_congr (m.get?_eq_some_iff name value)

/-- The test for a name agrees with membership. -/
theorem contains_eq_true_iff (m : NameMap α) (name : String) :
    m.contains name = true ↔ name ∈ m.keys := by
  simp only [contains, keys, List.any_eq_true, decide_eq_true_eq, List.mem_map]

/-- A map is empty when it has no name. -/
theorem isEmpty_eq_true_iff (m : NameMap α) : m.isEmpty = true ↔ ∀ name, name ∉ m.keys := by
  rw [isEmpty, List.isEmpty_iff, ← List.map_eq_nil_iff (f := Prod.fst)]
  exact List.eq_nil_iff_forall_not_mem

end NameMap

namespace NameSet

/-- A set is determined by its members. -/
theorem ext_keys {s t : NameSet} (h : ∀ name, name ∈ s.keys ↔ name ∈ t.keys) : s = t := by
  have hkeys := NameMap.keys_eq_of_mem_iff s t h
  have hentries : s.entries = t.entries :=
    List.map_injective_iff.mpr (fun a b hab => Prod.ext hab rfl) hkeys
  cases s
  cases t
  simpa using hentries

/-- The names after adding a list of names, one after the other. -/
@[simp] theorem mem_keys_addAll (s : NameSet) (names : List String) (name : String) :
    name ∈ (s.addAll names).keys ↔ name ∈ s.keys ∨ name ∈ names := by
  induction names generalizing s with
  | nil => simp [addAll]
  | cons first rest ih =>
    have hstep : s.addAll (first :: rest) = (s.add first).addAll rest := rfl
    rw [hstep, ih, add, NameMap.mem_keys_insert, List.mem_cons, or_comm (a := name = first),
      or_assoc]

/-- The set of a list of names has exactly these. -/
@[simp] theorem mem_keys_ofList (names : List String) (name : String) :
    name ∈ (ofList names).keys ↔ name ∈ names := by
  simp [ofList]

end NameSet

end Registrar
