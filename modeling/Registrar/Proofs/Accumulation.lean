import Registrar.Proofs.Survivors

/-!
# Accumulation of declarations

Adding a declaration to a symbol set takes no name away, and what it adds is in the one category of
the declaration's kind. So a run over declarations reaches the same symbols in whatever order they
come and however often one of them comes. The names that a run reaches are fit to be public: they
are exported, and no constant or variable is among the excluded names.
-/

namespace Registrar

namespace Decl

variable {excluded : NameSet} {d : Decl} {c : Category} {name : String}

/-- The category of a declaration's kind. -/
def category (d : Decl) : Category :=
  match d.body with
  | .group .const _ => .consts
  | .group .var _ => .vars
  | .group .type _ => .types
  | .func _ _ => .funcs

/-- A declaration makes names public in the category of its kind only. -/
theorem Offers.category_eq (h : d.Offers excluded c name) : c = d.category := by
  cases c with
  | consts =>
    obtain ⟨specs, hspecs, -⟩ := h.1
    rw [category, hspecs]
  | vars =>
    obtain ⟨specs, hspecs, -⟩ := h.1
    rw [category, hspecs]
  | types =>
    obtain ⟨specs, hspecs, -⟩ := h
    rw [category, hspecs]
  | funcs => rw [category, h.1]

theorem GroupOffers.exported {kind : GroupKind} (h : d.GroupOffers kind name) :
    isExported name = true := by
  obtain ⟨specs, -, -, spec, -, hspec⟩ := h
  exact hspec.2.2

/-- What a declaration makes public is exported. -/
theorem Offers.exported (h : d.Offers excluded c name) : isExported name = true := by
  cases c with
  | consts => exact h.1.exported
  | vars => exact h.1.exported
  | types => exact GroupOffers.exported h
  | funcs => exact h.2.2

end Decl

namespace SymbolSet

/-- The names of a symbol set are fit to be public: each is exported, and none of the constants and
variables is excluded. -/
structure IsPublic (excluded : NameSet) (s : SymbolSet) : Prop where
  /-- Every name is exported. -/
  exported : ∀ c, ∀ name ∈ s.sorted c, isExported name = true
  /-- No constant is excluded. -/
  consts : ∀ name ∈ s.sorted .consts, name ∉ excluded.keys
  /-- No variable is excluded. -/
  vars : ∀ name ∈ s.sorted .vars, name ∉ excluded.keys

variable (excluded : NameSet)

/-! ## One declaration -/

/-- A declaration takes no name away. -/
theorem sorted_subset_addDecl (s : SymbolSet) (d : Decl) (c : Category) :
    s.sorted c ⊆ (addDecl excluded s d).sorted c := by
  intro name hname
  exact (mem_addDecl_iff excluded s d c name).mpr (.inl hname)

/-- A declaration leaves the categories of the other kinds as they are. -/
theorem get_addDecl_of_ne (s : SymbolSet) {d : Decl} {c : Category} (h : c ≠ d.category) :
    (addDecl excluded s d).get c = s.get c := by
  refine NameSet.ext_keys fun name => ?_
  have hnone : ¬ d.Offers excluded c name := fun hoffers => h hoffers.category_eq
  rw [mem_addDecl_iff, or_iff_left hnone]

/-- Two declarations can come in either order. -/
theorem addDecl_comm (s : SymbolSet) (d e : Decl) :
    addDecl excluded (addDecl excluded s d) e = addDecl excluded (addDecl excluded s e) d := by
  refine ext_keys fun c name => ?_
  simp only [mem_addDecl_iff]
  exact or_right_comm

/-- A declaration that comes twice adds nothing the second time. -/
theorem addDecl_addDecl (s : SymbolSet) (d : Decl) :
    addDecl excluded (addDecl excluded s d) d = addDecl excluded s d := by
  refine ext_keys fun c name => ?_
  simp only [mem_addDecl_iff]
  rw [or_assoc, or_self]

/-- What a declaration makes public is fit to be so, so the names stay fit. -/
theorem IsPublic.addDecl {excluded : NameSet} {s : SymbolSet} (h : s.IsPublic excluded)
    (d : Decl) : (s.addDecl excluded d).IsPublic excluded where
  exported c name hname := by
    rcases (mem_addDecl_iff excluded s d c name).mp hname with hold | hnew
    · exact h.exported c name hold
    · exact hnew.exported
  consts name hname := by
    rcases (mem_addDecl_iff excluded s d .consts name).mp hname with hold | hnew
    · exact h.consts name hold
    · exact hnew.2
  vars name hname := by
    rcases (mem_addDecl_iff excluded s d .vars name).mp hname with hold | hnew
    · exact h.vars name hold
    · exact hnew.2

/-! ## A run over declarations -/

theorem isPublic_empty : ({} : SymbolSet).IsPublic excluded where
  exported c name hname := by
    rw [sorted, keys_get_empty] at hname
    cases hname
  consts name hname := by cases hname
  vars name hname := by cases hname

theorem IsPublic.foldl_addDecl {excluded : NameSet} {s : SymbolSet} (h : s.IsPublic excluded)
    (decls : List Decl) : (decls.foldl (SymbolSet.addDecl excluded) s).IsPublic excluded := by
  induction decls generalizing s with
  | nil => exact h
  | cons d rest ih => exact ih (h.addDecl d)

/-- Runs over the same declarations reach the same symbols. -/
theorem foldl_addDecl_eq_of_mem_iff (s : SymbolSet) {decls decls' : List Decl}
    (h : ∀ d, d ∈ decls ↔ d ∈ decls') :
    decls.foldl (addDecl excluded) s = decls'.foldl (addDecl excluded) s := by
  refine ext_keys fun c name => ?_
  simp only [mem_foldl_addDecl_iff, h]

/-- The names that a run reaches from none are those that one of its declarations makes public. -/
theorem mem_sorted_foldl_addDecl_iff (decls : List Decl) (c : Category) (name : String) :
    name ∈ (decls.foldl (addDecl excluded) {}).sorted c ↔
      ∃ d ∈ decls, d.Offers excluded c name := by
  rw [sorted, mem_foldl_addDecl_iff, keys_get_empty]
  simp

/-- Adding declarations accumulates in no order. Two of them can change places, and a second time
adds nothing; no name is ever taken away, and no category changes but that of the declaration's
kind. So a run depends on nothing but which declarations it has: from none it reaches the names
that they make public, and all of these are fit to be so. -/
theorem addDecl_accumulates :
    (∀ s d e, addDecl excluded (addDecl excluded s d) e =
      addDecl excluded (addDecl excluded s e) d) ∧
    (∀ s d, addDecl excluded (addDecl excluded s d) d = addDecl excluded s d) ∧
    (∀ s d c, s.sorted c ⊆ (addDecl excluded s d).sorted c) ∧
    (∀ s d c, c ≠ d.category → (addDecl excluded s d).get c = s.get c) ∧
    (∀ s, ∀ decls decls' : List Decl, (∀ d, d ∈ decls ↔ d ∈ decls') →
      decls.foldl (addDecl excluded) s = decls'.foldl (addDecl excluded) s) ∧
    ∀ decls : List Decl, (decls.foldl (addDecl excluded) {}).IsPublic excluded ∧
      ∀ c name, name ∈ (decls.foldl (addDecl excluded) {}).sorted c ↔
        ∃ d ∈ decls, d.Offers excluded c name := by
  refine ⟨addDecl_comm excluded, addDecl_addDecl excluded, sorted_subset_addDecl excluded,
    ?_, ?_, ?_⟩
  · intro s d c hc
    exact get_addDecl_of_ne excluded s hc
  · intro s decls decls' hdecls
    exact foldl_addDecl_eq_of_mem_iff excluded s hdecls
  · intro decls
    exact ⟨(isPublic_empty excluded).foldl_addDecl decls,
      mem_sorted_foldl_addDecl_iff excluded decls⟩

/-- Declarations of the four kinds, with marks on a group and on a spec, a name in several kinds
and one that comes twice. -/
def mixedDecls : List Decl :=
  [{ body := .group .var [{ names := ["Old"], doc := some "Deprecated: gone." },
      { names := ["Draft", "Size", "size"] }] },
    { body := .group .type [{ names := ["Draft"] }] },
    { body := .func "Draft" false },
    { body := .func "Close" true },
    { body := .group .const [{ names := ["Limit"] }], doc := some "Deprecated. Gone." },
    { body := .group .const [{ names := ["Draft", "Zero"] }, { names := ["Zero"] }] }]

/-- The name that several of these declarations have. -/
def draftOnly : NameSet :=
  NameSet.ofList ["Draft"]

theorem addDecl_accumulates_mixedDecls :
    Category.all.map (mixedDecls.foldl (addDecl draftOnly) {}).sorted =
        [["Zero"], ["Size"], ["Draft"], ["Draft"]] ∧
      (∀ d, d ∈ mixedDecls ++ mixedDecls ↔ d ∈ mixedDecls.reverse) ∧
      (mixedDecls ++ mixedDecls).foldl (addDecl draftOnly) {} =
        mixedDecls.reverse.foldl (addDecl draftOnly) {} ∧
      Category.types ≠ Decl.category { body := .func "New" false } ∧
      (addDecl draftOnly {} { body := .func "New" false }).get .types =
        ({} : SymbolSet).get .types := by
  obtain ⟨-, -, -, hothers, hruns, -⟩ := addDecl_accumulates draftOnly
  have hsame : ∀ d, d ∈ mixedDecls ++ mixedDecls ↔ d ∈ mixedDecls.reverse := by
    simp
  have htypes : Category.types ≠ Decl.category { body := .func "New" false } := by
    decide
  exact ⟨by decide, hsame, hruns _ _ _ hsame, htypes, hothers _ _ _ htypes⟩

end SymbolSet

end Registrar
