import Registrar.Proofs.NameMap
import Registrar.SymbolSet

/-!
# The names of a package that survive

A name survives in a category when some declaration of the package makes it public there: neither
the declaration nor, in a group, the spec carries a deprecation mark, the name is exported, and as
a constant or variable it is not excluded. These conditions speak of single declarations and know
no order. The accumulated symbol set of a package has exactly the names that survive.
-/

namespace Registrar

/-- A doc comment that carries a deprecation mark. -/
def IsMarked (doc : Option String) : Prop :=
  ∃ text, doc = some text ∧
    ("Deprecated:".toList <:+: text.toList ∨ "Deprecated.".toList <:+: text.toList)

/-- A spec makes a name public: the spec has no mark, and the name is its own and exported. -/
def Spec.Offers (s : Spec) (name : String) : Prop :=
  ¬ IsMarked s.doc ∧ name ∈ s.names ∧ isExported name = true

namespace Decl

/-- A group of a kind makes a name public: the group has no mark, and a spec offers the name. -/
def GroupOffers (d : Decl) (kind : GroupKind) (name : String) : Prop :=
  ∃ specs, d.body = .group kind specs ∧ ¬ IsMarked d.doc ∧ ∃ s ∈ specs, s.Offers name

/-- A function without a receiver and without a mark makes its own name public. -/
def FunctionOffers (d : Decl) (name : String) : Prop :=
  d.body = .func name false ∧ ¬ IsMarked d.doc ∧ isExported name = true

/-- A declaration makes a name public in a category. Exclusions act on values only. -/
def Offers (excluded : NameSet) (d : Decl) : Category → String → Prop
  | .consts, name => d.GroupOffers .const name ∧ name ∉ excluded.keys
  | .vars, name => d.GroupOffers .var name ∧ name ∉ excluded.keys
  | .types, name => d.GroupOffers .type name
  | .funcs, name => d.FunctionOffers name

end Decl

/-- A name survives in a category: a declaration in a file of the package makes it public there. -/
def Package.Survives (p : Package) (excluded : NameSet) (c : Category) (name : String) : Prop :=
  ∃ file ∈ p.files.values, ∃ d ∈ file.declarations, d.Offers excluded c name

/-- The search for a text finds exactly the texts that contain it. -/
theorem occursIn_eq_true_iff (needle text : List Char) :
    occursIn needle text = true ↔ needle <:+: text := by
  induction text with
  | nil => simp [occursIn]
  | cons c rest ih =>
    rw [occursIn, Bool.or_eq_true, ih, List.isPrefixOf_iff_prefix, List.infix_cons_iff]

/-- The test for a deprecation mark agrees with its definition. -/
theorem isDeprecated_eq_true_iff (doc : Option String) :
    isDeprecated doc = true ↔ IsMarked doc := by
  cases doc with
  | none => simp [isDeprecated, IsMarked]
  | some text =>
    simp only [isDeprecated, deprecationMarks, List.any_cons, List.any_nil, Bool.or_false,
      Bool.or_eq_true, occursIn_eq_true_iff, IsMarked, Option.some.injEq, exists_eq_left']

theorem isDeprecated_eq_false_iff (doc : Option String) :
    isDeprecated doc = false ↔ ¬ IsMarked doc := by
  rw [← isDeprecated_eq_true_iff, Bool.not_eq_true]

namespace SymbolSet

/-- The live names of a list of specs are those that a spec offers. -/
theorem mem_liveNames_iff (specs : List Spec) (name : String) :
    name ∈ liveNames specs ↔ ∃ s ∈ specs, s.Offers name := by
  simp only [liveNames, Spec.exported, List.mem_flatMap, List.mem_filter, Bool.not_eq_true',
    isDeprecated_eq_false_iff, Spec.Offers, and_assoc]

theorem mem_valueNames_iff (excluded : NameSet) (specs : List Spec) (name : String) :
    name ∈ valueNames excluded specs ↔
      (∃ s ∈ specs, s.Offers name) ∧ name ∉ excluded.keys := by
  simp only [valueNames, List.mem_filter, mem_liveNames_iff, Bool.not_eq_true',
    ← Bool.not_eq_true, NameMap.contains_eq_true_iff]

/-- What a declaration contributes is what it makes public. -/
theorem mem_contribution_iff (excluded : NameSet) (d : Decl) (c : Category) (name : String) :
    (contribution excluded d).1 = c ∧ name ∈ (contribution excluded d).2 ↔
      d.Offers excluded c name := by
  obtain ⟨body, doc, path, line⟩ := d
  cases body with
  | group kind specs =>
    by_cases hdoc : IsMarked doc
    · have hdep := (isDeprecated_eq_true_iff doc).mpr hdoc
      cases kind <;> cases c <;>
        simp [contribution, Decl.Offers, Decl.GroupOffers, Decl.FunctionOffers, hdep, hdoc]
    · have hdep := (isDeprecated_eq_false_iff doc).mpr hdoc
      cases kind <;> cases c <;>
        simp [contribution, Decl.Offers, Decl.GroupOffers, Decl.FunctionOffers, hdep, hdoc,
          mem_valueNames_iff, mem_liveNames_iff]
  | func f isMethod =>
    have hone : name ∈ (if isDeprecated doc || isMethod || !isExported f then [] else [f]) ↔
        (f = name ∧ isMethod = false) ∧ ¬ IsMarked doc ∧ isExported name = true := by
      rw [← isDeprecated_eq_false_iff]
      by_cases hname : f = name
      · subst hname
        cases isDeprecated doc <;> cases isMethod <;> cases isExported f <;> simp
      · split <;> simp [hname, Ne.symm hname]
    cases c <;>
      simp only [contribution, Decl.Offers, Decl.GroupOffers, Decl.FunctionOffers, reduceCtorEq,
        false_and, exists_false, true_and, Decl.Body.func.injEq]
    exact hone

/-- The empty symbol set has no name in any category. -/
theorem keys_get_empty (c : Category) : (({} : SymbolSet).get c).keys = [] := by
  cases c <;> rfl

/-- Adding names to one category leaves the others as they are. -/
theorem get_add (s : SymbolSet) (c : Category) (names : List String) (c' : Category) :
    (s.add c names).get c' = if c' = c then (s.get c).addAll names else s.get c' := by
  cases c <;> cases c' <;> rfl

/-- One declaration adds exactly the names that it makes public. -/
theorem mem_addDecl_iff (excluded : NameSet) (s : SymbolSet) (d : Decl) (c : Category)
    (name : String) :
    name ∈ ((addDecl excluded s d).get c).keys ↔
      name ∈ (s.get c).keys ∨ d.Offers excluded c name := by
  rw [addDecl, get_add, ← mem_contribution_iff]
  split
  · rename_i hc
    rw [NameSet.mem_keys_addAll, hc]
    simp
  · rename_i hc
    simp [Ne.symm hc]

/-- A run over declarations adds the names that one of them makes public. -/
theorem mem_foldl_addDecl_iff (excluded : NameSet) (decls : List Decl) (s : SymbolSet)
    (c : Category) (name : String) :
    name ∈ ((decls.foldl (addDecl excluded) s).get c).keys ↔
      name ∈ (s.get c).keys ∨ ∃ d ∈ decls, d.Offers excluded c name := by
  induction decls generalizing s with
  | nil => simp
  | cons d rest ih =>
    rw [List.foldl_cons, ih, mem_addDecl_iff, or_assoc]
    simp

/-- The symbols of a package are the names that survive. -/
theorem mem_ofPackage_iff (excluded : NameSet) (p : Package) (c : Category) (name : String) :
    name ∈ ((ofPackage excluded p).get c).keys ↔ p.Survives excluded c name := by
  rw [ofPackage, mem_foldl_addDecl_iff, keys_get_empty]
  simp only [List.not_mem_nil, false_or, Package.declarations, List.mem_flatMap, Package.Survives]
  constructor
  · rintro ⟨d, ⟨file, hfile, hd⟩, h⟩
    exact ⟨file, hfile, d, hd, h⟩
  · rintro ⟨file, hfile, d, hd, h⟩
    exact ⟨d, ⟨file, hfile, hd⟩, h⟩

theorem mem_sorted_iff (excluded : NameSet) (p : Package) (c : Category) (name : String) :
    name ∈ (ofPackage excluded p).sorted c ↔ p.Survives excluded c name :=
  mem_ofPackage_iff excluded p c name

/-- A symbol set is empty when no category has a name. -/
theorem isEmpty_eq_true_iff (s : SymbolSet) :
    s.isEmpty = true ↔ ∀ c name, name ∉ (s.get c).keys := by
  rw [isEmpty, List.all_eq_true]
  constructor
  · intro h c
    exact (NameMap.isEmpty_eq_true_iff _).mp (h c (by cases c <;> decide))
  · intro h c _
    exact (NameMap.isEmpty_eq_true_iff _).mpr (h c)

/-- A symbol set is determined by the names in its categories. -/
theorem ext_keys {s t : SymbolSet}
    (h : ∀ c name, name ∈ (s.get c).keys ↔ name ∈ (t.get c).keys) : s = t := by
  obtain ⟨c, v, ty, f⟩ := s
  obtain ⟨c', v', ty', f'⟩ := t
  congr 1
  · exact NameSet.ext_keys (h .consts)
  · exact NameSet.ext_keys (h .vars)
  · exact NameSet.ext_keys (h .types)
  · exact NameSet.ext_keys (h .funcs)

end SymbolSet

end Registrar
